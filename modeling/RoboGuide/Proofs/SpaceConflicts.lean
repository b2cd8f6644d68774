import RoboGuide.Domain.Resource

/-!
# `RoboGuide.Proofs.SpaceConflicts`: when two deployment declarations exclude each other

`conflicts` compares two boxes axis by axis: it finds no separating axis exactly when the boxes
share a point. Footprints that are invalid or in incomparable frames conflict without a comparison;
in an accepted registry no two entries of one conflict domain do (`topologyEntries_agree`).
-/

namespace RoboGuide.Domain

open ResourceSpaceFootprint ResourceTopologyEntry List

variable {f g : ResourceSpaceFootprint}

namespace ResourceSpaceFootprint

/-- The point lies in the closed box, grown by the clearance on each side. -/
def Inflated (f : ResourceSpaceFootprint) (p : PointMm) : Prop :=
  ∀ b ∈ (f.lowerMm.axes.zip f.upperMm.axes).zip p.axes,
    b.1.1 - f.clearanceMm ≤ b.2 ∧ b.2 ≤ b.1.2 + f.clearanceMm

lemma conflicts_comm (f g : ResourceSpaceFootprint) : f.conflicts g = g.conflicts f := by
  have hsym : ∀ a b : String, (a ≠ b) = (b ≠ a) := fun a b => propext ne_comm
  simp only [conflicts, hsym f.conflictDomain, hsym f.frame, hsym f.anchorRevision,
    Bool.or_comm (!f.valid), PointMm.axes, zip_cons_cons, all_cons, zip_nil_left,
    all_nil]
  simp only [Bool.and_comm]

/-- A valid box has extent, and its inflated bounds are `i64` values. -/
lemma bounds_of_valid (h : f.valid = true) : ∀ b ∈ f.lowerMm.axes.zip f.upperMm.axes,
    i64Min ≤ b.1 - f.clearanceMm ∧ b.1 < b.2 ∧ b.2 + f.clearanceMm ≤ i64Max := by
  intro b hb
  have haxis := List.all_eq_true.mp (Bool.and_eq_true_iff.mp h).2 b hb
  simp only [axisValid, Bool.and_eq_true, decide_eq_true_eq] at haxis
  exact ⟨haxis.1.2, haxis.1.1, haxis.2⟩

lemma conflicts_iff (hf : f.valid = true) (hg : g.valid = true)
    (hdomain : f.conflictDomain = g.conflictDomain) (hframe : f.frame = g.frame)
    (hanchor : f.anchorRevision = g.anchorRevision) :
    f.conflicts g = true ↔ ∃ p, f.Inflated p ∧ g.Inflated p := by
  have hbox := bounds_of_valid hf
  have hbox' := bounds_of_valid hg
  simp only [PointMm.axes, zip_cons_cons, zip_nil_left, forall_mem_cons] at hbox hbox'
  simp only [conflicts, hdomain, hf, hg, hframe, hanchor, Inflated, PointMm.axes,
    zip_cons_cons, zip_nil_left, all_cons, forall_mem_cons, all_nil]
  simp only [ne_eq, not_true, if_false, Bool.not_true, decide_false,
      Bool.or_self, Bool.false_eq_true,
    Bool.and_eq_true, decide_eq_true_eq, and_true]
  constructor
  · intro h
    -- the greater of the two lower bounds, on each axis
    refine ⟨⟨max (f.lowerMm.x - f.clearanceMm) (g.lowerMm.x - g.clearanceMm),
      max (f.lowerMm.y - f.clearanceMm) (g.lowerMm.y - g.clearanceMm),
      max (f.lowerMm.z - f.clearanceMm) (g.lowerMm.z - g.clearanceMm)⟩, ?_⟩
    simp
    omega
  · rintro ⟨p, h, h'⟩
    simp at h h'
    omega

end ResourceSpaceFootprint

namespace ResourceTopologyEntry

lemma conflicts_comm (e e' : ResourceTopologyEntry) : e.conflicts e' = e'.conflicts e := by
  unfold conflicts
  rw [Bool.beq_comm]
  cases e.timeDomain <;> cases e'.timeDomain <;> cases e.space <;> cases e'.space <;>
    simp only [Bool.beq_comm, ResourceSpaceFootprint.conflicts_comm]

lemma footprint_valid {e : ResourceTopologyEntry} (h : e.valid = true) (hf : e.space = some f) :
    f.valid = true := by
  simp only [valid, Bool.and_eq_true, hf, Option.all_some] at h
  exact h.1.2

/-- One reference for each conflict domain. -/
def Agree (e e' : ResourceTopologyEntry) : Prop :=
  ∀ f g, e.space = some f → e'.space = some g → f.conflictDomain = g.conflictDomain →
    f.frame = g.frame ∧ f.anchorRevision = g.anchorRevision

instance : Std.Symm Agree where
  symm _ _ h f g hf hg hdomain := (h g f hg hf hdomain.symm).imp Eq.symm Eq.symm

end ResourceTopologyEntry

lemma topologyEntries_agree {earlier rest : List ResourceTopologyEntry}
    (h : topologyEntriesValid earlier rest = true) (hearlier : earlier.Pairwise Agree) :
    (∀ e ∈ rest, e.valid = true) ∧ (earlier ++ rest).Pairwise Agree := by
  induction rest generalizing earlier with
  | nil => exact ⟨nofun, by rwa [append_nil]⟩
  | cons e rest ih =>
    simp only [topologyEntriesValid, Bool.and_eq_true] at h
    obtain ⟨⟨⟨hvalid, -⟩, hagree⟩, hrest⟩ := h
    have hnew : (earlier ++ [e]).Pairwise Agree := by
      refine List.pairwise_append.mpr ⟨hearlier, pairwise_singleton _ _, ?_⟩
      intro old hold e' he' f g hf hg hdomain
      cases List.mem_singleton.mp he'
      simp only [framed, hg, Option.all_some, all_eq_true] at hagree
      simpa [hf, hdomain] using hagree old hold
    obtain ⟨hvalids, hpairs⟩ := ih hrest hnew
    exact ⟨List.forall_mem_cons.mpr ⟨hvalid, hvalids⟩, by simpa using hpairs⟩

/-- Conflicts are symmetric. Between comparable valid footprints they are the common points of the
inflated boxes, whose bounds are `i64` values. In an accepted registry two entries of one conflict
domain conflict for one resource, one time domain or a common point. -/
theorem space_conflicts_iff :
    (∀ f g : ResourceSpaceFootprint, f.conflicts g = g.conflicts f) ∧
    (∀ e e' : ResourceTopologyEntry, e.conflicts e' = e'.conflicts e) ∧
    (∀ f : ResourceSpaceFootprint, f.valid = true → ∀ b ∈ f.lowerMm.axes.zip f.upperMm.axes,
      i64Min ≤ b.1 - f.clearanceMm ∧ b.1 - f.clearanceMm ≤ i64Max ∧
        i64Min ≤ b.2 + f.clearanceMm ∧ b.2 + f.clearanceMm ≤ i64Max) ∧
    (∀ f g : ResourceSpaceFootprint, f.valid = true → g.valid = true →
      f.conflictDomain = g.conflictDomain → f.frame = g.frame →
      f.anchorRevision = g.anchorRevision →
        (f.conflicts g = true ↔ ∃ p, f.Inflated p ∧ g.Inflated p)) ∧
    ∀ r : ResourceTopologyRegistry, r.valid = true → ∀ e ∈ r.resources, ∀ e' ∈ r.resources,
      ∀ f g, e.space = some f → e'.space = some g → f.conflictDomain = g.conflictDomain →
        (e.conflicts e' = true ↔ e.resourceId = e'.resourceId ∨
          (e.timeDomain.isSome = true ∧ e.timeDomain = e'.timeDomain) ∨
          ∃ p, f.Inflated p ∧ g.Inflated p) := by
  refine ⟨ResourceSpaceFootprint.conflicts_comm, ResourceTopologyEntry.conflicts_comm, ?_, ?_, ?_⟩
  · intro f hf b hb
    have hbounds := bounds_of_valid hf b hb
    omega
  · intro f g hf hg
    exact conflicts_iff hf hg
  · intro r hr e he e' he' f g hf hg hdomain
    obtain ⟨hvalid, hpairs⟩ := topologyEntries_agree (Bool.and_eq_true_iff.mp hr).2 .nil
    have hself : ∀ e ∈ r.resources, e.Agree e := by
      intro e _ f g hf hg _
      cases hf.symm.trans hg
      exact ⟨rfl, rfl⟩
    obtain ⟨hframe, hanchor⟩ := hpairs.forall_of_forall hself he he' f g hf hg hdomain
    rw [← conflicts_iff (footprint_valid (hvalid e he) hf) (footprint_valid (hvalid e' he') hg)
      hdomain hframe hanchor, ResourceTopologyEntry.conflicts, hf, hg]
    cases e.timeDomain <;> cases e'.timeDomain <;> simp [or_assoc]

end RoboGuide.Domain
