import RoboGuide.NodeService.Admission

/-!
# `RoboGuide.Proofs.NodeCapacity`: a Node never lends more than it has

`CapacityRespected` is the purpose of the admission gate: the allocations that nonterminal
executions use fit their resources, the borrowers of an allocation fit it, and no borrower
belongs to two executions. It holds in every state of every run (`node_capacity_respected`).

The check reads the journal in one transaction and the row is committed in a later one. That
is sound because `Fits`, what the check establishes of the live grants with the candidate's,
is kept by every list of fewer grants (`Fits.subperm`), and between the two transactions
other calls only take executions out of the live set (`liveGrants_subperm`).
-/

namespace RoboGuide.NodeService

open Domain Lib Fallible OrdMap
open Option hiding map_map
open List hiding contains contains_insert map_map

variable {grants grants' : List ResourceAllocationGrant} {j : ExecutionJournal}
  {g : ResourceAllocationGrant} {invocation : Invocation}
  {parents : OrdMap AllocationId (ResourceAllocationGrant × Nat)} {a : AllocationId} {id : String}

/-! ### What admission is for -/

def ExecutionJournal.liveGrants (j : ExecutionJournal) : List ResourceAllocationGrant :=
  j.liveEntries.flatMap (·.2.spec.invocationContent.resourceGrants)

def allocationUnits (grants : List ResourceAllocationGrant) (a : AllocationId) : Nat :=
  ((grants.find? fun g => g.allocationId == a).map (·.allocationUnits)).getD 0

def allocationsOn (grants : List ResourceAllocationGrant) (id : ResourceId) :
    Finset AllocationId :=
  ((grants.filter fun g => g.resourceId == id).map (·.allocationId)).toFinset

def lentUnits (grants : List ResourceAllocationGrant) (a : AllocationId) : Nat :=
  ((grants.filter fun g => g.allocationId == a).map (·.units)).sum

structure CapacityRespected (catalog : CompiledLocalCatalog) (j : ExecutionJournal) : Prop where
  /-- Distinct allocations of a divisible resource fit its capacity. -/
  pools : ∀ id resource, catalog.resources.get? id = some resource →
    resource.allocationMode = .divisible →
    ∑ a ∈ allocationsOn j.liveGrants id, allocationUnits j.liveGrants a ≤ resource.capacity
  /-- Every grant of an allocation states the same units. -/
  stated : ∀ g ∈ j.liveGrants, allocationUnits j.liveGrants g.allocationId = g.allocationUnits
  /-- The borrowers of an allocation fit its units. -/
  allocations : ∀ g ∈ j.liveGrants, lentUnits j.liveGrants g.allocationId ≤ g.allocationUnits
  /-- A borrower belongs to one execution. -/
  borrowers : ∀ e₁ ∈ j.liveEntries, ∀ e₂ ∈ j.liveEntries,
    ∀ g₁ ∈ e₁.2.spec.invocationContent.resourceGrants,
    ∀ g₂ ∈ e₂.2.spec.invocationContent.resourceGrants, borrower g₁ = borrower g₂ → e₁.1 = e₂.1

/-! ### Grants that fit -/

/-- The grants respect the capacity of their allocations and resources. -/
structure Fits (catalog : CompiledLocalCatalog) (grants : List ResourceAllocationGrant) : Prop where
  identified : ∀ g ∈ grants, g.allocationId = g.originalAllocationId
  borrowers : (grants.map borrower).Nodup
  allocations : ∀ g ∈ grants, lentUnits grants g.allocationId ≤ g.allocationUnits
  pools : ∀ id resource, catalog.resources.get? id = some resource →
    ∑ a ∈ allocationsOn grants id, allocationUnits grants a ≤ resource.capacity

lemma allocationUnits_of_id {g' : ResourceAllocationGrant}
    (hg : g.allocationId = g.originalAllocationId) (hg' : g'.allocationId = g'.originalAllocationId)
    (h : g.allocationId = g'.allocationId) :
    g.allocationUnits = g'.allocationUnits ∧ g.resourceId = g'.resourceId := by
  rw [hg, hg', ResourceAllocationGrant.originalAllocationId,
    ResourceAllocationGrant.originalAllocationId, AllocationId.mk.injEq] at h
  obtain ⟨hnumbers, htexts⟩ := h
  simp only [cons_append, List.cons.injEq] at hnumbers htexts
  exact ⟨hnumbers.2.1, Ident.text_injective htexts.1⟩

lemma allocationUnits_eq (hid : ∀ g ∈ grants, g.allocationId = g.originalAllocationId)
    (hg : g ∈ grants) : allocationUnits grants g.allocationId = g.allocationUnits := by
  unfold allocationUnits
  cases hfind : grants.find? fun g' => g'.allocationId == g.allocationId with
  | none =>
    rw [find?_eq_none] at hfind
    exact absurd (beq_self_eq_true _) (hfind g hg)
  | some first =>
    have hsame := find?_some hfind
    rw [beq_iff_eq] at hsame
    exact (allocationUnits_of_id (hid first (mem_of_find?_eq_some hfind)) (hid g hg) hsame).1

lemma mem_allocationsOn {id : ResourceId} :
    a ∈ allocationsOn grants id ↔ ∃ g ∈ grants, g.resourceId = id ∧ g.allocationId = a := by
  simp [allocationsOn, and_assoc]

lemma lentUnits_le_of_subperm
    (h : grants'.Subperm grants) (a : AllocationId) : lentUnits grants' a ≤ lentUnits grants a := by
  obtain ⟨l, hperm, hsub⟩ := h
  unfold lentUnits
  rw [← ((hperm.filter _).map _).sum_eq]
  exact ((hsub.filter _).map _).sum_le_sum fun _ _ => Nat.zero_le _

lemma Fits.nil (catalog : CompiledLocalCatalog) : Fits catalog [] where
  identified g hg := by cases hg
  borrowers := nodup_nil
  allocations g hg := by cases hg
  pools _ resource _ := Nat.zero_le resource.capacity

lemma Fits.subperm {catalog : CompiledLocalCatalog}
    (h : Fits catalog grants) (hsub : grants'.Subperm grants) : Fits catalog grants' where
  identified g hg := h.identified g (hsub.subset hg)
  borrowers := by
    obtain ⟨l, hperm, hl⟩ := hsub
    exact (hperm.map borrower).nodup_iff.mp ((hl.map borrower).nodup h.borrowers)
  allocations g hg :=
    Nat.le_trans (lentUnits_le_of_subperm hsub _) (h.allocations g (hsub.subset hg))
  pools id resource hresource := by
    have hsubset : allocationsOn grants' id ⊆ allocationsOn grants id := by
      intro a ha
      obtain ⟨g, hg, hid, rfl⟩ := mem_allocationsOn.mp ha
      exact mem_allocationsOn.mpr ⟨g, hsub.subset hg, hid, rfl⟩
    have hunits : ∀ a ∈ allocationsOn grants' id,
        allocationUnits grants' a = allocationUnits grants a := by
      intro a ha
      obtain ⟨g, hg, -, rfl⟩ := mem_allocationsOn.mp ha
      rw [allocationUnits_eq (fun g hg => h.identified g (hsub.subset hg)) hg,
        allocationUnits_eq h.identified (hsub.subset hg)]
    calc ∑ a ∈ allocationsOn grants' id, allocationUnits grants' a
        = ∑ a ∈ allocationsOn grants' id, allocationUnits grants a := Finset.sum_congr rfl hunits
      _ ≤ ∑ a ∈ allocationsOn grants id, allocationUnits grants a :=
        Finset.sum_le_sum_of_subset hsubset
      _ ≤ resource.capacity := h.pools id resource hresource

/-! ### The check -/

lemma invocationGrants_ok {catalog : CompiledLocalCatalog}
    (h : invocationGrants catalog invocation = .ok grants) :
    grants = invocation.resourceGrants ∧ ∀ g ∈ grants, g.allocationId = g.originalAllocationId := by
  simp only [invocationGrants, bind_eq_ok, checkAgainstEarlier_eq_ok, pure_eq_ok] at h
  obtain ⟨_, -, _, hvalid, _, -, rfl⟩ := h
  refine ⟨rfl, fun g hg => ?_⟩
  obtain ⟨l, r, hsplit⟩ := append_of_mem hg
  have hgrant := hvalid l g r hsplit
  simp only [validateGrant, bind_eq_ok, refuse_eq_ok] at hgrant
  obtain ⟨_, hvalid, -⟩ := hgrant
  simp only [ResourceAllocationGrant.valid, Bool.not_eq_false', Bool.and_eq_true,
    beq_iff_eq] at hvalid
  exact hvalid.1.2

/-- Grants with distinct borrowers, each under its own identity. -/
structure Collected (grants : List ResourceAllocationGrant) : Prop where
  identified : ∀ g ∈ grants, g.allocationId = g.originalAllocationId
  borrowers : (grants.map borrower).Nodup

lemma collectGrants_ok {original : List ResourceAllocationGrant}
    (h : original.foldlM collectGrant grants = .ok grants')
    (hgrants : (grants.map borrower).Nodup) :
    grants' = grants ++ original ∧ (grants'.map borrower).Nodup := by
  induction original generalizing grants with
  | nil =>
    rw [foldlM_nil, pure_eq_ok] at h
    rw [← h, append_nil]
    exact ⟨rfl, hgrants⟩
  | cons g original ih =>
    simp only [foldlM_cons, collectGrant, bind_eq_ok, refuse_eq_ok, pure_eq_ok] at h
    obtain ⟨_, ⟨_, hnew, rfl⟩, h⟩ := h
    have hnodup : ((grants ++ [g]).map borrower).Nodup := by
      rw [map_append, map_singleton, nodup_append]
      refine ⟨hgrants, nodup_singleton _, ?_⟩
      intro b hb b' hb' heq
      obtain ⟨g', hg', rfl⟩ := List.mem_map.mp hb
      rw [List.mem_singleton.mp hb'] at heq
      have hany : (grants.any fun g' => borrower g' == borrower g) = true :=
        List.any_eq_true.mpr ⟨g', hg', beq_iff_eq.mpr heq⟩
      exact absurd (hnew.symm.trans hany) (by decide)
    obtain ⟨hgrants', hnodup'⟩ := ih h hnodup
    refine ⟨?_, hnodup'⟩
    rw [hgrants', append_assoc, singleton_append]

lemma collectInvocations_ok {catalog : CompiledLocalCatalog} {invocations : List Invocation}
    (h : invocations.foldlM (collectInvocation catalog) grants = .ok grants')
    (hgrants : Collected grants) :
    grants' = grants ++ invocations.flatMap (·.resourceGrants) ∧ Collected grants' := by
  induction invocations generalizing grants with
  | nil =>
    rw [foldlM_nil, pure_eq_ok] at h
    rw [← h, flatMap_nil, append_nil]
    exact ⟨rfl, hgrants⟩
  | cons invocation invocations ih =>
    simp only [foldlM_cons, collectInvocation, bind_eq_ok] at h
    obtain ⟨next, ⟨_, horiginal, hcollect⟩, h⟩ := h
    obtain ⟨rfl, hidentified⟩ := invocationGrants_ok horiginal
    obtain ⟨hnext, hnodup⟩ := collectGrants_ok hcollect hgrants.borrowers
    have hcollected : Collected next := by
      refine ⟨fun g hg => ?_, hnodup⟩
      rw [hnext, mem_append] at hg
      exact hg.elim (hgrants.identified g) (hidentified g)
    obtain ⟨hgrants', hcollected'⟩ := ih h hcollected
    refine ⟨?_, hcollected'⟩
    rw [hgrants', hnext, flatMap_cons, append_assoc]

structure Parents (grants : List ResourceAllocationGrant)
    (parents : OrdMap AllocationId (ResourceAllocationGrant × Nat)) : Prop where
  known : ∀ g ∈ grants, parents.contains g.allocationId = true
  described : ∀ a original used, parents.get? a = some (original, used) →
    original ∈ grants ∧ original.allocationId = a ∧ used = lentUnits grants a ∧
      used ≤ original.allocationUnits

lemma lentUnits_concat (grants : List ResourceAllocationGrant) (g : ResourceAllocationGrant)
    (a : AllocationId) :
    lentUnits (grants ++ [g]) a = lentUnits grants a +
      if g.allocationId = a then g.units else 0 := by
  unfold lentUnits
  rw [filter_append, map_append, sum_append]
  by_cases h : g.allocationId = a <;> simp [h]

lemma lentUnits_eq_zero (h : ∀ g ∈ grants, g.allocationId ≠ a) : lentUnits grants a = 0 := by
  have hempty : (grants.filter fun g => g.allocationId == a) = [] := by
    simpa [filter_eq_nil_iff] using h
  rw [lentUnits, hempty]
  rfl

lemma Parents.addBorrower {parents' : OrdMap AllocationId (ResourceAllocationGrant × Nat)}
    (h : Parents grants parents) (hadd : NodeService.addBorrower parents g = .ok parents') : Parents
    (grants ++ [g]) parents' := by
  simp only [NodeService.addBorrower, bind_eq_ok, refuse_eq_ok, decide_eq_false_iff_not,
    Nat.not_lt, pure_eq_ok] at hadd
  obtain ⟨_, -, _, hroom, rfl⟩ := hadd
  -- the entry of the grant's own allocation before it
  have hold : ((parents.get? g.allocationId).getD (g, 0)).2 = lentUnits grants g.allocationId ∧
      ((parents.get? g.allocationId).getD (g, 0)).1 ∈ grants ++ [g] ∧
      ((parents.get? g.allocationId).getD (g, 0)).1.allocationId = g.allocationId := by
    cases hget : parents.get? g.allocationId with
    | none =>
      refine ⟨(lentUnits_eq_zero fun g' hg' hsame => ?_).symm, by simp, rfl⟩
      have hknown := h.known g' hg'
      rw [hsame, contains, hget] at hknown
      cases hknown
    | some entry =>
      obtain ⟨hmem, hid, hused, -⟩ := h.described _ entry.1 entry.2 hget
      exact ⟨hused, mem_append_left _ hmem, hid⟩
  constructor
  · intro g' hg'
    rw [contains_insert]
    rcases List.mem_append.mp hg' with hg' | hg'
    · simp [h.known g' hg']
    · rw [List.mem_singleton.mp hg']
      simp
  · intro a original used hget
    rw [lentUnits_concat]
    rcases insert_cases hget with ⟨rfl, hpair⟩ | ⟨ha, hget⟩
    · obtain ⟨rfl, rfl⟩ := Prod.mk.inj hpair
      refine ⟨hold.2.1, hold.2.2, ?_, hroom⟩
      rw [if_pos rfl, hold.1]
    · obtain ⟨hmem, hid, hused, hle⟩ := h.described a original used hget
      refine ⟨mem_append_left _ hmem, hid, ?_, hle⟩
      rw [if_neg (Ne.symm ha), Nat.add_zero, hused]

def listedUnits (originals : List ResourceAllocationGrant) (id : ResourceId) : Nat :=
  ((originals.filter fun g => g.resourceId == id).map (·.allocationUnits)).sum

lemma listedUnits_concat (originals : List ResourceAllocationGrant) (g : ResourceAllocationGrant)
    (id : ResourceId) : listedUnits (originals ++ [g]) id =
      listedUnits originals id + if g.resourceId = id then g.allocationUnits else 0 := by
  unfold listedUnits
  rw [filter_append, map_append, sum_append]
  by_cases h : g.resourceId = id <;> simp [h]

structure Pools (catalog : CompiledLocalCatalog) (originals : List ResourceAllocationGrant)
    (pools : OrdMap ResourceId Nat) : Prop where
  used : ∀ id, (pools.get? id).getD 0 = listedUnits originals id
  fits : ∀ id resource, catalog.resources.get? id = some resource →
    listedUnits originals id ≤ resource.capacity

lemma Pools.addAllocation {catalog : CompiledLocalCatalog}
    {originals : List ResourceAllocationGrant} {pools pools' : OrdMap ResourceId Nat}
    (h : Pools catalog originals pools)
    (hadd : NodeService.addAllocation catalog pools g = .ok pools') :
    Pools catalog (originals ++ [g]) pools' := by
  simp only [NodeService.addAllocation, bind_eq_ok, okOr_eq_ok, refuse_eq_ok,
    decide_eq_false_iff_not, Nat.not_lt, pure_eq_ok] at hadd
  obtain ⟨_, hresource, _, hroom, rfl⟩ := hadd
  rw [h.used] at hroom
  constructor
  · intro id
    rw [get?_insert, listedUnits_concat]
    by_cases hid : id = g.resourceId
    · subst hid
      rw [if_pos rfl, if_pos rfl, h.used]
      rfl
    · rw [if_neg hid, if_neg (Ne.symm hid), Nat.add_zero, h.used]
  · intro id resource' hresource'
    rw [listedUnits_concat]
    split
    · next hid =>
      subst hid
      cases hresource.symm.trans hresource'
      exact hroom
    · exact h.fits id resource' hresource'

lemma sum_allocationsOn_le (h : Parents grants parents)
    (hid : ∀ g ∈ grants, g.allocationId = g.originalAllocationId) (id : ResourceId) :
    ∑ a ∈ allocationsOn grants id, allocationUnits grants a ≤
      listedUnits (parents.values.map (·.1)) id := by
  let entries := parents.entries.filter fun e => e.2.1.resourceId == id
  have hnodup : (entries.map (·.1)).Nodup :=
    (List.Sublist.map Prod.fst filter_sublist).nodup parents.nodup_keys
  have hlisted : listedUnits (parents.values.map (·.1)) id =
      (entries.map (·.2.1.allocationUnits)).sum := by
    rw [listedUnits, values, List.map_map, List.filter_map, List.map_map]
    rfl
  have hunits : ∀ e ∈ entries, allocationUnits grants e.1 = e.2.1.allocationUnits := by
    intro e he
    have hget := mem_entries_iff.mp (mem_of_mem_filter he)
    obtain ⟨hmem, halloc, -⟩ := h.described e.1 e.2.1 e.2.2 hget
    rw [← halloc]
    exact allocationUnits_eq hid hmem
  have hsubset : allocationsOn grants id ⊆ (entries.map (·.1)).toFinset := by
    intro a ha
    obtain ⟨g, hg, hres, rfl⟩ := mem_allocationsOn.mp ha
    obtain ⟨entry, hget⟩ := contains_eq_true_iff.mp (h.known g hg)
    obtain ⟨hmem, halloc, -⟩ := h.described _ entry.1 entry.2 hget
    have hsame := (allocationUnits_of_id (hid _ hmem) (hid g hg) halloc).2
    rw [List.mem_toFinset, List.mem_map]
    refine ⟨(g.allocationId, entry), List.mem_filter.mpr ⟨?_, ?_⟩, rfl⟩
    · exact mem_entries_iff.mpr hget
    · rw [beq_iff_eq]
      exact hsame.trans hres
  calc ∑ a ∈ allocationsOn grants id, allocationUnits grants a
      ≤ ∑ a ∈ (entries.map (·.1)).toFinset, allocationUnits grants a :=
        Finset.sum_le_sum_of_subset hsubset
    _ = ((entries.map (·.1)).map (allocationUnits grants)).sum := sum_toFinset _ hnodup
    _ = (entries.map (·.2.1.allocationUnits)).sum := by
        rw [List.map_map]
        exact congrArg sum (map_congr_left hunits)
    _ = listedUnits (parents.values.map (·.1)) id := hlisted.symm

lemma validateCapacityAdmission_fits {catalog : CompiledLocalCatalog}
    (h : validateCapacityAdmission catalog j (some (id, invocation)) = .ok ())
    (hnew : j.executions.get? id = none) :
    Fits catalog (j.liveGrants ++ invocation.resourceGrants) := by
  simp only [validateCapacityAdmission, capacityRecords, bind_eq_ok, refuse_eq_ok, pure_eq_ok,
    all_some, toList_some, map_cons, map_nil] at h
  obtain ⟨_, ⟨_, -, rfl⟩, grants, hgrants, _, hparents, _, hpools, -⟩ := h
  -- the candidate has no row that could be skipped
  have hothers : (j.liveEntries.filter fun e => id != e.1) = j.liveEntries := by
    rw [filter_eq_self]
    intro e he
    rw [bne_iff_ne]
    rintro rfl
    have hget := mem_entries_iff.mp (mem_of_mem_filter he)
    cases hnew.symm.trans hget
  rw [hothers] at hgrants
  obtain ⟨hcollected, hdistinct⟩ := collectInvocations_ok hgrants ⟨by simp, by simp⟩
  have heq : grants = j.liveGrants ++ invocation.resourceGrants := by
    rw [hcollected, ExecutionJournal.liveGrants]
    simp [flatMap_map]
  have hnone : Parents [] ∅ := ⟨by simp, by simp⟩
  have hunused : Pools catalog [] ∅ := ⟨fun _ => rfl, fun _ _ _ => Nat.zero_le _⟩
  have hp := foldlM_appends Parents.addBorrower hparents hnone
  have hq := foldlM_appends Pools.addAllocation hpools hunused
  rw [nil_append] at hp hq
  rw [← heq]
  refine ⟨hdistinct.identified, hdistinct.borrowers, fun g hg => ?_, fun id resource hres => ?_⟩
  · obtain ⟨entry, hget⟩ := contains_eq_true_iff.mp (hp.known g hg)
    obtain ⟨hmem, halloc, hused, hle⟩ := hp.described _ entry.1 entry.2 hget
    rw [← (allocationUnits_of_id (hdistinct.identified _ hmem)
        (hdistinct.identified g hg) halloc).1,
      ← hused]
    exact hle
  · exact Nat.le_trans (sum_allocationsOn_le hp hdistinct.identified id) (hq.fits id resource hres)

/-! ### Between the check and the commit -/

lemma liveGrants_subperm {j' : ExecutionJournal} (h : ∀ id e', j'.executions.get? id = some e' →
      ∃ e, j.executions.get? id = some e ∧ RowAges e e') : j'.liveGrants.Subperm j.liveGrants := by
  -- both lists are read off the grants of `j` by identity
  let grantsOf : String → List ResourceAllocationGrant := fun id =>
    ((j.executions.get? id).map (·.spec.invocationContent.resourceGrants)).getD []
  have hread : ∀ j₁ : ExecutionJournal, (∀ e ∈ j₁.liveEntries,
      e.2.spec.invocationContent.resourceGrants = grantsOf e.1) →
      j₁.liveGrants = (j₁.liveEntries.map (·.1)).flatMap grantsOf := by
    intro j₁ hj₁
    rw [flatMap_map]
    exact flatMap_congr hj₁
  have hlive : ∀ e' ∈ j'.liveEntries, ∃ e, j.executions.get? e'.1 = some e ∧ RowAges e e'.2 ∧
      (e'.1, e) ∈ j.liveEntries := by
    intro e' he'
    obtain ⟨hmem, hopen⟩ := List.mem_filter.mp he'
    obtain ⟨e, he, hages⟩ := h e'.1 e'.2 (mem_entries_iff.mp hmem)
    refine ⟨e, he, hages, List.mem_filter.mpr ⟨mem_entries_iff.mpr he, ?_⟩⟩
    cases hterminal : e.status.isTerminal with
    | false => rfl
    | true =>
      rw [hages.terminal hterminal] at hopen
      cases hopen
  have hj' : j'.liveGrants = (j'.liveEntries.map (·.1)).flatMap grantsOf := by
    refine hread j' fun e' he' => ?_
    obtain ⟨e, he, hages, -⟩ := hlive e' he'
    simp only [grantsOf, he, map_some, getD_some, hages.spec]
  have hj : j.liveGrants = (j.liveEntries.map (·.1)).flatMap grantsOf := by
    refine hread j fun e he => ?_
    have hget := mem_entries_iff.mp (mem_of_mem_filter he)
    simp only [grantsOf, hget, map_some, getD_some]
  have hkeys : (j'.liveEntries.map (·.1)).Subperm (j.liveEntries.map (·.1)) := by
    refine subperm_of_subset ?_ fun id hid => ?_
    · exact (List.Sublist.map Prod.fst filter_sublist).nodup j'.executions.nodup_keys
    · obtain ⟨e', he', rfl⟩ := List.mem_map.mp hid
      obtain ⟨e, -, -, hmem⟩ := hlive e' he'
      exact List.mem_map.mpr ⟨_, hmem, rfl⟩
  obtain ⟨l, hperm, hsub⟩ := hkeys
  rw [hj', hj]
  exact ⟨l.flatMap grantsOf, hperm.flatMap_right _, hsub.flatMap _⟩

lemma liveGrants_inserted {e : JournalExecution}
    (hnew : j.executions.get? id = none) : (j.setExecution id e).liveGrants.Subperm
      (j.liveGrants ++ e.spec.invocationContent.resourceGrants) := by
  have hentries : ((j.executions.insert id e).entries).Perm ((id, e) :: j.executions.entries) :=
    perm_insertEntry e hnew
  have hlive : ((j.setExecution id e).liveEntries).Perm
      (((id, e) :: j.executions.entries).filter fun e => !e.2.status.isTerminal) :=
    hentries.filter _
  have hgrants := hlive.flatMap_right (·.2.spec.invocationContent.resourceGrants)
  refine hgrants.subperm.trans ?_
  rw [filter_cons]
  split
  · rw [flatMap_cons]
    exact List.perm_append_comm.subperm
  · exact (sublist_append_left _ _).subperm

/-! ### Runs -/

/-- Live grants fit, and so do those of a validated admission. -/
structure NodeInv (catalog : CompiledLocalCatalog) (n : Node) : Prop where
  fits : Fits catalog n.journal.liveGrants
  absent : ∀ a, n.gate = some a → a.phase ≠ .entered →
    n.journal.executions.get? a.executionId = none
  validated : ∀ a, n.gate = some a → a.phase = .validated →
    Fits catalog (n.journal.liveGrants ++ a.spec.invocationContent.resourceGrants)

namespace NodeInv

variable {catalog : CompiledLocalCatalog} {n : Node}

lemma initial : NodeInv catalog .initial where
  fits := .nil catalog
  absent a ha := by cases ha
  validated a ha := by cases ha

variable (h : NodeInv catalog n)
include h

lemma aged (isOpen : Bool) (hrow : ∀ id e', j.executions.get? id = some e' →
      ∃ e, n.journal.executions.get? id = some e ∧ RowAges e e') :
    NodeInv catalog { n with journal := j, isOpen } where
  fits := h.fits.subperm (liveGrants_subperm hrow)
  absent a ha hphase := by
    show j.executions.get? a.executionId = none
    cases hget : j.executions.get? a.executionId with
    | none => rfl
    | some e' =>
      obtain ⟨e, he, -⟩ := hrow _ e' hget
      cases (h.absent a ha hphase).symm.trans he
  validated a ha hphase := (h.validated a ha hphase).subperm
    ((subperm_append_right _).mpr (liveGrants_subperm hrow))

lemma released (isOpen : Bool) : NodeInv catalog { n with gate := none, isOpen } where
  fits := h.fits
  absent a ha := by cases ha
  validated a ha := by cases ha

lemma prepared (a : Admission) (hfits : n.journal.executions.get? a.executionId = none →
      Fits catalog (n.journal.liveGrants ++ a.spec.invocationContent.resourceGrants)) :
    NodeInv catalog { n with
      journal := state (prepareDispatch a.executionId a.spec n.journal), gate := none } := by
  suffices hlive : Fits catalog
      (state (prepareDispatch a.executionId a.spec n.journal)).liveGrants from
    ⟨hlive, fun _ ha => (by cases ha), fun _ ha => (by cases ha)⟩
  rcases prepareDispatch_cases a.executionId a.spec n.journal with
    ⟨hnew, -, hrun⟩ | ⟨hnew, hrun⟩ | ⟨-, hsame⟩
  · rw [hrun]
    exact (hfits hnew).subperm (liveGrants_inserted hnew)
  · rw [hrun]
    exact (hfits hnew).subperm (liveGrants_inserted hnew)
  · rw [hsame]
    exact h.fits

lemma proceedIn (phase : AdmissionPhase) : NodeInv catalog (n.proceedIn catalog phase) := by
  unfold Node.proceedIn
  split
  · next a ha =>
    split
    · unfold Node.proceed
      split
      · split
        · next hknown =>
          refine h.prepared a fun hnew => ?_
          rw [contains, hnew] at hknown
          cases hknown
        · next hunknown =>
          have hnew : n.journal.executions.get? a.executionId = none := by
            simpa [contains] using hunknown
          refine ⟨h.fits, fun a' ha' _ => ?_, fun a' ha' hphase => ?_⟩
          · cases ha'
            exact hnew
          · cases ha'
            cases hphase
      · next hphase =>
        have hnew := h.absent a ha (by rw [hphase]; decide)
        split
        · next hvalid =>
          refine ⟨h.fits, fun a' ha' _ => ?_, fun a' ha' _ => ?_⟩
          · cases ha'
            exact hnew
          · cases ha'
            exact validateCapacityAdmission_fits hvalid hnew
        · exact h.released n.isOpen
      · next hphase => exact h.prepared a fun _ => h.validated a ha hphase
    · exact h
  · exact h

lemma step (m : NodeMove) : NodeInv catalog (n.step catalog m) := by
  cases m with
  | enter =>
    dsimp only [Node.step]
    split
    · refine ⟨h.fits, fun a ha hphase => ?_, fun a ha hphase => ?_⟩
      · cases ha
        exact absurd rfl hphase
      · cases ha
        cases hphase
    · exact h
  | lookUp => exact h.proceedIn .entered
  | validate => exact h.proceedIn .absent
  | prepare => exact h.proceedIn .validated
  | abandon => exact h.released n.isOpen
  | fact call =>
    dsimp only [Node.step]
    split
    · exact h.aged n.isOpen fun id e' he' => call.row n.journal he'
    · exact h
  | stop => exact h.released false
  | interruptedOpen =>
    dsimp only [Node.step]
    split
    · exact h
    · exact h.aged n.isOpen fun id e' he' =>
        (ages_recovered n.journal fun _ hs => mem_of_mem_take hs).row he'
  | reopen =>
    dsimp only [Node.step]
    split
    · exact h
    · exact h.aged true fun id e' he' => (ages_recovered n.journal fun _ hs => hs).row he'

end NodeInv

lemma Fits.capacityRespected {catalog : CompiledLocalCatalog}
    (h : Fits catalog j.liveGrants) : CapacityRespected catalog j where
  pools id resource hresource _ := h.pools id resource hresource
  stated g hg := allocationUnits_eq h.identified hg
  allocations := h.allocations
  borrowers e₁ he₁ e₂ he₂ g₁ hg₁ g₂ hg₂ hsame := by
    have hnodup := h.borrowers
    rw [ExecutionJournal.liveGrants, map_flatMap, nodup_flatMap] at hnodup
    by_contra hne
    have hsymm : Std.Symm (Function.onFun List.Disjoint fun e : String × JournalExecution =>
        e.2.spec.invocationContent.resourceGrants.map borrower) := ⟨fun _ _ hd => hd.symm⟩
    have hdisjoint := hnodup.2.forall he₁ he₂ fun heq => hne (congrArg Prod.fst heq)
    exact hdisjoint (mem_map_of_mem hg₁) (hsame ▸ mem_map_of_mem hg₂)

/-- In every state of every run of a Node, the nonterminal executions respect its capacity. -/
theorem node_capacity_respected {catalog : CompiledLocalCatalog} {n : Node}
    (hrun : Node.Run catalog .initial n) : CapacityRespected catalog n.journal :=
  (hrun.invariant (P := NodeInv catalog) .initial fun _ m h _ => h.step m).fits.capacityRespected

namespace SharedCompute

def resource : Resource :=
    ⟨⟨"compute", .refl false⟩, .compute, 4, .divisible, some "slots", by decide⟩

def catalog : CompiledLocalCatalog where
  nodeId := ⟨"node", .refl false⟩
  supportsCapacity := true
  resources := OrdMap.ofList [(resource.id, resource)]

def mission : MissionId := ⟨"mission", .refl false⟩

def group : ExecutionGroupId := ⟨"group", .refl false⟩

def role : RoleId := ⟨"role", .refl false⟩

def grant (task : TaskId) (units generation : Nat) : ResourceAllocationGrant :=
  let g : ResourceAllocationGrant :=
    { allocationId := ⟨[], []⟩, generation, resourceId := resource.id, resourceClass := "slots",
      nodeId := catalog.nodeId, groupId := group, owner := .task ⟨mission, task⟩,
      tenantId := "tenant", taskRef := ⟨mission, task⟩, roleId := role, units,
      allocationUnits := units, admittedCapacity := 4 }
  { g with allocationId := g.originalAllocationId }

def spec (task : TaskId) (units generation : Nat) : ExecutionSpec where
  invocationContent :=
    ⟨mission, task, group, role, [resource.id], [grant task units generation], none, "work"⟩
  workflowDigest := "workflow"
  resourceIds := [resource.id]

def admission (id : String) (s : ExecutionSpec) : List NodeMove :=
  [.enter id s, .lookUp, .validate, .prepare]

/-- An execution is left ambiguous by a restart; then two others ask for what is left. -/
def moves : List NodeMove :=
  [.reopen] ++ admission "first" (spec ⟨"first", .refl false⟩ 3 1) ++
    [.fact (.authorizeLocalDispatch "first"), .stop, .reopen] ++
    admission "second" (spec ⟨"second", .refl false⟩ 2 2) ++
    admission "third" (spec ⟨"third", .refl false⟩ 1 3)

end SharedCompute

/-- The second execution does not fit beside the ambiguous first one, the third does. -/
theorem shared_compute_respects_capacity : CapacityRespected SharedCompute.catalog
      (SharedCompute.moves.foldl (Node.step SharedCompute.catalog) .initial).journal ∧
    (SharedCompute.moves.foldl (Node.step SharedCompute.catalog) .initial).journal.liveEntries.map
      (·.1) = ["first", "third"] := by
  refine ⟨node_capacity_respected (Reaches.of_list SharedCompute.moves .refl ?_), by decide +kernel⟩
  exact ⟨trivial, trivial, trivial, trivial, trivial, trivial, trivial, trivial, trivial, trivial,
    trivial, trivial, trivial, trivial, trivial, trivial, trivial⟩

end RoboGuide.NodeService
