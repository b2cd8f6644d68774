import RoboGuide.Control.Admission

/-!
# `RoboGuide.Control.Backing`: the ledgers agree with the tables in every run

Allocations are stored under their identity, claims under the identity of what they are
charged for, and every claim is backed: by an allocation that is still in the ledger, or by
a reservation that is still held. This holds after every call, whatever the callers do
(`Effect.ledgersSound`).
-/

namespace RoboGuide.Control

open Domain Lib Fallible ControlPlane List Option

variable {reserved : ResourceId → Prop} {d : ResourceId × ResourceRequirement}
  {c c' charged : ControlPlane} {e : Evidence} {l l' : CapacityLedger} {a : AllocationId}
  {q q' : QuotaLedger} {record : CapacityAllocation} {group : ExecutionGroupId}
  {mission : MissionId} {p : AssignmentProposal} {role : RoleRequirement} {call : Call}
  {demands : List QuotaDemand} {claim : QuotaClaim} {task : TaskRef} {tenant : String}
  {ids resources : List ResourceId} {capacity : Option (CapacityLedger × QuotaLedger)}
  {requirement : TaskRequirement} {g : ExecutionGroup} {id : ExecutionGroupId}

/-- Every claim has its object: an allocation of `l`, or a resource that is `reserved`. -/
def ClaimsBacked (l : CapacityLedger) (reserved : ResourceId → Prop) (q : QuotaLedger) : Prop :=
  ∀ id claim, q.claims.get? id = some claim →
    (∀ a, claim.allocationId = some a → l.allocations.contains a = true) ∧
    (claim.allocationId = none → ∃ r, claim.resourceId = some r ∧ reserved r)

/-- Rows are stored under their identities, and claims are backed by what they pay for. -/
structure LedgersSound (c : ControlPlane) : Prop where
  keyed : c.capacityLedger.Keyed
  identified : c.quotaLedger.Identified
  backed : ClaimsBacked c.capacityLedger (fun r => c.reservations.contains r = true) c.quotaLedger

lemma LedgersSound.congr (h : LedgersSound c)
    (hledger : c'.capacityLedger = c.capacityLedger) (hclaims : c'.quotaLedger.claims =
      c.quotaLedger.claims) (hreservations : c'.reservations = c.reservations) :
    LedgersSound c' where
  keyed := hledger ▸ h.keyed
  identified := fun id claim hget => h.identified id claim (hclaims ▸ hget)
  backed id claim hget := by
    rw [hledger, hreservations]
    exact h.backed id claim (hclaims ▸ hget)

/-! ### Giving back -/

section

lemma releaseResources_claims (c : ControlPlane) (rs : List ResourceId) (id : ClaimId)
    (claim : QuotaClaim) : (c.releaseResources rs).quotaLedger.claims.get? id = some claim ↔
      c.quotaLedger.claims.get? id = some claim ∧
        (claim.allocationId = none → ∀ r ∈ rs, claim.resourceId ≠ some r) := by
  unfold releaseResources
  induction rs generalizing c with
  | nil => simp
  | cons r rs ih =>
    rw [foldl_cons, ih (c.releaseResource r)]
    simp only [releaseResource, releaseResourceQuota,
      QuotaLedger.releaseResource, get?_eq_some_retain, forall_mem_cons, and_assoc]
    refine and_congr_right fun _ => ?_
    cases claim.allocationId <;> simp

lemma releaseAllocationClaims_claims (q : QuotaLedger) (removed : List AllocationId)
    (id : ClaimId) (claim : QuotaClaim) :
    (releaseAllocationClaims q removed).claims.get? id = some claim ↔
      q.claims.get? id = some claim ∧ ∀ a ∈ removed, claim.allocationId ≠ some a := by
  unfold releaseAllocationClaims
  induction removed generalizing q with
  | nil => simp
  | cons a removed ih =>
    rw [foldl_cons, ih]
    simp only [QuotaLedger.releaseAllocation, get?_eq_some_retain, forall_mem_cons,
      and_assoc, bne_iff_ne]

lemma retainCapacity_claims (c : ControlPlane) (keep : CapacityAllocation → Bool)
    (id : ClaimId) (claim : QuotaClaim) :
    (c.retainCapacity keep).quotaLedger.claims.get? id = some claim ↔
      c.quotaLedger.claims.get? id = some claim ∧
        ∀ a record, c.capacityLedger.allocations.get? a = some record → keep record = false →
          claim.allocationId ≠ some a := by
  unfold retainCapacity
  simp only [releaseAllocationClaims_claims, mem_keys_iff, get?_eq_some_retain,
    Bool.not_eq_true', forall_exists_index, and_imp]

lemma retainCapacity_allocations (c : ControlPlane) (keep : CapacityAllocation → Bool)
    (a : AllocationId) (record : CapacityAllocation) :
    (c.retainCapacity keep).capacityLedger.allocations.get? a = some record ↔
      c.capacityLedger.allocations.get? a = some record ∧ keep record = true :=
  get?_eq_some_retain _ _ _ _

lemma LedgersSound.releaseResources (h : LedgersSound c) (rs : List ResourceId) :
    LedgersSound (c.releaseResources rs) where
  keyed := by
    rw [releaseResources_capacityLedger]
    exact h.keyed
  identified := fun id claim hget =>
    h.identified id claim ((releaseResources_claims c rs id claim).mp hget).1
  backed id claim hget := by
    obtain ⟨hold, hrs⟩ := (releaseResources_claims c rs id claim).mp hget
    obtain ⟨halloc, hres⟩ := h.backed id claim hold
    rw [releaseResources_capacityLedger]
    refine ⟨halloc, fun hnone => ?_⟩
    obtain ⟨r, hr, hheld⟩ := hres hnone
    refine ⟨r, hr, ?_⟩
    have hnot : r ∉ rs := fun hmem => hrs hnone r hmem hr
    show ((c.releaseResources rs).reservations.get? r).isSome = true
    rw [releaseResources_reservations_get?, if_neg hnot]
    exact hheld

lemma LedgersSound.retainCapacity (h : LedgersSound c) (keep : CapacityAllocation → Bool) :
    LedgersSound (c.retainCapacity keep) where
  keyed := fun a record hget =>
    h.keyed a record ((retainCapacity_allocations c keep a record).mp hget).1
  identified := fun id claim hget =>
    h.identified id claim ((retainCapacity_claims c keep id claim).mp hget).1
  backed id claim hget := by
    obtain ⟨hold, hkept⟩ := (retainCapacity_claims c keep id claim).mp hget
    obtain ⟨halloc, hres⟩ := h.backed id claim hold
    refine ⟨fun a ha => ?_, hres⟩
    obtain ⟨record, hrecord⟩ := contains_eq_true_iff.mp (halloc a ha)
    refine contains_eq_true_iff.mpr
      ⟨record, (retainCapacity_allocations c keep a record).mpr ⟨hrecord, ?_⟩⟩
    by_contra hdrop
    exact hkept a record hrecord (by simpa using hdrop) ha

lemma LedgersSound.mapRecords (h : LedgersSound c)
    {f : AllocationId → CapacityAllocation → CapacityAllocation}
    (hf : ∀ a record, (f a record).original = record.original) :
    LedgersSound { c with capacityLedger.allocations := c.capacityLedger.allocations.mapValues f }
    where
  keyed a record hget := by
    rw [get?_mapValues] at hget
    obtain ⟨old, hold, rfl⟩ := map_eq_some_iff.mp hget
    rw [hf]
    exact h.keyed a old hold
  identified := h.identified
  backed id claim hget := by
    obtain ⟨halloc, hres⟩ := h.backed id claim hget
    refine ⟨fun a ha => ?_, hres⟩
    simpa [OrdMap.contains, get?_mapValues] using halloc a ha

lemma endBorrowing_original (group : ExecutionGroupId) (task : TaskRef) (role : Option RoleId)
    (record : CapacityAllocation) :
    (endBorrowing group task role record).original = record.original := by
  unfold endBorrowing
  split <;> rfl

lemma LedgersSound.releaseCapacityTask (h : LedgersSound c) (group : ExecutionGroupId)
    (task : TaskRef) (role : Option RoleId) :
    LedgersSound (c.releaseCapacityTask group task role) :=
  (h.mapRecords fun _ record => endBorrowing_original group task role record).retainCapacity _

lemma LedgersSound.releaseGroupOwnership (h : LedgersSound c) (id : ExecutionGroupId)
    (rs : List ResourceId) : LedgersSound (c.releaseGroupOwnership id rs) :=
  ((h.retainCapacity _).releaseResources rs).congr rfl rfl rfl

end

/-! ### Marking what Bind attaches -/

def SameGrants (l l' : CapacityLedger) : Prop :=
  ∀ a, (l'.allocations.get? a).map (fun r => (r.original, r.borrowers)) =
    (l.allocations.get? a).map fun r => (r.original, r.borrowers)

lemma SameGrants.get? (h : SameGrants l l') (hget : l'.allocations.get? a = some record) :
    ∃ old, l.allocations.get? a = some old ∧ record.original = old.original ∧
      record.borrowers = old.borrowers := by
  have ha := h a
  rw [hget] at ha
  obtain ⟨old, hold, heq⟩ := map_eq_some_iff.mp ha.symm
  obtain ⟨horiginal, hborrowers⟩ := Prod.mk.inj heq
  exact ⟨old, hold, horiginal.symm, hborrowers.symm⟩

lemma SameGrants.contains (h : SameGrants l l') (a : AllocationId) :
    l'.allocations.contains a = l.allocations.contains a := by
  have ha := congrArg isSome (h a)
  simpa [OrdMap.contains] using ha

lemma updateBindingReservation_sameGrants (c : ControlPlane) (id : ResourceId)
    (group : ExecutionGroupId) (task : TaskRef) (role : RoleId) (f : Reservation → Reservation) :
    SameGrants c.capacityLedger
      (c.updateBindingReservation id group task role f).capacityLedger := by
  intro a
  unfold updateBindingReservation
  split
  · rfl
  · split
    · simp only [get?_modify]
      split
      · next h => simp [h, Function.comp_def]
      · rfl
    · rfl

lemma bindReservations_sameGrants (c : ControlPlane) (group : ExecutionGroupId)
    (plan : CommittedPlan) :
    SameGrants c.capacityLedger (bindReservations group plan c).capacityLedger := by
  unfold bindReservations
  refine foldl_keeps (P := fun c' : ControlPlane => SameGrants c.capacityLedger c'.capacityLedger)
    (fun c₁ a _ h₁ => ?_) (fun _ => rfl)
  refine foldl_keeps (P := fun c' : ControlPlane => SameGrants c.capacityLedger c'.capacityLedger)
    (fun c₂ id _ h₂ a => ?_) h₁
  exact (updateBindingReservation_sameGrants c₂ _ _ _ _ _ a).trans (h₂ a)

lemma reserveReplacement_sameGrants (e : Evidence) (p : RecoveryAssignmentProposal)
    (c : ControlPlane) (id : ResourceId) :
    SameGrants c.capacityLedger (reserveReplacement e p c id).capacityLedger := by
  unfold reserveReplacement
  split
  · exact updateBindingReservation_sameGrants _ _ _ _ _ _
  · exact fun _ => rfl

lemma reserveReplacements_sameGrants (e : Evidence) (p : RecoveryAssignmentProposal)
    (c : ControlPlane) (ids : List ResourceId) :
    SameGrants c.capacityLedger (ids.foldl (reserveReplacement e p) c).capacityLedger :=
  foldl_keeps (P := fun c' : ControlPlane => SameGrants c.capacityLedger c'.capacityLedger)
    (fun c₂ id _ h₂ a => (reserveReplacement_sameGrants e p c₂ id a).trans (h₂ a)) (fun _ => rfl)

lemma LedgersSound.of_sameGrants (h : LedgersSound c)
    (hgrants : SameGrants c.capacityLedger c'.capacityLedger)
    (hclaims : c'.quotaLedger.claims = c.quotaLedger.claims)
    (hreserved : ∀ r, c.reservations.contains r = true → c'.reservations.contains r = true) :
    LedgersSound c' where
  keyed a record hget := by
    obtain ⟨old, hold, horiginal, -⟩ := hgrants.get? hget
    rw [horiginal]
    exact h.keyed a old hold
  identified := fun id claim hget => h.identified id claim (hclaims ▸ hget)
  backed id claim hget := by
    obtain ⟨halloc, hres⟩ := h.backed id claim (hclaims ▸ hget)
    refine ⟨fun a ha => (hgrants.contains a).trans (halloc a ha), fun hnone => ?_⟩
    obtain ⟨r, hr, hheld⟩ := hres hnone
    exact ⟨r, hr, hreserved r hheld⟩

/-! ### Charging -/

lemma trackResource_identified {id : ClaimId}
    (hq : q.Identified) (h : q.trackResource id claim = .ok q') : q'.Identified := by
  obtain ⟨_, _, hfor, rfl⟩ := trackResource_claims hq h
  intro id' claim' hget
  rcases insert_cases hget with ⟨rfl, rfl⟩ | ⟨-, hget⟩
  · rwa [hfor.identifiedBy]
  · exact hq id' claim' hget

lemma trackResource_backed {id : ClaimId} (hq : q.Identified)
    (hbacked : ClaimsBacked l reserved q)
    (halloc : ∀ a, claim.allocationId = some a → l.allocations.contains a = true)
    (hres : claim.allocationId = none → ∃ r, claim.resourceId = some r ∧ reserved r)
    (h : q.trackResource id claim = .ok q') : ClaimsBacked l reserved q' := by
  obtain ⟨-, _, hfor, rfl⟩ := trackResource_claims hq h
  intro id' claim' hget
  rcases insert_cases hget with ⟨rfl, rfl⟩ | ⟨-, hget⟩
  · rw [hfor.allocation, hfor.resource]
    exact ⟨halloc, hres⟩
  · exact hbacked id' claim' hget

lemma ClaimsBacked.mono {reserved reserved' : ResourceId → Prop} (h : ClaimsBacked l reserved q)
    (hl : ∀ a, l.allocations.contains a = true → l'.allocations.contains a = true)
    (hr : ∀ r, reserved r → reserved' r) : ClaimsBacked l' reserved' q := by
  intro id claim hget
  obtain ⟨halloc, hres⟩ := h id claim hget
  refine ⟨fun a ha => hl a (halloc a ha), fun hnone => ?_⟩
  obtain ⟨r, hcr, hreserved⟩ := hres hnone
  exact ⟨r, hcr, hr r hreserved⟩

structure BatchSound (reserved : ResourceId → Prop) (b : CapacityLedger × QuotaLedger) :
    Prop where
  keyed : b.1.Keyed
  identified : b.2.Identified
  backed : ClaimsBacked b.1 reserved b.2

lemma DemandAdmitted.batchSound {a : RoleAssignment} {node : NodeRegistration}
    {b b' : CapacityLedger × QuotaLedger} (h : DemandAdmitted c group task tenant a node b d b')
    (hb : BatchSound reserved b)
    (hreserved : d.2.allocationMode = .exclusive → reserved d.1) : BatchSound reserved b' := by
  cases h with
  | exclusive mode free claim =>
    refine ⟨hb.keyed, trackResource_identified hb.identified claim,
      trackResource_backed hb.identified hb.backed (by simp [resourceClaim]) (fun _ => ?_) claim⟩
    exact ⟨d.1, rfl, hreserved mode⟩
  | divisible mode request_ok pre admission claim =>
    have hbacked := hb.backed.mono (fun a => admission.kept) (fun r hr => hr)
    refine ⟨admission.keyed hb.keyed, trackResource_identified hb.identified claim,
      trackResource_backed hb.identified hbacked (fun a ha => ?_)
        (by simp [allocationClaim]) claim⟩
    cases ha
    exact admission.granted hb.keyed

lemma trackDemands_sound (hq : q.Identified)
    (hbacked : ClaimsBacked l reserved q) (hreserved : ∀ d ∈ demands, reserved d.resourceId)
    (h : trackDemands tenant demands q = .ok q') : q'.Identified ∧ ClaimsBacked l reserved q' := by
  refine foldlM_invariant (P := fun q => q.Identified ∧ ClaimsBacked l reserved q)
    (fun d hd q₁ q₂ h₁ hstep => ?_) ⟨hq, hbacked⟩ h
  have hstep := liftQuota_eq_ok.mp hstep
  refine ⟨trackResource_identified h₁.1 hstep,
    trackResource_backed h₁.1 h₁.2 (by simp [resourceClaim]) (fun _ => ?_) hstep⟩
  exact ⟨d.resourceId, rfl, hreserved d hd⟩

lemma quotaCandidate_sound (hq : c.quotaLedger.Identified)
    (hbacked : ClaimsBacked l reserved c.quotaLedger)
    (hreserved : ∀ d ∈ demands, reserved d.resourceId)
    (h : c.quotaCandidate mission demands = .ok q) : q.Identified ∧ ClaimsBacked l reserved q := by
  unfold quotaCandidate at h
  split at h
  · obtain rfl := Except.ok.inj h
    exact ⟨hq, hbacked⟩
  · simp only [bind_eq_ok] at h
    obtain ⟨_, -, _, -, h⟩ := h
    exact trackDemands_sound hq hbacked hreserved h

lemma mem_exclusiveDemands {required : List ResourceRequirement}
    {d : QuotaDemand} : d ∈ exclusiveDemands ids required ↔ ∃ p ∈ ids.zip required,
      p.2.allocationMode = .exclusive ∧ d = ⟨p.1, p.2.kind, p.2.units⟩ := by
  simp only [exclusiveDemands, List.mem_map, mem_filter, beq_iff_eq, and_assoc]
  constructor <;> rintro ⟨p, hp, hm, rfl⟩ <;> exact ⟨p, hp, hm, rfl⟩

def Demanded (p : AssignmentProposal) (a : RoleAssignment)
    (d : ResourceId × ResourceRequirement) : Prop :=
  a ∈ p.assignments ∧ d.2.allocationMode = .exclusive ∧
    ∃ role, p.roleRequirements.get? a.roleId = some role ∧ d ∈ a.resourceIds.zip role.resources

lemma mem_proposalQuotaDemands
    (h : proposalQuotaDemands p = .ok demands) {q : QuotaDemand} (hq : q ∈ demands) :
    ∃ a d, Demanded p a d ∧ q = ⟨d.1, d.2.kind, d.2.units⟩ := by
  refine foldlM_invariant
    (P := fun ds => ∀ q ∈ ds, ∃ a d, Demanded p a d ∧ q = ⟨d.1, d.2.kind, d.2.units⟩)
    (fun a ha ds ds' hds hstep => ?_) (by simp) h q hq
  split at hstep
  · obtain rfl := Except.ok.inj hstep
    exact hds
  · simp only [bind_eq_ok, okOr_eq_ok, pure_eq_ok] at hstep
    obtain ⟨role, hrole, _, -, rfl⟩ := hstep
    intro q hq
    rcases mem_append.mp hq with hq | hq
    · exact hds q hq
    · obtain ⟨d, hd, hmode, rfl⟩ := mem_exclusiveDemands.mp hq
      exact ⟨a, d, ⟨ha, hmode, role, hrole, hd⟩, rfl⟩

lemma Demanded.selected {a : RoleAssignment}
    (h : Demanded p a d) : d.1 ∈ exclusiveSelection p a := by
  obtain ⟨-, hmode, role, hrole, hd⟩ := h
  obtain ⟨i, hi, rfl⟩ := List.mem_iff_getElem.mp hd
  rw [length_zip] at hi
  simp only [getElem_zip] at hmode ⊢
  simp only [exclusiveSelection, hrole, List.mem_map, mem_filter]
  refine ⟨(a.resourceIds[i], i), ⟨?_, ?_⟩, rfl⟩
  · exact List.mem_zipIdx_iff_getElem?.mpr (getElem?_eq_getElem (by omega))
  · rw [getElem?_eq_getElem (by omega : i < role.resources.length)]
    simp [hmode]

lemma committed_ledgersSound {t : TaskExecution}
    (hc : LedgersSound c) (hsupport : validateCommitSupport c e group p = .ok capacity)
    (hvalid : validateGroupCommit c e group p capacity = .ok t)
    (hledgers : commitLedgers c p capacity = .ok charged) :
    LedgersSound (p.assignments.foldl (reserveAssignment e t p) charged) := by
  obtain ⟨g, hcommit⟩ := validateGroupCommit_ok hvalid
  let c' := p.assignments.foldl (reserveAssignment e t p) charged
  have hframe := commitLedgers_frame hledgers
  have hget : ∀ r, c'.reservations.get? r = (c.reservations.get? r).or
      (((p.assignments.flatMap (committedEntries charged e t p)).find? fun e => e.1 == r).map
        (·.2)) := by
    intro r
    have h := @reserveAssignments_get? charged e t p p.assignments r
    rw [h, hframe]
  have hold : ∀ r, c.reservations.contains r = true → c'.reservations.contains r = true := by
    intro r hr
    obtain ⟨held, hheld⟩ := contains_eq_true_iff.mp hr
    refine contains_eq_true_iff.mpr ⟨held, ?_⟩
    rw [hget, hheld, some_or]
  have hnew : ∀ a d, Demanded p a d → c'.reservations.contains d.1 = true := by
    intro a d hd
    obtain ⟨owner, howner, -⟩ := hcommit.free a hd.1
    have hentry : (d.1, committedReservation charged e t p.taskRef a.roleId owner d.1) ∈
        p.assignments.flatMap (committedEntries charged e t p) :=
      mem_flatMap.mpr ⟨a, hd.1, mem_committedEntries.mpr ⟨owner, howner, hd.selected, rfl⟩⟩
    show (c'.reservations.get? d.1).isSome = true
    rw [hget, isSome_or, isSome_map, Bool.or_eq_true]
    exact .inr (find?_isSome.mpr ⟨_, hentry, by simp⟩)
  have hbacked := hc.backed.mono (fun a ha => ha) hold
  have hframe' := reserveAssignments_frame charged e t p p.assignments
  suffices h : BatchSound (fun r => c'.reservations.contains r = true)
      (charged.capacityLedger, charged.quotaLedger) by
    refine ⟨?_, ?_, ?_⟩
    · rw [hframe']
      exact h.keyed
    · rw [hframe']
      exact h.identified
    · rw [hframe']
      exact h.backed
  cases capacity with
  | none =>
    simp only [commitLedgers, bind_eq_ok, pure_eq_ok] at hledgers
    obtain ⟨_, hdemands, q, hq, hcharged⟩ := hledgers
    have hsound := quotaCandidate_sound hc.identified hbacked (fun d hd => ?_) hq
    · split at hcharged
      · subst hcharged
        exact ⟨hc.keyed, hc.identified, hbacked⟩
      · rw [← hcharged]
        exact ⟨hc.keyed, hsound.1, hsound.2⟩
    · obtain ⟨a, demand, hdemanded, rfl⟩ := mem_proposalQuotaDemands hdemands hd
      exact hnew a demand hdemanded
  | some batch =>
    simp only [commitLedgers, bind_eq_ok, okOr_eq_ok, pure_eq_ok] at hledgers
    obtain ⟨_, -, hcharged⟩ := hledgers
    have hbatch : c.capacityCommitCandidate e group p.taskRef p.assignments =
        .ok (some batch) := by
      simp only [validateCommitSupport, bind_eq_ok] at hsupport
      obtain ⟨_, -, _, -, _, -, _, -, h⟩ := hsupport
      exact h
    rw [← hcharged]
    refine capacityCommitCandidate_keeps hbatch ⟨hc.keyed, hc.identified, hbacked⟩ ?_
    intro g' tenant a role node d b b' hdemand hstep hb
    refine hstep.batchSound hb fun hmode => ?_
    obtain rfl : g = g' := some.inj (hcommit.group.symm.trans hdemand.group)
    exact hnew a d ⟨hdemand.assignment, hmode, role,
      hcommit.requirements a hdemand.assignment role hdemand.roleFound, hdemand.demand⟩

lemma demand_unique {demands : List ResourceRequirement}
    (hnodup : ids.Nodup) {d d' : ResourceId × ResourceRequirement} (hd : d ∈ ids.zip demands)
    (hd' : d' ∈ ids.zip demands) (hid : d.1 = d'.1) : d = d' := by
  obtain ⟨i, hi, rfl⟩ := mem_iff_getElem.mp hd
  obtain ⟨j, hj, rfl⟩ := mem_iff_getElem.mp hd'
  simp only [length_zip, getElem_zip] at hi hj hid ⊢
  have hij : i = j := (hnodup.getElem_inj_iff).mp hid
  subst hij
  rfl

section

variable {p : RecoveryAssignmentProposal}

lemma recoveryLedgers_cases (h : recoveryLedgers c e mission role p = .ok charged) :
    (∃ batch, c.capacityCommitCandidate e p.groupId p.taskRef [p.assignment] = .ok (some batch) ∧
      charged.capacityLedger = batch.1 ∧ charged.quotaLedger = batch.2) ∨
    (c.capacityCommitCandidate e p.groupId p.taskRef [p.assignment] = .ok none ∧
      charged.capacityLedger = c.capacityLedger ∧
      c.quotaCandidate mission (exclusiveDemands p.replacementResourceIds role.resources) =
        .ok charged.quotaLedger) := by
  simp only [recoveryLedgers, bind_eq_ok] at h
  obtain ⟨capacity, hcapacity, _, -, q, hq, h⟩ := h
  cases capacity with
  | some batch =>
    obtain rfl := pure_eq_ok.mp h
    exact .inl ⟨batch, hcapacity, rfl, rfl⟩
  | none =>
    obtain rfl := pure_eq_ok.mp h
    refine .inr ⟨hcapacity, ?_, ?_⟩
    · split <;> rfl
    · split
      · next hempty =>
        simp [quotaCandidate, hempty]
      · exact hq

lemma replacement_exclusive_unbound
    (hkeyed : c.capacityLedger.Keyed) (hv : validateRecoveryCommit c e requirement p = .ok role)
    (hl : recoveryLedgers c e mission role p = .ok charged)
    (hd : d ∈ p.replacementResourceIds.zip role.resources)
    (hmode : d.2.allocationMode = .exclusive) :
    (charged.capacityLedger.binding d.1 p.groupId p.taskRef p.roleId).isSome = false := by
  obtain ⟨g, _, valid⟩ := validateRecoveryCommit_ok hv
  -- no allocation of the resource existed before, and the batch creates none
  have hconflict : ∀ id record, c.capacityLedger.allocations.get? id = some record →
      record.original.resourceId ≠ d.1 := by
    have hfree := forM_eq_ok.mp valid.free d hd
    have hnone := replacement_free hv hl (of_mem_zip hd).1
    intro id record hget heq
    cases hcap : c.capacityConflict d.1 with
    | some => simp [hmode, hnone, hcap] at hfree
    | none =>
      rw [capacityConflict, map_eq_none_iff, find?_eq_none] at hcap
      have := hcap record (mem_values_iff.mpr ⟨id, hget⟩)
      simp [heq] at this
  rw [Bool.eq_false_iff]
  intro hsome
  obtain ⟨id, record, hget, hr, -, -⟩ := (binding_isSome_iff _ _ _ _ _).mp hsome
  rcases recoveryLedgers_cases hl with ⟨_, hbatch, hledger, -⟩ | ⟨-, hledger, -⟩
  · rw [hledger] at hget
    rcases capacityCommitCandidate_origin hbatch hkeyed hget with
      ⟨old, hold, horiginal⟩ | ⟨g', a, role', d', hg', ha, hrole', hd', hmode', hr', -⟩
    · exact hconflict id old hold (horiginal ▸ hr)
    · obtain rfl : g = g' := some.inj (valid.group.symm.trans hg')
      obtain rfl := mem_singleton.mp ha
      obtain rfl := recoveryRole_authoritative valid.roleFound hrole'
      obtain rfl := demand_unique valid.distinct hd hd' (hr.symm.trans hr')
      rw [hmode] at hmode'
      cases hmode'
  · rw [hledger] at hget
    exact hconflict id record hget hr

lemma recoveryCommitted_ledgersSound
    (hc : LedgersSound c) (hv : validateRecoveryCommit c e requirement p = .ok role)
    (hl : recoveryLedgers c e requirement.taskRef.missionId role p = .ok charged) :
    LedgersSound (charged.withCommitment e p) := by
  obtain ⟨g, _, valid⟩ := validateRecoveryCommit_ok hv
  let c' := p.replacementResourceIds.foldl (reserveReplacement e p) charged
  have hcharged : charged.reservations = c.reservations := by rw [recoveryLedgers_frame hl]
  have hget : ∀ r, c'.reservations.get? r = _ := reserveReplacements_get? e p valid.distinct
    (fun id hid => hcharged ▸ replacement_free hv hl hid)
  have hold : ∀ r, charged.reservations.contains r = true → c'.reservations.contains r = true := by
    intro r hr
    obtain ⟨held, hheld⟩ := contains_eq_true_iff.mp hr
    refine contains_eq_true_iff.mpr ⟨held, ?_⟩
    rw [hget, hheld, some_or]
  have hnew : ∀ d ∈ p.replacementResourceIds.zip role.resources,
      d.2.allocationMode = .exclusive → c'.reservations.contains d.1 = true := by
    intro d hd hmode
    have hfree := replacement_exclusive_unbound hc.keyed hv hl hd hmode
    show (c'.reservations.get? d.1).isSome = true
    rw [hget, if_pos ⟨(of_mem_zip hd).1, hfree⟩]
    simp
  have hbacked : ClaimsBacked c.capacityLedger (fun r => c'.reservations.contains r = true)
      c.quotaLedger :=
    hc.backed.mono (fun a ha => ha) (fun r hr => hold r (hcharged ▸ hr))
  have hsound : BatchSound (fun r => c'.reservations.contains r = true)
      (charged.capacityLedger, charged.quotaLedger) := by
    rcases recoveryLedgers_cases hl with ⟨_, hbatch, hledger, hquota⟩ | ⟨-, hledger, hquota⟩
    · rw [hledger, hquota]
      refine capacityCommitCandidate_keeps hbatch ⟨hc.keyed, hc.identified, hbacked⟩ ?_
      intro g' tenant a role' node d b b' hd hstep hb
      refine hstep.batchSound hb fun hmode => ?_
      obtain rfl : g = g' := some.inj (valid.group.symm.trans hd.group)
      obtain rfl := mem_singleton.mp hd.assignment
      obtain rfl := recoveryRole_authoritative valid.roleFound hd.roleFound
      exact hnew d hd.demand hmode
    · have h := quotaCandidate_sound hc.identified hbacked (fun d hd => ?_) hquota
      · rw [hledger]
        exact ⟨hc.keyed, h.1, h.2⟩
      · obtain ⟨demand, hdemand, hmode, rfl⟩ := mem_exclusiveDemands.mp hd
        exact hnew demand hdemand hmode
  have hgrants := reserveReplacements_sameGrants e p charged p.replacementResourceIds
  have hclaims : (charged.withCommitment e p).quotaLedger = charged.quotaLedger := by
    show c'.quotaLedger = charged.quotaLedger
    rw [show c' = _ from reserveReplacements_frame charged e p p.replacementResourceIds]
  refine ⟨fun a record hrecord => ?_, ?_, fun id claim hclaim => ?_⟩
  · obtain ⟨old, hold, horiginal, -⟩ := hgrants.get? hrecord
    rw [horiginal]
    exact hsound.keyed a old hold
  · rw [hclaims]
    exact hsound.identified
  · rw [hclaims] at hclaim
    obtain ⟨halloc, hres⟩ := hsound.backed id claim hclaim
    exact ⟨fun a ha => (hgrants.contains a).trans (halloc a ha), hres⟩

end

/-! ### Every call -/

lemma LedgersSound.revised (h : LedgersSound c)
    (source target : ExecutionGroupId) (plan : MissionPlan) (first : PlannedTask)
    (completed : List TaskId) : LedgersSound (c.revised source target plan first completed) :=
  h.congr rfl rfl rfl

lemma LedgersSound.bindReservations (h : LedgersSound c)
    (group : ExecutionGroupId) (plan : CommittedPlan) :
    LedgersSound (bindReservations group plan c) := by
  refine h.of_sameGrants (bindReservations_sameGrants c group plan) ?_ fun r hr => ?_
  · rw [bindReservations_frame]
  · simpa [OrdMap.contains, bindReservations_get?] using hr

lemma Effect.ledgersSound (h : Effect c call c') (hc : LedgersSound c) : LedgersSound c' := by
  induction h with
  | unchanged | tenant | registry | topology | limits | nodeConstraint | candidateRestriction
  | reserved | preempted | groupCreated | groupMoved | groupActivated | groupCompleted
  | taskMoved | rebound | reboundPartly => exact hc.congr rfl rfl rfl
  | consumed =>
    rw [consumeScheduledTask_frame]
    exact hc.congr rfl rfl rfl
  | invalidated =>
    rw [invalidateScheduledTask_frame]
    exact hc.congr rfl rfl rfl
  | missionCancelled =>
    rw [cancelScheduledMission_frame]
    exact hc.congr rfl rfl rfl
  | taskActivated =>
    split
    · rw [activateScheduledTask_frame]
      exact hc.congr rfl rfl rfl
    · exact hc.congr rfl rfl rfl
  | groupSuperseded => exact ((hc.revised _ _ _ _ _).releaseGroupOwnership _ _).congr rfl rfl rfl
  | committed support valid ledgers => exact committed_ledgersSound hc support valid ledgers
  | bound =>
    rw [withActors_frame]
    exact (hc.bindReservations _ _).congr rfl rfl rfl
  | boundPartly => exact (hc.bindReservations _ _).congr rfl rfl rfl
  | taskReleased | taskRoleReleased | recoveryAborted =>
    exact ((hc.releaseResources _).releaseCapacityTask _ _ _).congr rfl rfl rfl
  | contextReleased => exact ((hc.releaseResources _).retainCapacity _).congr rfl rfl rfl
  | roleReleased => exact (hc.releaseResources _).congr rfl rfl rfl
  | taskRecoveryBegun valid group task release ih
  | legacyRecoveryBegun valid group task release ih => exact ih (hc.congr rfl rfl rfl)
  | executionRecoveryBegun begun ih => exact ih hc
  | recoveryCommitted valid ledgers => exact recoveryCommitted_ledgersSound hc valid ledgers
  | groupReleased => exact (hc.releaseGroupOwnership _ _).congr rfl rfl rfl

lemma ControlPlane.Idle.ledgersSound (h : c.Idle) : LedgersSound c where
  keyed id record hget := by
    rw [h.allocations] at hget
    cases hget
  identified id claim hget := by
    rw [h.claims] at hget
    cases hget
  backed id claim hget := by
    rw [h.claims] at hget
    cases hget

/-- After every sequence of calls, each quota claim is charged for an allocation or a reservation.
-/
theorem claims_stay_backed (calls : List Call) :
    LedgersSound (calls.foldl World.step (.start [])).control :=
  foldl_keeps (P := fun w : World => LedgersSound w.control)
    (fun w call _ => (call.effect w).ledgersSound) (World.start_idle []).control.ledgersSound

/-! ### Where allocations come from -/

inductive AllocationOrigin (c : ControlPlane) : Call → AllocationId → CapacityAllocation → Prop
    where
  | kept {call : Call} {a : AllocationId} {old record : CapacityAllocation}
      (before : c.capacityLedger.allocations.get? a = some old)
      (same : record.original = old.original) : AllocationOrigin c call a record
  | committed {e : Evidence} {id : ExecutionGroupId} {p : AssignmentProposal}
      {capacity : Option (CapacityLedger × QuotaLedger)} {t : TaskExecution} {a : AllocationId}
      {record : CapacityAllocation} (valid : validateGroupCommit c e id p capacity = .ok t)
      (group : record.original.groupId = id) (units : 0 < record.original.allocationUnits) :
      AllocationOrigin c (.commitForGroupWithState e id p) a record
  | recovered {e : Evidence} {requirement : TaskRequirement} {p : RecoveryAssignmentProposal}
      {role : RoleRequirement} {a : AllocationId} {record : CapacityAllocation}
      (valid : validateRecoveryCommit c e requirement p = .ok role)
      (group : record.original.groupId = p.groupId)
      (units : 0 < record.original.allocationUnits) :
      AllocationOrigin c (.commitRoleRecovery e requirement p) a record

lemma AllocationOrigin.of_get? (hledger : c'.capacityLedger = c.capacityLedger)
    (h : c'.capacityLedger.allocations.get? a = some record) : AllocationOrigin c call a record :=
  .kept (hledger ▸ h) rfl

lemma releaseCapacityTask_original {role : Option RoleId}
    (h : (c.releaseCapacityTask group task role).capacityLedger.allocations.get? a = some record) :
    ∃ old, c.capacityLedger.allocations.get? a = some old ∧ record.original = old.original := by
  rw [releaseCapacityTask_get?] at h
  obtain ⟨hmap, -⟩ := filter_eq_some_iff.mp h
  obtain ⟨old, hold, rfl⟩ := map_eq_some_iff.mp hmap
  exact ⟨old, hold, endBorrowing_original _ _ _ _⟩

lemma releaseGroupOwnership_allocations (c : ControlPlane) (id : ExecutionGroupId)
    (rs : List ResourceId) (a : AllocationId) (record : CapacityAllocation) :
    (c.releaseGroupOwnership id rs).capacityLedger.allocations.get? a = some record ↔
      c.capacityLedger.allocations.get? a = some record ∧ record.original.groupId ≠ id := by
  have hledger : (c.releaseGroupOwnership id rs).capacityLedger =
      (c.releaseCapacityGroup id).capacityLedger := by
    unfold releaseGroupOwnership
    exact releaseResources_capacityLedger _ _
  rw [hledger, releaseCapacityGroup, retainCapacity_allocations, bne_iff_ne]

lemma commitLedgers_origin
    (hkeyed : c.capacityLedger.Keyed) (hsupport : validateCommitSupport c e group p = .ok capacity)
    (hledgers : commitLedgers c p capacity = .ok charged)
    (h : charged.capacityLedger.allocations.get? a = some record) :
    BatchOrigin c group p.taskRef p.assignments a record := by
  cases capacity with
  | none =>
    simp only [commitLedgers, bind_eq_ok, pure_eq_ok] at hledgers
    obtain ⟨_, -, q, -, rfl⟩ := hledgers
    refine .inl ⟨record, ?_, rfl⟩
    split at h <;> exact h
  | some =>
    simp only [commitLedgers, bind_eq_ok, okOr_eq_ok, pure_eq_ok] at hledgers
    obtain ⟨_, -, rfl⟩ := hledgers
    simp only [validateCommitSupport, bind_eq_ok] at hsupport
    obtain ⟨_, -, _, -, _, -, _, -, hbatch⟩ := hsupport
    exact capacityCommitCandidate_origin hbatch hkeyed h

lemma recoveryLedgers_origin {p : RecoveryAssignmentProposal} (hkeyed : c.capacityLedger.Keyed)
    (hl : recoveryLedgers c e mission role p = .ok charged)
    (h : charged.capacityLedger.allocations.get? a = some record) :
    BatchOrigin c p.groupId p.taskRef [p.assignment] a record := by
  rcases recoveryLedgers_cases hl with ⟨_, hbatch, hledger, -⟩ | ⟨-, hledger, -⟩
  · rw [hledger] at h
    exact capacityCommitCandidate_origin hbatch hkeyed h
  · rw [hledger] at h
    exact .inl ⟨record, h, rfl⟩

lemma Effect.allocation_origin (h : Effect c call c') (hkeyed : c.capacityLedger.Keyed) :
    ∀ a record, c'.capacityLedger.allocations.get? a = some record →
      AllocationOrigin c call a record := by
  intro a record hget
  induction h with
  | unchanged | tenant | registry | topology | limits | nodeConstraint | candidateRestriction
  | reserved | preempted | groupCreated | groupMoved | groupActivated | groupCompleted
  | taskMoved | rebound | reboundPartly => exact .of_get? rfl hget
  | consumed =>
    rw [consumeScheduledTask_frame] at hget
    exact .of_get? rfl hget
  | invalidated =>
    rw [invalidateScheduledTask_frame] at hget
    exact .of_get? rfl hget
  | missionCancelled =>
    rw [cancelScheduledMission_frame] at hget
    exact .of_get? rfl hget
  | taskActivated =>
    split at hget
    · rw [activateScheduledTask_frame] at hget
      exact .of_get? rfl hget
    · exact .of_get? rfl hget
  | roleReleased => exact .of_get? (releaseResources_capacityLedger _ _) hget
  | taskReleased | taskRoleReleased | recoveryAborted =>
    obtain ⟨old, hold, hsame⟩ := releaseCapacityTask_original hget
    rw [releaseResources_capacityLedger] at hold
    exact .kept hold hsame
  | contextReleased =>
    have h := ((retainCapacity_allocations _ _ _ _).mp hget).1
    rw [releaseResources_capacityLedger] at h
    exact .kept h rfl
  | groupReleased | groupSuperseded =>
    have hold := ((releaseGroupOwnership_allocations _ _ _ _ _).mp hget).1
    exact .kept hold rfl
  | committed support valid ledgers =>
    rw [reserveAssignments_frame] at hget
    rcases commitLedgers_origin hkeyed support ledgers hget with
      ⟨old, hold, hsame⟩ | ⟨_, _, _, _, -, -, -, -, -, -, hgroup, -, -, -, hunits⟩
    · exact .kept hold hsame
    · exact .committed valid hgroup hunits
  | bound =>
    rw [withActors_frame] at hget
    obtain ⟨old, hold, hsame, -⟩ := (bindReservations_sameGrants _ _ _).get? hget
    exact .kept hold hsame
  | boundPartly =>
    obtain ⟨old, hold, hsame, -⟩ := (bindReservations_sameGrants _ _ _).get? hget
    exact .kept hold hsame
  | taskRecoveryBegun valid group task release ih
  | legacyRecoveryBegun valid group task release ih | executionRecoveryBegun begun ih =>
    cases ih hkeyed hget with
    | kept before same => exact .kept before same
  | recoveryCommitted valid ledgers =>
    obtain ⟨_, hold, hsame, -⟩ := (reserveReplacements_sameGrants _ _ _ _).get? hget
    rcases recoveryLedgers_origin hkeyed ledgers hold with
      ⟨old', hold', hsame'⟩ | ⟨_, _, _, _, -, -, -, -, -, -, hgroup, -, -, -, hunits⟩
    · exact .kept hold' (hsame.trans hsame')
    · exact .recovered valid (hsame ▸ hgroup) (hsame ▸ hunits)

/-! ### Released Groups -/

/-- No reservation and no allocation names the Group. -/
structure HoldsNothing (c : ControlPlane) (id : ExecutionGroupId) : Prop where
  reservations : ∀ r held, c.reservations.get? r = some held → held.groupId ≠ some id
  allocations : ∀ a record, c.capacityLedger.allocations.get? a = some record →
    record.original.groupId ≠ id

lemma validateGroupRelease_held (h : validateGroupRelease c id = .ok (g, resources))
    {r : ResourceId} {held : Reservation} (hr : c.reservations.get? r = some held)
    (hgroup : held.groupId = some id) : r ∈ resources := by
  simp only [validateGroupRelease, bind_eq_ok, pure_eq_ok, Prod.mk.injEq] at h
  obtain ⟨_, -, _, -, _, -, _, -, _, -, _, -, -, rfl⟩ := h
  rw [mem_sortedUnique, mem_append, List.mem_map]
  refine .inl ⟨(r, held), List.mem_filter.mpr ⟨mem_entries_iff.mpr hr, ?_⟩, rfl⟩
  simpa using hgroup

lemma holdsNothing_of_release (h : validateGroupRelease c id = .ok (g, resources))
    (g' : ExecutionGroup) : HoldsNothing ((c.releaseGroupOwnership id resources).setGroup id g') id
    where
  reservations r held hr hgroup := by
    have hr : (c.releaseGroupOwnership id resources).reservations.get? r = some held := hr
    have hmem := validateGroupRelease_held h (releaseGroupOwnership_reservations_some hr) hgroup
    rw [releaseGroupOwnership_reservations_get?, if_pos hmem] at hr
    cases hr
  allocations := fun a record ha =>
    ((releaseGroupOwnership_allocations c id resources a record).mp ha).2

end RoboGuide.Control
