import RoboGuide.Control.Tables

/-!
# `RoboGuide.Control.Admission`: how the quantitative ledger and the quota claims grow

`admit` either repeats a borrowing, adds a borrower to the owner's allocation, or creates an
allocation (`Admission`). A Commit admits the demands of its assignments one after another
together with their quota claims, so a property of the two ledgers is preserved by a Commit
if one admitted demand preserves it (`capacityCommitCandidate_keeps`).
-/

namespace RoboGuide.Control

open Domain Lib Fallible CapacityLedger ControlPlane
open List hiding contains_insert
open Bool hiding not_and

variable {request : CapacityRequest} {l l' : CapacityLedger} {c : ControlPlane}
  {claim : QuotaClaim} {group : ExecutionGroupId} {task : TaskRef}
  {grant : ResourceAllocationGrant} {id : AllocationId} {tenant : String} {a : RoleAssignment}
  {e : Evidence} {as : List RoleAssignment}

/-! ### One admission -/

def borrowedGrant (existing : CapacityAllocation) (request : CapacityRequest) :
    ResourceAllocationGrant :=
  { existing.original with
    taskRef := request.taskRef, roleId := request.roleId, units := request.units }

def CapacityRequest.borrower (request : CapacityRequest) : CapacityBorrower :=
  ⟨request.taskRef, request.roleId, request.units⟩

def CapacityAllocation.lendTo (existing : CapacityAllocation) (request : CapacityRequest) :
    CapacityAllocation :=
  { existing with borrowers :=
      (existing.borrowers ++ [request.borrower]).insertionSort fun a b => a.key ≤ b.key }

/-- The checks `admit` makes before it looks for an allocation. -/
structure AdmitPre (l : CapacityLedger) (request : CapacityRequest) : Prop where
  units_pos : 0 < request.units
  units_le : request.units ≤ request.parentUnits
  parent_le : request.parentUnits ≤ request.capacity
  tenant : isBlank request.tenantId = false
  samePool : ∀ record ∈ l.allocations.values, record.ownedBy request = true →
    record.original.resourceId = request.resourceId ∧ record.original.nodeId = request.nodeId

structure AdmitMatch (l : CapacityLedger) (request : CapacityRequest)
    (existing : CapacityAllocation) : Prop where
  resourceClass : existing.original.resourceClass = request.resourceClass
  tenant : existing.original.tenantId = request.tenantId
  units : existing.original.allocationUnits = request.parentUnits
  capacity : l.committedUnits request.resourceId ≤ request.capacity

inductive Admission (l : CapacityLedger) (request : CapacityRequest) :
    CapacityLedger → ResourceAllocationGrant → Prop where
  | repeated {existing : CapacityAllocation} (found : l.ownerAllocation request = some existing)
      (fits : AdmitMatch l request existing) (borrows : request.borrower ∈ existing.borrowers) :
      Admission l request l (borrowedGrant existing request)
  | borrowed {existing : CapacityAllocation} (found : l.ownerAllocation request = some existing)
      (fits : AdmitMatch l request existing)
      (absent : existing.borrowedBy request.taskRef request.roleId = false)
      (room : existing.lentUnits + request.units ≤ existing.original.allocationUnits) :
      Admission l request
        ⟨l.generation,
          l.allocations.insert existing.original.allocationId (existing.lendTo request)⟩
        (borrowedGrant existing request)
  | fresh {generation : Nat} (none : l.ownerAllocation request = none)
      (bounded : l.allocations.entries.length < maxAllocations)
      (node : ∀ record ∈ l.allocations.values,
        record.original.resourceId = request.resourceId →
          record.original.nodeId = request.nodeId)
      (room : l.committedUnits request.resourceId + request.parentUnits ≤ request.capacity)
      (next : checkedSucc l.generation = some generation)
      (valid : (CapacityLedger.newGrant request generation).valid = true) :
      Admission l request
        ⟨generation, l.allocations.insert (CapacityLedger.newGrant request generation).allocationId
          (CapacityLedger.newAllocation request generation)⟩
        (CapacityLedger.newGrant request generation)

lemma admitPreconditions_ok (h : l.admitPreconditions request = .ok ()) : AdmitPre l request := by
  simp only [admitPreconditions, bind_eq_ok, refuse_eq_ok, or_eq_false_iff, beq_eq_false_iff_ne,
    decide_eq_false_iff_not, any_eq_false, and_eq_true, not_and, Nat.not_lt] at h
  obtain ⟨_, ⟨⟨⟨hpos, hle⟩, hcap⟩, htenant⟩, hpool⟩ := h
  refine ⟨Nat.pos_of_ne_zero hpos, hle, hcap, htenant, fun record hmem howned => ?_⟩
  have hsame := hpool record hmem howned
  simpa using hsame

variable {existing : CapacityAllocation} {record : CapacityAllocation} {node : NodeRegistration}

lemma admitBorrower_ok (hfound : l.ownerAllocation request = some existing)
    (h : l.admitBorrower request existing = .ok (l', grant)) : Admission l request l' grant := by
  simp only [admitBorrower, bind_eq_ok, refuse_eq_ok, or_eq_false_iff,
    bne_eq_false_iff_eq, decide_eq_false_iff_not, Nat.not_lt] at h
  obtain ⟨_, ⟨⟨⟨hclass, htenant⟩, hunits⟩, hcap⟩, h⟩ := h
  have hfits : AdmitMatch l request existing := ⟨hclass, htenant, hunits, hcap⟩
  split at h
  · next original hfind =>
    simp only [bind_eq_ok, refuse_eq_ok, bne_eq_false_iff_eq, pure_eq_ok, Prod.mk.injEq] at h
    obtain ⟨_, rfl, rfl, rfl⟩ := h
    exact .repeated hfound hfits (mem_of_find?_eq_some hfind)
  · next hfind =>
    simp only [bind_eq_ok, refuse_eq_ok, decide_eq_false_iff_not, Nat.not_lt, pure_eq_ok,
      Prod.mk.injEq] at h
    obtain ⟨_, hroom, rfl, rfl⟩ := h
    refine .borrowed hfound hfits ?_ hroom
    rw [CapacityAllocation.borrowedBy, any_eq_false]
    exact List.find?_eq_none.mp hfind

lemma admitNew_ok (hnone : l.ownerAllocation request = none)
    (h : l.admitNew request = .ok (l', grant)) : Admission l request l' grant := by
  simp only [admitNew, bind_eq_ok, refuse_eq_ok, okOr_eq_ok, pure_eq_ok, Prod.mk.injEq,
    or_eq_false_iff, decide_eq_false_iff_not, Nat.not_le, Nat.not_lt, not_eq_false'] at h
  obtain ⟨_, ⟨⟨hbound, hnode⟩, hroom⟩, _, hnext, _, hvalid, rfl, rfl⟩ := h
  refine .fresh hnone hbound (fun record hmem hresource => ?_) hroom hnext hvalid
  have hsame := List.any_eq_false.mp hnode record hmem
  simpa [hresource] using hsame

lemma admitCapacity_ok (h : l.admitCapacity request = .ok (l', grant)) :
    AdmitPre l request ∧ Admission l request l' grant := by
  simp only [admitCapacity, bind_eq_ok] at h
  obtain ⟨_, hpre, h⟩ := h
  refine ⟨admitPreconditions_ok hpre, ?_⟩
  split at h
  · next existing hfound => exact admitBorrower_ok hfound h
  · next hnone => exact admitNew_ok hnone h

lemma ownerAllocation_some (h : l.ownerAllocation request = some existing) :
    existing ∈ l.allocations.values ∧ existing.original.resourceId = request.resourceId ∧
      existing.original.nodeId = request.nodeId ∧ existing.ownedBy request = true := by
  have hp := find?_some h
  simp only [and_eq_true, beq_iff_eq] at hp
  exact ⟨mem_of_find?_eq_some h, hp.1.1, hp.1.2, hp.2⟩

/-! ### Allocations are stored under their identity -/

/-- Every record is stored under the identity of its grant. -/
def CapacityLedger.Keyed (l : CapacityLedger) : Prop :=
  ∀ id record, l.allocations.get? id = some record → record.original.allocationId = id

namespace Admission

variable (h : Admission l request l' grant)
include h

lemma keyed (hl : l.Keyed) : l'.Keyed := by
  cases h with
  | repeated => exact hl
  | borrowed | fresh =>
    intro id record hget
    rcases insert_cases hget with ⟨rfl, rfl⟩ | ⟨-, hget⟩
    exacts [rfl, hl id record hget]

lemma kept (hid : l.allocations.contains id = true) : l'.allocations.contains id = true := by
  cases h with
  | repeated => exact hid
  | borrowed | fresh => simp [contains_insert, hid]

lemma granted (hl : l.Keyed) : l'.allocations.contains grant.allocationId = true := by
  cases h with
  | repeated found =>
    obtain ⟨id, hid⟩ := mem_values_iff.mp (ownerAllocation_some found).1
    have hkey : (borrowedGrant _ request).allocationId = id := hl id _ hid
    rw [hkey]
    exact contains_eq_true_iff.mpr ⟨_, hid⟩
  | borrowed | fresh => simp [contains_insert, borrowedGrant]

lemma origin (hl : l.Keyed) (hget : l'.allocations.get? id = some record) :
    (∃ old, l.allocations.get? id = some old ∧ record.original = old.original) ∨
      ∃ generation, record.original = newGrant request generation := by
  cases h with
  | repeated => exact .inl ⟨record, hget, rfl⟩
  | @borrowed existing found =>
    rcases insert_cases hget with ⟨hid, rfl⟩ | ⟨-, hget⟩
    · obtain ⟨id', hid'⟩ := mem_values_iff.mp (ownerAllocation_some found).1
      refine .inl ⟨existing, ?_, rfl⟩
      rw [hid, hl id' _ hid']
      exact hid'
    · exact .inl ⟨record, hget, rfl⟩
  | @fresh generation =>
    rcases insert_cases hget with ⟨-, rfl⟩ | ⟨-, hget⟩
    exacts [.inr ⟨generation, rfl⟩, .inl ⟨record, hget, rfl⟩]

end Admission

/-! ### Quota claims -/

/-- Every claim is stored under the identity its kind of claim has. -/
def QuotaLedger.Identified (q : QuotaLedger) : Prop :=
  ∀ id claim, q.claims.get? id = some claim → claim.identifiedBy id = true

/-- The claim a ledger keeps for a demand: the same owner and object, and enough units. -/
structure ClaimFor (claim stored : QuotaClaim) : Prop where
  tenant : stored.tenantId = claim.tenantId
  kind : stored.kind = claim.kind
  resource : stored.resourceId = claim.resourceId
  allocation : stored.allocationId = claim.allocationId
  units : claim.units ≤ stored.units

lemma ClaimFor.refl (claim : QuotaClaim) : ClaimFor claim claim :=
  ⟨rfl, rfl, rfl, rfl, Nat.le_refl _⟩

lemma ClaimFor.identifiedBy {stored : QuotaClaim} (h : ClaimFor claim stored)
    (id : ClaimId) : stored.identifiedBy id = claim.identifiedBy id := by
  simp only [QuotaClaim.identifiedBy, h.kind, h.resource, h.allocation]

lemma validateClaim_identified {id : ClaimId}
    (h : validateClaim id claim = .ok ()) : claim.identifiedBy id = true := by
  unfold validateClaim at h
  cases id with
  | allocation =>
    simp only [bind_eq_ok, refuse_eq_ok, not_eq_false'] at h
    obtain ⟨_, -, _, -, hid⟩ := h
    exact hid
  | named =>
    simp only [bind_eq_ok, refuse_eq_ok, not_eq_false'] at h
    obtain ⟨_, -, _, -, _, -, hid⟩ := h
    exact hid

inductive Tracked (q : QuotaLedger) (id : ClaimId) (claim : QuotaClaim) : QuotaLedger → Prop where
  | kept {old : QuotaClaim} (hget : q.claims.get? id = some old)
      (same : { old with units := claim.units } = claim) (units : claim.units ≤ old.units) :
      Tracked q id claim q
  | raised {old : QuotaClaim} (hget : q.claims.get? id = some old)
      (same : { old with units := claim.units } = claim) (units : old.units < claim.units)
      (limit : q.checkLimit claim.tenantId claim.kind
        (q.used claim.tenantId claim.kind - old.units) claim.units = .ok ()) :
      Tracked q id claim { q with claims := q.claims.insert id claim }
  | fresh (hget : q.claims.get? id = none)
      (limit : q.checkLimit claim.tenantId claim.kind
        (q.used claim.tenantId claim.kind) claim.units = .ok ()) :
      Tracked q id claim { q with claims := q.claims.insert id claim }

section

variable {q q' : QuotaLedger} {id : ClaimId}

lemma track_tracked (h : q.track id claim = .ok q') :
    validateClaim id claim = .ok () ∧ Tracked q id claim q' := by
  simp only [QuotaLedger.track, bind_eq_ok] at h
  obtain ⟨_, hvalid, h⟩ := h
  refine ⟨hvalid, ?_⟩
  split at h
  · next existing hget =>
    simp only [bind_eq_ok, refuse_eq_ok, bne_eq_false_iff_eq, pure_eq_ok] at h
    obtain ⟨_, rfl, rfl⟩ := h
    exact .kept hget rfl (Nat.le_refl _)
  · next hget =>
    simp only [bind_eq_ok, pure_eq_ok] at h
    obtain ⟨_, hlimit, rfl⟩ := h
    exact .fresh hget hlimit

lemma trackResource_tracked (hq : q.Identified) (h : q.trackResource id claim = .ok q') :
    validateClaim id claim = .ok () ∧ Tracked q id claim q' := by
  simp only [QuotaLedger.trackResource, bind_eq_ok, refuse_eq_ok] at h
  obtain ⟨_, hresource, _, hvalid, h⟩ := h
  split at h
  · next existing hnone hget =>
    refine ⟨hvalid, ?_⟩
    have hold := hq id existing hget
    -- a claim on a whole resource is never stored under the identity of an allocation
    have halloc : existing.allocationId = none := by
      obtain ⟨r, hr⟩ : ∃ r, claim.resourceId = some r := by
        simpa [← Option.isSome_iff_exists] using hresource
      obtain rfl : id = resourceClaimId r := by
        simpa [QuotaClaim.identifiedBy, hnone, hr] using validateClaim_identified hvalid
      cases ha : existing.allocationId with
      | none => rfl
      | some => simp [QuotaClaim.identifiedBy, ha, resourceClaimId] at hold
    simp only [bind_eq_ok, refuse_eq_ok, or_eq_false_iff, bne_eq_false_iff_eq] at h
    obtain ⟨_, ⟨⟨htenant, hkind⟩, hsame⟩, h⟩ := h
    have same : { existing with units := claim.units } = claim := by
      rw [htenant, hkind, hsame, halloc, ← hnone]
    split at h
    · next hunits =>
      obtain rfl := pure_eq_ok.mp h
      exact .kept hget same hunits
    · next hunits =>
      simp only [bind_eq_ok, pure_eq_ok] at h
      obtain ⟨_, hlimit, rfl⟩ := h
      rw [same]
      exact .raised hget same (Nat.lt_of_not_le hunits) hlimit
  · exact track_tracked h

lemma Tracked.claims (h : Tracked q id claim q') :
    ∃ stored, ClaimFor claim stored ∧ q' = { q with claims := q.claims.insert id stored } := by
  cases h with
  | @kept old hget same units =>
    refine ⟨old, ?_, by rw [insert_eq_self hget]⟩
    rw [← same]
    exact ⟨rfl, rfl, rfl, rfl, units⟩
  | raised | fresh => exact ⟨claim, .refl claim, rfl⟩

lemma trackResource_claims (hq : q.Identified) (h : q.trackResource id claim = .ok q') :
    claim.identifiedBy id = true ∧
      ∃ stored, ClaimFor claim stored ∧ q' = { q with claims := q.claims.insert id stored } := by
  obtain ⟨hvalid, h⟩ := trackResource_tracked hq h
  exact ⟨validateClaim_identified hvalid, h.claims⟩

end

/-! ### A batch -/

inductive DemandAdmitted (c : ControlPlane) (group : ExecutionGroupId) (task : TaskRef)
    (tenant : String) (a : RoleAssignment) (node : NodeRegistration)
    (b : CapacityLedger × QuotaLedger) (d : ResourceId × ResourceRequirement) :
    CapacityLedger × QuotaLedger → Prop where
  | exclusive {q : QuotaLedger} (mode : d.2.allocationMode = .exclusive)
      (free : b.1.committedUnits d.1 = 0)
      (claim : b.2.trackResource (resourceClaimId d.1)
        (resourceClaim tenant ⟨d.1, d.2.kind, d.2.units⟩) = .ok q) :
      DemandAdmitted c group task tenant a node b d (b.1, q)
  | divisible {request : CapacityRequest} {l : CapacityLedger} {grant : ResourceAllocationGrant}
      {q : QuotaLedger} (mode : d.2.allocationMode = .divisible)
      (request_ok : c.capacityRequest group task tenant a node d.1 d.2 = .ok request)
      (pre : AdmitPre b.1 request) (admission : Admission b.1 request l grant)
      (claim : b.2.trackResource (.allocation grant.allocationId) (ControlPlane.allocationClaim
        { grant with tenantId := tenant, resourceId := d.1 } grant.allocationId) = .ok q) :
      DemandAdmitted c group task tenant a node b d (l, q)

lemma liftQuota_eq_ok {α : Type} {x : Except QuotaError α} {v : α} :
    liftQuota x = .ok v ↔ x = .ok v :=
  mapError_eq_ok

lemma admitDemand_ok {b b' : CapacityLedger × QuotaLedger} {d : ResourceId × ResourceRequirement}
    (h : c.admitDemand group task tenant a node b d = .ok b') :
    DemandAdmitted c group task tenant a node b d b' := by
  unfold admitDemand at h
  split at h
  · next hmode =>
    simp only [bind_eq_ok, refuse_eq_ok, liftQuota_eq_ok, pure_eq_ok, decide_eq_false_iff_not,
      Nat.not_lt, Nat.le_zero_eq] at h
    obtain ⟨_, hfree, q, hq, rfl⟩ := h
    exact .exclusive hmode hfree hq
  · next hmode =>
    simp only [bind_eq_ok, liftQuota_eq_ok, pure_eq_ok] at h
    obtain ⟨_, hrequest, ⟨l, _⟩, hadmit, q, hq, rfl⟩ := h
    obtain ⟨hpre, hadmission⟩ := admitCapacity_ok hadmit
    exact .divisible hmode hrequest hpre hadmission hq

structure BatchDemand (c : ControlPlane) (e : Evidence) (id : ExecutionGroupId)
    (task : TaskRef) (as : List RoleAssignment) (g : ExecutionGroup) (tenant : String)
    (a : RoleAssignment) (role : RoleRequirement) (node : NodeRegistration)
    (d : ResourceId × ResourceRequirement) : Prop where
  group : c.group id = some g
  missionTenant : c.missionTenant task.missionId = some tenant
  assignment : a ∈ as
  roleFound : g.roleRequirement task a.roleId = some role
  nodeFound : e.node a.nodeId = some node
  registered : c.selectedResourcesMatchRegistration node role a.resourceIds = true
  demand : d ∈ a.resourceIds.zip role.resources

variable {batch : CapacityLedger × QuotaLedger}

lemma capacityCommitCandidate_keeps {P : CapacityLedger × QuotaLedger → Prop}
    (h : c.capacityCommitCandidate e group task as = .ok (some batch))
    (hstart : P (c.capacityLedger, c.quotaLedger)) (hstep : ∀ g tenant a role node d b b',
      BatchDemand c e group task as g tenant a role node d →
      DemandAdmitted c group task tenant a node b d b' → P b → P b') : P batch := by
  simp only [capacityCommitCandidate, lookupGroup, bind_eq_ok, okOr_eq_ok] at h
  obtain ⟨g, hg, h⟩ := h
  split at h
  · simp only [bind_eq_ok, okOr_eq_ok, pure_eq_ok, Option.some.injEq] at h
    obtain ⟨tenant, htenant, _, -, _, hfold, _, -, rfl⟩ := h
    refine foldlM_invariant (fun a ha b b' hb hassign => ?_) hstart hfold
    simp only [admitAssignment, bind_eq_ok, okOr_eq_ok, refuse_eq_ok, not_eq_false'] at hassign
    obtain ⟨role, hrole, node, hnode, _, hregistered, hdemands⟩ := hassign
    refine foldlM_invariant (fun d hd b b' hb hdemand => ?_) hb hdemands
    exact hstep g tenant a role node d b b' ⟨hg, htenant, ha, hrole, hnode, hregistered, hd⟩
      (admitDemand_ok hdemand) hb
  · cases pure_eq_ok.mp h

lemma capacityRequest_ok {id : ResourceId} {demand : ResourceRequirement}
    (h : c.capacityRequest group task tenant a node id demand = .ok request) :
    demand.kind = .compute ∧ c.reservations.get? id = none ∧
      ∃ resource owner parentUnits resourceClass, node.resources.find? (fun r => r.id == id) =
          some resource ∧ c.capacityOwner group task a.roleId = .ok owner ∧
        c.parentUnits group owner demand = .ok parentUnits ∧
        demand.resourceClass = some resourceClass ∧
        request = { resourceId := id, resourceClass, nodeId := a.nodeId, groupId := group,
                    taskRef := task, roleId := a.roleId, tenantId := tenant, owner,
                    units := demand.units, parentUnits, capacity := resource.capacity } := by
  simp only [capacityRequest, bind_eq_ok, refuse_eq_ok, okOr_eq_ok, pure_eq_ok,
    or_eq_false_iff, bne_eq_false_iff_eq] at h
  obtain ⟨_, ⟨⟨hkind, -⟩, hfree⟩, resource, hresource, owner, howner, parent, hparent, rc, hrc,
    rfl⟩ := h
  exact ⟨hkind, by simpa [OrdMap.contains] using hfree, resource, owner, parent, rc, hresource,
    howner, hparent, hrc, rfl⟩

/-- An allocation of a batch was there before, or a divisible demand created it. -/
def BatchOrigin (c : ControlPlane) (group : ExecutionGroupId) (task : TaskRef)
    (as : List RoleAssignment) (id : AllocationId) (record : CapacityAllocation) : Prop :=
  (∃ old, c.capacityLedger.allocations.get? id = some old ∧ record.original = old.original) ∨
    ∃ g a role d, c.group group = some g ∧ a ∈ as ∧
      g.roleRequirement task a.roleId = some role ∧ d ∈ a.resourceIds.zip role.resources ∧
      d.2.allocationMode = .divisible ∧ record.original.resourceId = d.1 ∧
      record.original.groupId = group ∧ record.original.taskRef = task ∧
      record.original.roleId = a.roleId ∧ record.original.nodeId = a.nodeId ∧
      0 < record.original.allocationUnits

lemma capacityCommitCandidate_origin
    (h : c.capacityCommitCandidate e group task as = .ok (some batch))
    (hkeyed : c.capacityLedger.Keyed)
    (hget : batch.1.allocations.get? id = some record) : BatchOrigin c group task as id record := by
  have hstart : c.capacityLedger.Keyed ∧ ∀ id record,
      c.capacityLedger.allocations.get? id = some record →
        BatchOrigin c group task as id record :=
    ⟨hkeyed, fun id record hget => .inl ⟨record, hget, rfl⟩⟩
  refine (capacityCommitCandidate_keeps (P := fun b => b.1.Keyed ∧ ∀ id record,
    b.1.allocations.get? id = some record → BatchOrigin c group task as id record) h hstart
      ?_).2 id record hget
  intro g tenant a role node d b b' hd hstep hb
  cases hstep with
  | exclusive => exact hb
  | divisible mode request_ok pre admission =>
    refine ⟨admission.keyed hb.1, fun id record hget => ?_⟩
    rcases admission.origin hb.1 hget with ⟨old, hold, horiginal⟩ | ⟨_, hnew⟩
    · have hb := hb.2 id old hold
      simp only [BatchOrigin, horiginal] at hb ⊢
      exact hb
    · obtain ⟨-, -, _, _, _, _, -, -, -, -, rfl⟩ := capacityRequest_ok request_ok
      refine .inr ⟨g, a, role, d, hd.group, hd.assignment, hd.roleFound, hd.demand, mode, ?_⟩
      rw [hnew]
      exact ⟨rfl, rfl, rfl, rfl, rfl, pre.units_pos.trans_le pre.units_le⟩

end RoboGuide.Control
