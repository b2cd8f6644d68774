import RoboGuide.Control.State

/-!
# `RoboGuide.Control.Ledger`: quantitative allocations

`core/control/src/resource_allocations.rs`: admission of units of a divisible pool, the
borrowers of a Context's allocation, release, and the check that joins the ledger with the
quota claims, the Groups and the pending recoveries.
-/

namespace RoboGuide.Control

open Domain Lib
open Fallible (refuse okOr checkAgainstEarlier)

variable (c : ControlPlane)

/-! ### Admission -/

/-- One Task Role's demand on a pool, with the current evidence about the pool. -/
structure CapacityRequest where
  resourceId : ResourceId
  resourceClass : String
  nodeId : NodeId
  groupId : ExecutionGroupId
  taskRef : TaskRef
  roleId : RoleId
  tenantId : String
  owner : AllocationOwner
  units : Nat
  /-- The Task's demand, or the ContextRole's envelope. -/
  parentUnits : Nat
  capacity : Nat
deriving DecidableEq

def isContextOwner : AllocationOwner → Bool
  | .context .. => true
  | .task _ => false

def maxAllocations : Nat := 16384

namespace CapacityAllocation

def ownedBy (record : CapacityAllocation) (request : CapacityRequest) : Bool :=
  record.original.groupId == request.groupId && record.original.owner == request.owner &&
    (isContextOwner request.owner || record.original.roleId == request.roleId)

def borrowedBy (record : CapacityAllocation) (task : TaskRef) (role : RoleId) : Bool :=
  record.borrowers.any fun b => b.taskRef == task && b.roleId == role

def lentUnits (record : CapacityAllocation) : Nat := (record.borrowers.map (·.units)).sum

end CapacityAllocation

def CapacityBorrower.key (b : CapacityBorrower) : TaskRef ×ₗ RoleId := toLex (b.taskRef, b.roleId)

namespace CapacityLedger

variable (l : CapacityLedger)

def ownerAllocation (request : CapacityRequest) : Option CapacityAllocation :=
  l.allocations.values.find? fun record =>
    record.original.resourceId == request.resourceId &&
      record.original.nodeId == request.nodeId && record.ownedBy request

def committedUnits (resource : ResourceId) : Nat :=
  ((l.allocations.values.filter fun r => r.original.resourceId == resource).map
    fun r => r.original.allocationUnits).sum

/-- The checks of `admit` that do not depend on an existing allocation. -/
def admitPreconditions (request : CapacityRequest) :
    Except ControlError Unit := do
  refuse (request.units == 0 || decide (request.parentUnits < request.units) ||
      decide (request.capacity < request.parentUnits) || isBlank request.tenantId)
    (.assignmentUnavailable "divisible demand exceeds its current declaration")
  refuse (l.allocations.values.any fun record => record.ownedBy request &&
      (record.original.resourceId != request.resourceId ||
        record.original.nodeId != request.nodeId))
    (.assignmentUnavailable "original quantitative owner cannot change its selected pool or Node")

/-- `admit` into an allocation the owner already has. -/
def admitBorrower (request : CapacityRequest)
    (existing : CapacityAllocation) :
    Except ControlError (CapacityLedger × ResourceAllocationGrant) := do
  refuse (existing.original.resourceClass != request.resourceClass ||
      existing.original.tenantId != request.tenantId ||
      existing.original.allocationUnits != request.parentUnits ||
      decide (request.capacity < l.committedUnits request.resourceId))
    (.assignmentUnavailable "original allocation tenant or capacity no longer matches")
  let borrower : CapacityBorrower := ⟨request.taskRef, request.roleId, request.units⟩
  let grant := { existing.original with
    taskRef := request.taskRef, roleId := request.roleId, units := request.units }
  match existing.borrowers.find? fun b =>
      b.taskRef == request.taskRef && b.roleId == request.roleId with
  | some original =>
    refuse (original != borrower)
      (.invalidProposal "original resource borrower changed its demand")
    pure (l, grant)
  | none =>
    refuse (decide (existing.original.allocationUnits < existing.lentUnits + request.units))
      (.assignmentUnavailable "original Context allocation has no available borrower units")
    let borrowers := (existing.borrowers ++ [borrower]).insertionSort fun a b => a.key ≤ b.key
    let lent := { existing with borrowers }
    pure (⟨l.generation, l.allocations.insert existing.original.allocationId lent⟩, grant)

def newGrant (request : CapacityRequest) (generation : Nat) : ResourceAllocationGrant :=
  let grant : ResourceAllocationGrant :=
    { allocationId := ⟨[], []⟩, generation, resourceId := request.resourceId,
      resourceClass := request.resourceClass, nodeId := request.nodeId,
      groupId := request.groupId, owner := request.owner, tenantId := request.tenantId,
      taskRef := request.taskRef, roleId := request.roleId, units := request.units,
      allocationUnits := request.parentUnits, admittedCapacity := request.capacity }
  { grant with allocationId := grant.originalAllocationId }

def newAllocation (request : CapacityRequest) (generation : Nat) : CapacityAllocation where
  original := newGrant request generation
  reservation :=
    { topology := none, taskRef := request.taskRef, roleId := request.roleId, groupId := none,
      scope := request.owner.scope, owner := request.owner }
  borrowers := [⟨request.taskRef, request.roleId, request.units⟩]

/-- `admit` of a new allocation. -/
def admitNew (request : CapacityRequest) :
    Except ControlError (CapacityLedger × ResourceAllocationGrant) := do
  refuse (decide (maxAllocations ≤ l.allocations.entries.length) ||
      (l.allocations.values.any fun record =>
        record.original.resourceId == request.resourceId &&
          record.original.nodeId != request.nodeId) ||
      decide (request.capacity < l.committedUnits request.resourceId + request.parentUnits))
    (.assignmentUnavailable "declared pool has no available original capacity")
  let generation ← okOr (checkedSucc l.generation)
    (.invalidProposal "capacity generation exhausted")
  let grant := newGrant request generation
  refuse (!grant.valid) (.invalidProposal
      "resource allocation grant identity, scope or units are invalid")
  pure (⟨generation, l.allocations.insert grant.allocationId (newAllocation request generation)⟩,
    grant)

/-- `admit`. -/
def admitCapacity (request : CapacityRequest) :
    Except ControlError (CapacityLedger × ResourceAllocationGrant) := do
  l.admitPreconditions request
  match l.ownerAllocation request with
  | some existing => l.admitBorrower request existing
  | none => l.admitNew request

def binding (resource : ResourceId) (group : ExecutionGroupId)
    (task : TaskRef) (role : RoleId) : Option CapacityAllocation :=
  l.allocations.values.find? fun record =>
    record.original.resourceId == resource && record.original.groupId == group &&
      record.borrowedBy task role

/-! ### The ledger on its own -/

def ownerKey (g : ResourceAllocationGrant) :
    ExecutionGroupId × ResourceId × AllocationOwner × Option RoleId :=
  (g.groupId, g.resourceId, g.owner, if isContextOwner g.owner then none else some g.roleId)

/-- The identity and ownership fields of one record agree; `earlier` are the records before
it, which hold the owners and generations already seen. -/
def recordConsistent (earlier : List (AllocationId × CapacityAllocation))
    (id : AllocationId) (record : CapacityAllocation) : Bool :=
  let grant := record.original
  id == grant.allocationId && id == grant.originalAllocationId &&
    decide (grant.generation ≤ l.generation) &&
    !(earlier.any fun e => e.2.original.generation == grant.generation) &&
    record.reservation.taskRef == grant.taskRef && record.reservation.roleId == grant.roleId &&
    decide (record.borrowers.length ≤ maxAllocations) &&
    record.reservation.scope == grant.owner.scope && record.reservation.owner == grant.owner &&
    (record.reservation.groupId.all fun g => g == grant.groupId) &&
    !(earlier.any fun e => ownerKey e.2.original == ownerKey grant)

/-- One borrower of a record; `earlier` are the borrowers before it. -/
def validateBorrower (grant : ResourceAllocationGrant) (earlier : List CapacityBorrower)
    (b : CapacityBorrower) : Except ControlError Unit :=
  refuse (b.units == 0 || b.taskRef.missionId != grant.taskRef.missionId ||
      earlier.any fun e => e.taskRef == b.taskRef && e.roleId == b.roleId)
    (.invalidProposal "capacity borrower identity or units are invalid")

/-- One record of `validate`. The pool of a resource takes its node and class from the first
record of that resource. -/
def validateRecord (earlier : List (AllocationId × CapacityAllocation))
    (entry : AllocationId × CapacityAllocation) : Except ControlError Unit := do
  let record := entry.2
  let grant := record.original
  let pool := (earlier.find? fun e => e.2.original.resourceId == grant.resourceId).map
    fun e => e.2.original
  refuse (pool.any fun first => first.nodeId != grant.nodeId ||
      first.resourceClass != grant.resourceClass)
    (.invalidProposal "allocated resource has conflicting original Node or unit classes")
  refuse (!grant.valid) (.invalidProposal
      "resource allocation grant identity, scope or units are invalid")
  refuse (!l.recordConsistent earlier entry.1 record)
    (.invalidProposal "capacity ledger original ownership or generation changed")
  refuse (record.reservation.groupId.isNone &&
      !record.borrowers.contains ⟨grant.taskRef, grant.roleId, grant.units⟩)
    (.invalidProposal "unbound capacity parent lost its original admitting borrower")
  checkAgainstEarlier (validateBorrower grant) [] record.borrowers
  refuse (decide (grant.allocationUnits < record.lentUnits) ||
      (!isContextOwner grant.owner &&
        record.borrowers != [⟨grant.taskRef, grant.roleId, grant.units⟩]))
    (.invalidProposal "capacity borrowers exceed original allocation")

def admittedCapacity (resource : ResourceId) : Nat :=
  ((l.allocations.values.filter fun r => r.original.resourceId == resource).map
    fun r => r.original.admittedCapacity).foldl max 0

def validate : Except ControlError Unit := do
  refuse (decide (maxAllocations < l.allocations.entries.length))
    (.invalidProposal "capacity ledger exceeds its bound")
  checkAgainstEarlier l.validateRecord [] l.allocations.entries
  refuse (l.allocations.values.any fun r =>
      decide (l.admittedCapacity r.original.resourceId <
        l.committedUnits r.original.resourceId))
    (.invalidProposal "original pool commitments exceed every retained source capacity")

end CapacityLedger

/-! ### Ownership across both tables -/

namespace ControlPlane

/-- The exclusive owner, else the borrowed allocation. -/
def bindingReservation (resource : ResourceId) (group : ExecutionGroupId)
    (task : TaskRef) (role : RoleId) : Option Reservation :=
  (c.reservations.get? resource).or
    ((c.capacityLedger.binding resource group task role).map (·.reservation))

/-- `binding_reservation_mut`: update what `bindingReservation` returns. -/
def updateBindingReservation (resource : ResourceId)
    (group : ExecutionGroupId) (task : TaskRef) (role : RoleId)
    (f : Reservation → Reservation) : ControlPlane :=
  if c.reservations.contains resource then
    { c with reservations := c.reservations.modify resource f }
  else
    match c.capacityLedger.binding resource group task role with
    | some record =>
      { c with capacityLedger.allocations :=
          c.capacityLedger.allocations.modify record.original.allocationId fun r =>
            { r with reservation := f r.reservation } }
    | none => c

def capacityConflict (resource : ResourceId) : Option Reservation :=
  (c.capacityLedger.allocations.values.find? fun r =>
    r.original.resourceId == resource).map (·.reservation)

def capacityOwner (group : ExecutionGroupId) (task : TaskRef)
    (role : RoleId) : Except ControlError AllocationOwner := do
  let execution ← okOr ((c.group group).bind (·.taskExecution task))
    (.invalidProposal "capacity admission lacks original TaskExecution")
  match execution.roleScope role with
  | .task => pure (.task task)
  | .context =>
    let contextRole ← okOr (execution.contextRole role)
      (.invalidProposal "capacity ContextRole is absent")
    pure (.context task.missionId execution.contextId contextRole)

/-- The envelope the accepted plan declares. -/
def contextCapacityUnits (group : ExecutionGroupId) (owner : AllocationOwner)
    (resourceClass : Option String) : Option Nat :=
  match owner with
  | .task _ => none
  | .context _ contextId contextRoleId => do
    let g ← c.group group
    let (_, role) ← g.contextResourceEnvelopes.find? fun e =>
      e.1 == contextId && e.2.contextRoleId == contextRoleId
    let limit ← role.resourceEnvelope.find? fun limit => limit.resourceClass == resourceClass
    some limit.units

/-! ### Release -/

/-- Forget the quota claims of the allocations in `removed`. -/
def releaseAllocationClaims (q : QuotaLedger) (removed : List AllocationId) : QuotaLedger :=
  removed.foldl QuotaLedger.releaseAllocation q

/-- Drop the allocations that do not satisfy `keep`, with their quota claims. Every release
of capacity also moves the calendar on. -/
def retainCapacity (keep : CapacityAllocation → Bool) : ControlPlane :=
  let removed := (c.capacityLedger.allocations.retain fun _ r => !keep r).keys
  { c with
    calendarVersion := saturatingSucc c.calendarVersion
    capacityLedger.allocations := c.capacityLedger.allocations.retain fun _ r => keep r
    quotaLedger := releaseAllocationClaims c.quotaLedger removed }

def endBorrowing (group : ExecutionGroupId) (task : TaskRef) (role : Option RoleId)
    (record : CapacityAllocation) : CapacityAllocation :=
  if record.original.groupId = group then
    { record with borrowers := record.borrowers.filter fun b =>
        b.taskRef != task || role.any fun r => b.roleId != r }
  else record

def releaseCapacityTask (group : ExecutionGroupId) (task : TaskRef)
    (role : Option RoleId) : ControlPlane :=
  retainCapacity
    { c with capacityLedger.allocations :=
        c.capacityLedger.allocations.mapValues fun _ => endBorrowing group task role }
    fun record => record.original.groupId != group || isContextOwner record.original.owner ||
      !record.borrowers.isEmpty

def releaseCapacityContext (group : ExecutionGroupId)
    (context : CoordinationContextId) : ControlPlane :=
  c.retainCapacity fun record => record.original.groupId != group ||
    match record.original.owner with
    | .context _ contextId _ => contextId != context
    | .task _ => true

def releaseCapacityGroup (group : ExecutionGroupId) : ControlPlane :=
  c.retainCapacity fun record => record.original.groupId != group

/-! ### The ledger against the rest of Control -/

/-- The Role's live assignment uses the pool on that node. -/
def borrowerBound (group : ExecutionGroup) (grant : ResourceAllocationGrant)
    (b : CapacityBorrower) : Bool :=
  (group.taskExecution b.taskRef).any fun task => task.assignments.any fun a =>
    a.roleId == b.roleId && a.nodeId == grant.nodeId && a.resourceIds.contains grant.resourceId

/-- A pending recovery of the Role uses the pool on that node. -/
def borrowerPending (grant : ResourceAllocationGrant) (b : CapacityBorrower) :
    Bool :=
  (c.pendingRecoveryCommitments.get?
      (toLex (grant.groupId, toLex (b.taskRef, b.roleId)))).any fun commit =>
    commit.replacementNodeId == grant.nodeId &&
      commit.committedResourceIds.contains grant.resourceId

/-- One borrower of `validate_capacity_checkpoint`. -/
def validateCapacityBorrower (group : ExecutionGroup)
    (record : CapacityAllocation) (b : CapacityBorrower) : Except ControlError Unit := do
  let original := record.original
  let required ← okOr (group.roleRequirement b.taskRef b.roleId)
    (.invalidProposal "capacity borrower original Role is absent")
  refuse (!required.resources.any fun demand => demand.allocationMode == .divisible &&
      demand.units == b.units && demand.kind == .compute &&
      demand.resourceClass == some original.resourceClass)
    (.invalidProposal "capacity borrower changed original Role demand")
  let owner ← c.capacityOwner original.groupId b.taskRef b.roleId
  refuse (owner != original.owner)
    (.invalidProposal "capacity borrower changed original Task or Context owner")
  refuse (record.reservation.groupId.isSome &&
      borrowerBound group original b == c.borrowerPending original b)
    (.invalidProposal "capacity borrower is orphaned or both bound and recovery pending")

def contextOriginRetained (group : ExecutionGroup) (original : ResourceAllocationGrant)
    (context : CoordinationContextId) (role : ContextRoleId) : Bool :=
  (group.contextBinding context role).any fun binding =>
    binding.assignment.nodeId == original.nodeId && binding.originTaskRef == original.taskRef &&
      binding.assignment.roleId == original.roleId &&
      binding.assignment.resourceIds.contains original.resourceId

def allocationClaim (original : ResourceAllocationGrant) (id : AllocationId) : QuotaClaim where
  tenantId := original.tenantId
  kind := .compute
  units := original.allocationUnits
  resourceId := some original.resourceId
  allocationId := some id

/-- The Context part of `validate_capacity_checkpoint`. -/
def validateContextParent (group : ExecutionGroup)
    (record : CapacityAllocation) : Except ControlError Unit :=
  match record.original.owner with
  | .task _ => .ok ()
  | .context _ contextId contextRoleId => do
    refuse (c.contextCapacityUnits record.original.groupId record.original.owner
        (some record.original.resourceClass) != some record.original.allocationUnits)
      (.invalidProposal "capacity parent changed original Context declaration")
    refuse (record.reservation.groupId.isSome &&
        !contextOriginRetained group record.original contextId contextRoleId)
      (.invalidProposal "Context allocation lost its original retained binding or origin")

/-- One record of `validate_capacity_checkpoint`. -/
def validateCapacityRecord (entry : AllocationId × CapacityAllocation) :
    Except ControlError Unit := do
  let id := entry.1
  let record := entry.2
  let original := record.original
  refuse (c.reservations.contains original.resourceId ||
      c.missionTenant original.taskRef.missionId != some original.tenantId)
    (.invalidProposal "capacity claim conflicts with exclusive ownership or original tenant")
  let group ← okOr (c.group original.groupId)
    (.invalidProposal "capacity claim Group is absent")
  refuse (group.lifecycle == .released || group.missionId != original.taskRef.missionId)
    (.invalidProposal "capacity claim Group changed Mission")
  let claim ← okOr (c.quotaLedger.claims.entries.find? fun e => e.2.allocationId == some id)
    (.invalidProposal "capacity allocation lost original quota claim")
  refuse (claim != (.allocation id, allocationClaim original id))
    (.invalidProposal "capacity quota claim changed its original owner or units")
  c.validateContextParent group record
  record.borrowers.forM (c.validateCapacityBorrower group record)

def validateCapacityCheckpoint : Except ControlError Unit := do
  c.capacityLedger.validate
  c.capacityLedger.allocations.entries.forM c.validateCapacityRecord
  refuse (c.quotaLedger.claims.values.any fun claim =>
      claim.allocationId.any fun id => !c.capacityLedger.allocations.contains id)
    (.invalidProposal "capacity quota claim lost original allocation")

end ControlPlane

end RoboGuide.Control
