import RoboGuide.NodeService.Journal

/-!
# `RoboGuide.NodeService.Capacity`: quantitative admission on a Node

`core/node-service/src/engine/capacity.rs`. Before an Execute is admitted the Node adds up
the grants of every execution that is not terminal, and of the candidate: borrowers are
distinct, the borrowers of an allocation stay within its units, and the allocations of a
divisible resource stay within its configured capacity.
-/

namespace RoboGuide.NodeService

open Domain Lib Fallible

structure CompiledLocalCatalog where
  nodeId : NodeId
  /-- `supports_capacity` of the negotiated Node contract. -/
  supportsCapacity : Bool
  resources : OrdMap ResourceId Resource

/-- The failures of admission. -/
inductive EngineError where
  | configuration (reason : String)
  | protocol (reason : String)
  | journal (error : JournalError)
deriving DecidableEq

/-! ### The grants of one invocation -/

variable (catalog : CompiledLocalCatalog)

def grantMatches (invocation : Invocation) (resource : Resource)
    (grant : ResourceAllocationGrant) : Bool :=
  resource.allocationMode == .divisible && resource.resourceClass == some grant.resourceClass &&
    decide (grant.allocationUnits ≤ resource.capacity) && grant.nodeId == catalog.nodeId &&
    invocation.missionId == grant.taskRef.missionId && invocation.taskId == grant.taskRef.taskId &&
    invocation.groupId == grant.groupId && invocation.roleId == grant.roleId &&
    invocation.resourceIds.contains grant.resourceId

/-- The checks on one grant; `earlier` are the grants before it. -/
def validateGrant (invocation : Invocation)
    (earlier : List ResourceAllocationGrant) (grant : ResourceAllocationGrant) :
    Except EngineError Unit := do
  refuse (!grant.valid)
    (.protocol "resource allocation grant identity, scope or units are invalid")
  let resource ← okOr (catalog.resources.get? grant.resourceId)
    (.configuration "original allocated resource is absent from current configuration")
  refuse (!grantMatches catalog invocation resource grant ||
      earlier.any fun g => g.resourceId == grant.resourceId)
    (.protocol
      "original resource grant changed Node, Task, Role, Group, class, selection or capacity")
  refuse (invocation.memoryTenant.any fun tenant => tenant != grant.tenantId)
    (.protocol "resource grant changed original Memory tenant")

def validateSelected (grants : List ResourceAllocationGrant)
    (id : ResourceId) : Except EngineError Unit := do
  let resource ← okOr (catalog.resources.get? id)
    (.configuration "original selected resource is absent")
  refuse (resource.allocationMode == .divisible && !grants.any fun g => g.resourceId == id)
    (.protocol "shared resource has no exact original quantitative grant")

def invocationGrants (invocation : Invocation) :
    Except EngineError (List ResourceAllocationGrant) := do
  let grants := invocation.resourceGrants
  refuse (decide (64 < grants.length) || !grants.isEmpty && !catalog.supportsCapacity)
    (.protocol "quantitative grants exceed the negotiated Node contract")
  checkAgainstEarlier (validateGrant catalog invocation) [] grants
  invocation.resourceIds.forM (validateSelected catalog grants)
  pure grants

/-! ### The whole journal -/

def borrower (g : ResourceAllocationGrant) : AllocationId × TaskRef × RoleId :=
  (g.allocationId, g.taskRef, g.roleId)

/-- One more grant of a live execution. -/
def collectGrant (grants : List ResourceAllocationGrant) (grant : ResourceAllocationGrant) :
    Except EngineError (List ResourceAllocationGrant) := do
  refuse (grants.any fun g => borrower g == borrower grant)
    (.protocol "another live or Unknown attempt already uses this original resource borrower")
  pure (grants ++ [grant])

/-- The grants of one more live execution. -/
def collectInvocation (grants : List ResourceAllocationGrant)
    (invocation : Invocation) : Except EngineError (List ResourceAllocationGrant) := do
  let original ← invocationGrants catalog invocation
  original.foldlM collectGrant grants

def addBorrower (parents : OrdMap AllocationId (ResourceAllocationGrant × Nat))
    (grant : ResourceAllocationGrant) :
    Except EngineError (OrdMap AllocationId (ResourceAllocationGrant × Nat)) := do
  let (original, used) := (parents.get? grant.allocationId).getD (grant, 0)
  refuse (original.originalAllocationId != grant.originalAllocationId)
    (.protocol "resource allocation identity changed its original parent")
  refuse (decide (original.allocationUnits < used + grant.units))
    (.protocol "live resource borrowers exceed their original Context or Task allocation")
  pure (parents.insert grant.allocationId (original, used + grant.units))

def addAllocation (pools : OrdMap ResourceId Nat)
    (grant : ResourceAllocationGrant) : Except EngineError (OrdMap ResourceId Nat) := do
  let used := (pools.get? grant.resourceId).getD 0 + grant.allocationUnits
  let resource ← okOr (catalog.resources.get? grant.resourceId)
    (.configuration "original declaration checked above")
  refuse (decide (resource.capacity < used))
    (.protocol "live original resource allocations exceed configured Node capacity")
  pure (pools.insert grant.resourceId used)

/-- The executions that still hold capacity, in identity order. -/
def ExecutionJournal.liveEntries (j : ExecutionJournal) : List (String × JournalExecution) :=
  j.executions.entries.filter fun e => !e.2.status.isTerminal

def capacityRecords (j : ExecutionJournal) :
    Except EngineError (List (String × JournalExecution)) := do
  refuse (decide (16384 < j.liveEntries.length))
    (.journal (.corrupt "live resource capacity record bound exceeded"))
  pure j.liveEntries

/-- `validate_capacity_admission` of a candidate. -/
def validateCapacityAdmission (j : ExecutionJournal)
    (candidate : Option (String × Invocation)) : Except EngineError Unit := do
  let records ← capacityRecords j
  let others := records.filter fun e => candidate.all fun c => c.1 != e.1
  let invocations := others.map (·.2.spec.invocationContent) ++ candidate.toList.map (·.2)
  let grants ← invocations.foldlM (collectInvocation catalog) []
  let parents ← grants.foldlM addBorrower ∅
  let _ ← (parents.values.map (·.1)).foldlM (addAllocation catalog) ∅

end RoboGuide.NodeService
