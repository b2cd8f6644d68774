import RoboGuide.Control.Quota
import RoboGuide.Domain.Node

/-!
# `RoboGuide.Control.State`: the state of the Control Plane

The records of `core/control/src`: Execution Groups (`group/mod.rs`), reservations
(`coordination.rs`), the quantitative ledger (`resource_allocations.rs`), the calendar
(`calendar.rs`), recovery commitments (`reconciliation/model.rs`) and the `ControlPlane`
that holds them (`lib.rs`). Registries that none of these operations reads are left out.
-/

namespace RoboGuide.Control

open Domain Lib

/-! ### Execution Groups -/

inductive GroupLifecycle where
  | bound | active | adapted | failed | completed | released | superseded | blocked
deriving DecidableEq, Repr

/-- A Group in one of these states does no further work. -/
def GroupLifecycle.terminal : GroupLifecycle → Bool
  | .failed | .completed | .superseded | .released => true
  | .bound | .active | .adapted | .blocked => false

/-- A Role that lost its node and waits for a replacement. -/
structure UnboundRole where
  previousNodeId : NodeId
  assignmentIndex : Nat
deriving DecidableEq

structure ContextBinding where
  contextId : CoordinationContextId
  contextRoleId : ContextRoleId
  originTaskRef : TaskRef
  assignment : RoleAssignment
deriving DecidableEq

def contextBindingKey (context : CoordinationContextId) (role : ContextRoleId) : String :=
  s!"{context}::{role}"

/-- An assignment with its resources in canonical order, as membership compares it. -/
abbrev CanonicalAssignment := RoleId ×ₗ NodeId ×ₗ List ResourceId

/-- What `membership_digest` hashes. The digest is represented by its preimage, so equal
digests mean equal bindings. -/
structure MembershipDigest where
  groupId : ExecutionGroupId
  missionId : MissionId
  released : Bool
  legacy : List CanonicalAssignment
  tasks : List (TaskRef ×ₗ CanonicalAssignment)
  contexts : List (CoordinationContextId ×ₗ ContextRoleId ×ₗ NodeId ×ₗ List ResourceId)
deriving DecidableEq

/-- `GroupMembershipVersion`. -/
structure MembershipVersion where
  generation : Nat
  bindingsDigest : MembershipDigest
deriving DecidableEq

structure ExecutionGroup where
  supersededBy : Option ExecutionGroupId
  membershipVersion : Option MembershipVersion
  groupId : ExecutionGroupId
  missionId : MissionId
  /-- First Task, kept for single-Task callers. -/
  taskRef : TaskRef
  /-- Bindings of single-Task callers; Mission Groups bind under their Tasks. -/
  assignments : List RoleAssignment
  unboundRoles : OrdMap RoleId UnboundRole
  taskUnboundRoles : OrdMap (TaskRef ×ₗ RoleId) UnboundRole
  lifecycle : GroupLifecycle
  taskExecutions : OrdMap TaskRef TaskExecution
  roleRequirements : OrdMap (TaskRef ×ₗ RoleId) RoleRequirement
  contextBindings : OrdMap String ContextBinding
  contextResourceEnvelopes : List (CoordinationContextId × ContextRole)
deriving DecidableEq

namespace ExecutionGroup

def taskExecution (g : ExecutionGroup) (task : TaskRef) : Option TaskExecution :=
  g.taskExecutions.get? task

def roleRequirement (g : ExecutionGroup) (task : TaskRef) (role : RoleId) :
    Option RoleRequirement :=
  g.roleRequirements.get? (toLex (task, role))

def contextBinding (g : ExecutionGroup) (context : CoordinationContextId)
    (role : ContextRoleId) : Option ContextBinding :=
  g.contextBindings.get? (contextBindingKey context role)

def recoveryUnboundRole (g : ExecutionGroup) (task : TaskRef) (role : RoleId) :
    Option UnboundRole :=
  if (g.taskExecution task).isSome then
    g.taskUnboundRoles.get? (toLex (task, role))
  else if g.taskExecutions = ∅ ∧ g.taskRef = task then
    g.unboundRoles.get? role
  else none

def canonical (a : RoleAssignment) : CanonicalAssignment :=
  toLex (a.roleId, toLex (a.nodeId, a.resourceIds.insertionSort (· ≤ ·)))

def membershipDigest (g : ExecutionGroup) : MembershipDigest where
  groupId := g.groupId
  missionId := g.missionId
  released := g.lifecycle == .released
  legacy := (g.assignments.map canonical).insertionSort (· ≤ ·)
  tasks := (g.taskExecutions.values.flatMap fun t =>
    t.assignments.map fun a => toLex (t.taskRef, canonical a)).insertionSort (· ≤ ·)
  contexts := (g.contextBindings.values.map fun b =>
    toLex (b.contextId, toLex (b.contextRoleId, toLex (b.assignment.nodeId,
      b.assignment.resourceIds.insertionSort (· ≤ ·))))).insertionSort (· ≤ ·)

def withInitialMembership (g : ExecutionGroup) : ExecutionGroup :=
  { g with membershipVersion := some ⟨1, g.membershipDigest⟩ }

def newMission (groupId : ExecutionGroupId) (missionId : MissionId) (taskRef : TaskRef) :
    ExecutionGroup :=
  withInitialMembership
    { supersededBy := none, membershipVersion := none, groupId, missionId, taskRef,
      assignments := [], unboundRoles := ∅, taskUnboundRoles := ∅, lifecycle := .bound,
      taskExecutions := ∅, roleRequirements := ∅, contextBindings := ∅,
      contextResourceEnvelopes := [] }

end ExecutionGroup

/-! ### Ownership of resources -/

/-- Exclusive ownership of a resource. -/
structure Reservation where
  topology : Option ResourceTopologyReservation
  taskRef : TaskRef
  roleId : RoleId
  /-- Set when the commitment is bound into its Group. -/
  groupId : Option ExecutionGroupId
  scope : ResourceBindingScope
  owner : AllocationOwner
deriving DecidableEq

structure CapacityBorrower where
  taskRef : TaskRef
  roleId : RoleId
  units : Nat
deriving DecidableEq

/-- Units of a divisible resource, with the Roles that borrow from them. -/
structure CapacityAllocation where
  original : ResourceAllocationGrant
  reservation : Reservation
  borrowers : List CapacityBorrower
deriving DecidableEq

structure CapacityLedger where
  generation : Nat
  allocations : OrdMap AllocationId CapacityAllocation
deriving DecidableEq

/-! ### Scheduling -/

structure RoleSchedulingSelection where
  roleId : RoleId
  nodeId : NodeId
  resourceIds : List ResourceId
  resourceUnits : List Nat
  /-- Recorded only for a Role with a divisible demand. -/
  resourceRequirements : List ResourceRequirement
  resourceCapacities : List Nat
deriving DecidableEq

def RoleSchedulingSelection.toRoleAssignment (s : RoleSchedulingSelection) : RoleAssignment :=
  ⟨s.roleId, s.nodeId, s.resourceIds⟩

/-- How long a Task is expected to take, and who says so. -/
structure TaskDurationEstimate where
  taskRef : TaskRef
  durationMs : Nat
  source : StateSource
  receivedAt : TimestampMs
  validForMs : Nat
deriving DecidableEq

/-- A joint decision of the Scheduler; its cost evidence is left out. -/
structure TaskSchedulingDecision where
  taskRef : TaskRef
  selections : List RoleSchedulingSelection
  startsAt : TimestampMs
  endsAt : Option TimestampMs
  latestActivationAt : Option TimestampMs
  snapshotVersion : Nat
  durationEstimate : Option TaskDurationEstimate
deriving DecidableEq

def TaskSchedulingDecision.proposedAssignments (d : TaskSchedulingDecision) :
    List RoleAssignment :=
  d.selections.map (·.toRoleAssignment)

inductive SchedulingReservationPhase where
  | scheduled | activated | invalidated
deriving DecidableEq, Repr

structure ScheduledTaskReservation where
  /-- Replacements after a successful Rebind, by Role. -/
  topologyRecoveryAssignments : OrdMap RoleId RoleAssignment
  groupId : ExecutionGroupId
  decision : TaskSchedulingDecision
  phase : SchedulingReservationPhase
  reason : String
deriving DecidableEq

namespace ScheduledTaskReservation

/-- The decision with the recorded replacements. -/
def currentAssignments (r : ScheduledTaskReservation) : List RoleAssignment :=
  r.decision.proposedAssignments.map fun original =>
    (r.topologyRecoveryAssignments.get? original.roleId).getD original

end ScheduledTaskReservation

/-! ### Proposals and commitments -/

/-- What `propose` hands out and Commit takes. -/
structure AssignmentProposal where
  taskRef : TaskRef
  assignments : List RoleAssignment
  roleOperations : OrdMap RoleId OperationRef
  roleRequirements : OrdMap RoleId RoleRequirement
  rolePhysicalEntities : OrdMap RoleId PhysicalEntityId
deriving DecidableEq

/-- What Commit hands out and Bind takes. -/
structure CommittedPlan where
  taskRef : TaskRef
  assignments : List RoleAssignment
  rolePhysicalEntities : OrdMap RoleId PhysicalEntityId
  roleOperations : OrdMap RoleId OperationRef
  decisionPolicyDigest : Option String
deriving DecidableEq

structure ActorTakeoverAuthorization where
  groupId : ExecutionGroupId
  taskRef : TaskRef
  roleId : RoleId
  actorId : ActorId
  previousNodeId : NodeId
  previousEntityId : PhysicalEntityId
  replacementNodeId : NodeId
  replacementEntityId : PhysicalEntityId
  registryId : PhysicalEntityRegistryId
  registryRevision : Nat
  evidenceDigest : String
deriving DecidableEq

structure RoleRecoveryNeed where
  groupId : ExecutionGroupId
  taskRef : TaskRef
  roleId : RoleId
  currentNodeId : NodeId
deriving DecidableEq

structure RecoveryAssignmentProposal where
  stoppedOwnerAllowed : Bool
  groupId : ExecutionGroupId
  taskRef : TaskRef
  roleId : RoleId
  previousNodeId : NodeId
  replacementNodeId : NodeId
  replacementResourceIds : List ResourceId
  operation : Option OperationRef
  actorTakeover : Option ActorTakeoverAuthorization
deriving DecidableEq

structure CommittedRecoveryAssignment where
  stoppedOwnerAllowed : Bool
  groupId : ExecutionGroupId
  taskRef : TaskRef
  roleId : RoleId
  previousNodeId : NodeId
  replacementNodeId : NodeId
  committedResourceIds : List ResourceId
  operation : Option OperationRef
  actorTakeover : Option ActorTakeoverAuthorization
deriving DecidableEq

structure ActorCandidateRestriction where
  allowedNodes : OrdSet NodeId
  evidenceDigest : String
deriving DecidableEq

structure RegistryProvenance where
  registryId : PhysicalEntityRegistryId
  highestRevision : Nat
  content : OrdMap PhysicalEntityId NodeId
deriving DecidableEq

def RegistryProvenance.fromSnapshot (s : PhysicalEntityRegistrySnapshot) : RegistryProvenance :=
  ⟨s.registryId, s.revision, s.entities⟩

/-! ### The Control Plane -/

abbrev RecoveryKey := ExecutionGroupId ×ₗ TaskRef ×ₗ RoleId

/-- `ControlPlane`, as far as the modelled operations read it. -/
structure ControlPlane where
  resourceTopologyRegistry : Option ResourceTopologyRegistry
  /-- Every registry that was accepted, by revision. -/
  resourceTopologyHistory : OrdMap Nat ResourceTopologyRegistry
  missionTenants : OrdMap MissionId String
  /-- A node identity registry is installed, so tenants must be registered. -/
  nodeIdentityRegistered : Bool
  reservations : OrdMap ResourceId Reservation
  capacityLedger : CapacityLedger
  scheduledTasks : OrdMap TaskRef ScheduledTaskReservation
  calendarVersion : Nat
  actorBindings : OrdMap (MissionId ×ₗ ActorId) ActorBinding
  actorNodeConstraints : OrdMap (MissionId ×ₗ ActorId) NodeId
  actorCandidateRestrictions : OrdMap (MissionId ×ₗ ActorId) ActorCandidateRestriction
  physicalEntityRegistry : Option PhysicalEntityRegistrySnapshot
  /-- What a checkpoint keeps of the registry. -/
  registryProvenance : Option RegistryProvenance
  missionBindingSemantics : OrdMap MissionId MissionBindingSemantics
  groups : OrdMap ExecutionGroupId ExecutionGroup
  pendingRecoveryCommitments : OrdMap RecoveryKey CommittedRecoveryAssignment
  resourceQuotaRegistry : Option ResourceQuotaRegistry
  resourceQuotaHistory : OrdMap Nat ResourceQuotaRegistry
  quotaLedger : QuotaLedger
  /-- Held resources without a claim, from before claims were kept. -/
  quotaUnaccountedResources : OrdSet ResourceId
deriving DecidableEq

namespace ControlPlane

def new : ControlPlane where
  resourceTopologyRegistry := none
  resourceTopologyHistory := ∅
  missionTenants := ∅
  nodeIdentityRegistered := false
  reservations := ∅
  capacityLedger := ⟨0, ∅⟩
  scheduledTasks := ∅
  calendarVersion := 0
  actorBindings := ∅
  actorNodeConstraints := ∅
  actorCandidateRestrictions := ∅
  physicalEntityRegistry := none
  registryProvenance := none
  missionBindingSemantics := ∅
  groups := ∅
  pendingRecoveryCommitments := ∅
  resourceQuotaRegistry := none
  resourceQuotaHistory := ∅
  quotaLedger := .new
  quotaUnaccountedResources := ∅

def group (c : ControlPlane) (id : ExecutionGroupId) : Option ExecutionGroup := c.groups.get? id

def missionTenant (c : ControlPlane) (mission : MissionId) : Option String :=
  c.missionTenants.get? mission

def scheduledTask (c : ControlPlane) (task : TaskRef) : Option ScheduledTaskReservation :=
  c.scheduledTasks.get? task

def actorBinding (c : ControlPlane) (mission : MissionId) (actor : ActorId) :
    Option ActorBinding :=
  c.actorBindings.get? (toLex (mission, actor))

end ControlPlane

/-! ### Errors and events -/

inductive ControlError where
  | unknownNode (nodeId : NodeId)
  | unknownGroup (groupId : ExecutionGroupId)
  | invalidLease (reason : String)
  | noCandidate (roleId : RoleId)
  | assignmentUnavailable (reason : String)
  | actorBindingRequiresReconciliation (missionId : MissionId) (actorId : ActorId)
      (nodeId : NodeId)
  | actorPlacementConstraintUnsatisfied (missionId : MissionId) (actorId : ActorId)
      (nodeId : NodeId)
  | actorGroundingUnresolved (missionId : MissionId) (actorId : ActorId)
      (entityId : PhysicalEntityId)
  | distinctBindingUnsatisfiable (missionId : MissionId) (actorId occupiedByActor : ActorId)
      (physicalEntityId : PhysicalEntityId)
  | invalidProposal (reason : String)
  | allocationInvariant (reason : String)
  | resourceConflict (resourceId : ResourceId) (ownerTaskRef : TaskRef) (ownerRoleId : RoleId)
  | pendingRecoveryCommitmentExists (groupId : ExecutionGroupId) (roleId : RoleId)
  | pendingRecoveryCommitmentNotFound (groupId : ExecutionGroupId) (roleId : RoleId)
  | pendingRecoveryCommitmentMismatch (groupId : ExecutionGroupId) (roleId : RoleId)
  | invalidLifecycle (lifecycle : GroupLifecycle)
  | sharedState (error : SharedStateError)
  | unknownLease (nodeId : NodeId) (leaseId : LeaseId)
  | leaseExpired (nodeId : NodeId) (leaseId : LeaseId)
deriving DecidableEq

/-- The events these operations append (`EventPayload`). -/
inductive EventPayload where
  | executionGroupCreated (groupId : ExecutionGroupId) (missionId : MissionId)
  | taskExecutionRegistered (groupId : ExecutionGroupId) (taskRef : TaskRef)
      (contextId : CoordinationContextId)
  | taskExecutionReady (groupId : ExecutionGroupId) (taskRef : TaskRef)
  | proposalCreated (taskRef : TaskRef)
  | statePolicyDecision (taskRef : TaskRef)
  | planCommitted (taskRef : TaskRef)
  | executionGroupBound (groupId : ExecutionGroupId) (taskRef : TaskRef)
  | missionActorBound (missionId : MissionId) (actorId : ActorId) (nodeId : NodeId)
      (taskRef : TaskRef) (groupId : ExecutionGroupId)
  | executionGroupActivated (groupId : ExecutionGroupId) (taskRef : TaskRef)
  | taskExecutionActivated (groupId : ExecutionGroupId) (taskRef : TaskRef)
  | schedulingReservationActivated (groupId : ExecutionGroupId) (taskRef : TaskRef)
  | taskExecutionCompleted (groupId : ExecutionGroupId) (taskRef : TaskRef)
  | taskSatisfied (groupId : ExecutionGroupId) (taskRef : TaskRef)
      (basis : TaskSatisfactionBasis)
  | taskExecutionFailed (groupId : ExecutionGroupId) (taskRef : TaskRef)
  | taskSatisfactionRejected (groupId : ExecutionGroupId) (taskRef : TaskRef)
      (basis : TaskSatisfactionBasis)
  | taskExecutionBindingsReleased (groupId : ExecutionGroupId) (taskRef : TaskRef)
      (resourceIds : List ResourceId)
  | contextBindingsReleased (groupId : ExecutionGroupId) (contextId : CoordinationContextId)
      (resourceIds : List ResourceId)
  | executionGroupRoleBindingReleased (groupId : ExecutionGroupId) (taskRef : TaskRef)
      (roleId : RoleId) (nodeId : NodeId) (resourceIds : List ResourceId)
  | reconciliationRoleRecoveryRequired (groupId : ExecutionGroupId) (taskRef : TaskRef)
      (roleId : RoleId) (nodeId : NodeId)
  | recoveryCandidatesMatched (groupId : ExecutionGroupId) (taskRef : TaskRef)
      (roleId : RoleId) (candidateNodeIds : List NodeId)
  | recoveryAssignmentProposed (groupId : ExecutionGroupId) (taskRef : TaskRef)
      (roleId : RoleId) (replacementNodeId : NodeId) (resourceIds : List ResourceId)
  | recoveryAssignmentCommitted (groupId : ExecutionGroupId) (taskRef : TaskRef)
      (roleId : RoleId) (replacementNodeId : NodeId) (resourceIds : List ResourceId)
  | recoveryAssignmentAborted (groupId : ExecutionGroupId) (taskRef : TaskRef)
      (roleId : RoleId) (replacementNodeId : NodeId) (resourceIds : List ResourceId)
  | missionActorTakenOver (authorization : ActorTakeoverAuthorization)
  | recoveryRebound (groupId : ExecutionGroupId) (taskRef : TaskRef) (roleId : RoleId)
      (fromNode toNode : NodeId)
  | executionGroupBlocked (groupId : ExecutionGroupId) (taskRef : TaskRef) (reason : String)
  | executionGroupFailed (groupId : ExecutionGroupId) (taskRef : TaskRef) (reason : String)
  | executionGroupCompleted (groupId : ExecutionGroupId) (taskRef : TaskRef)
  | executionGroupReleased (groupId : ExecutionGroupId) (taskRef : TaskRef)
      (resourceIds : List ResourceId)
deriving DecidableEq

/-- Control and the events it has appended. -/
structure Kernel where
  control : ControlPlane
  events : List EventPayload
deriving DecidableEq

abbrev ControlM := EStateM ControlError Kernel

end RoboGuide.Control
