import RoboGuide.Domain.Command
import RoboGuide.Domain.Relation

/-!
# `RoboGuide.Runtime.State`: the live execution registry

The state of `core/runtime/src/execution/mod.rs`, with the records of its sibling modules.
`RuntimeExecutionManager` is flat in the source; here its fields are grouped by the facts
they hold (physical attempts, recovery authorisations, relations, coordination), so that an
operation on one group leaves the others alone by definition.

A physical attempt is named by a text that any caller may choose. A logical slot (Group,
Task, Role) is occupied by one attempt after another.
-/

namespace RoboGuide.Runtime

open Domain Lib Fallible OrdSet

/-! ### Attempts -/

inductive ExecutionStatus where
  | dispatched | accepted | running | completed | failed | cancelled | unknown
deriving DecidableEq, Repr

namespace ExecutionStatus

def isTerminal : ExecutionStatus → Bool
  | completed | failed | cancelled => true
  | dispatched | accepted | running | unknown => false

def provesActivation : ExecutionStatus → Bool
  | dispatched | unknown => false
  | accepted | running | completed | failed | cancelled => true

def isLive : ExecutionStatus → Bool
  | accepted | running => true
  | dispatched | completed | failed | cancelled | unknown => false

end ExecutionStatus

/-- Stable physical attempt identity. -/
abbrev ExecutionId := String

/-- A logical slot, ordered as the source orders the triple. -/
abbrev ExecutionSlot := ExecutionGroupId ×ₗ TaskRef ×ₗ RoleId

def slotOf (groupId : ExecutionGroupId) (taskRef : TaskRef) (roleId : RoleId) : ExecutionSlot :=
  toLex (groupId, toLex (taskRef, roleId))

def slotGroup (slot : ExecutionSlot) : ExecutionGroupId := (ofLex slot).1

def slotTask (slot : ExecutionSlot) : TaskRef := (ofLex (ofLex slot).2).1

def commandSlot (c : ExecutionCommand) : ExecutionSlot := slotOf c.groupId c.taskRef c.roleId

structure ExecutionContext where
  command : ExecutionCommand
  resourceIds : List ResourceId
deriving DecidableEq

structure DispatchIntent where
  executionId : ExecutionId
  command : ExecutionCommand
  resourceIds : List ResourceId
  deliveryAttempts : Nat
  delivered : Bool
deriving DecidableEq

def DispatchIntent.commandId (i : DispatchIntent) : String := s!"dispatch-{i.executionId}"

/-- Stable, duplicate-free resource identities: sorted, then deduplicated. -/
def normalizedResources (resourceIds : List ResourceId) : List ResourceId :=
  (OrdSet.ofList resourceIds).keys

lemma normalizedResources_idem (resourceIds : List ResourceId) :
    normalizedResources (normalizedResources resourceIds) = normalizedResources resourceIds := by
  have h : ofList (ofList resourceIds).keys = ofList resourceIds := by
    refine ofList_eq_iff.mpr fun k => ?_
    rw [mem_keys_iff, ← contains_eq_true_iff, contains_ofList]
  rw [normalizedResources, normalizedResources, h]

/-! ### Relations -/

abbrev RelationKey := ExecutionGroupId ×ₗ ExecutionRelationId

/-- An accepted relation with Mission and Group identity applied to both endpoints. -/
structure RuntimeExecutionRelation where
  groupId : ExecutionGroupId
  relationId : ExecutionRelationId
  sourceTaskRef : TaskRef
  sourceRoleId : RoleId
  targetTaskRef : TaskRef
  targetRoleId : RoleId
  kind : ExecutionRelationKind
  relationType : ExecutionRelationType
  couplingMode : ExecutionCouplingMode
deriving DecidableEq

namespace RuntimeExecutionRelation

def key (r : RuntimeExecutionRelation) : RelationKey := toLex (r.groupId, r.relationId)

def sourceKey (r : RuntimeExecutionRelation) : ExecutionSlot :=
  slotOf r.groupId r.sourceTaskRef r.sourceRoleId

def targetKey (r : RuntimeExecutionRelation) : ExecutionSlot :=
  slotOf r.groupId r.targetTaskRef r.targetRoleId

end RuntimeExecutionRelation

/-- Map and frame evidence of one attempt. It is only built from localization evidence,
whose constructor refuses blank identities and frames. -/
structure SharedSpatialEvidence where
  groupId : ExecutionGroupId
  taskRef : TaskRef
  roleId : RoleId
  executionId : ExecutionId
  nodeId : NodeId
  selector : MapRevisionSelector
  frameId : String
  receivedAt : TimestampMs
  executionId_nonblank : isBlank executionId = false
  frameId_nonblank : isBlank frameId = false
deriving DecidableEq

def SharedSpatialEvidence.slot (e : SharedSpatialEvidence) : ExecutionSlot :=
  slotOf e.groupId e.taskRef e.roleId

/-! ### Recovery authorisations -/

structure RecoveryStopIntent where
  executionId : ExecutionId
  requestedAtMs : Nat
  deadlineMs : Nat
  timeoutMs : Nat
  maxReplacements : Nat
  confirmedAtMs : Option Nat
  releaseAuthorized : Bool
  aborted : Bool
deriving DecidableEq

structure RecoveryBudget where
  slot : ExecutionSlot
  limit : Nat
  used : Nat
deriving DecidableEq

structure GroupRecoveryMember where
  executionId : ExecutionId
  expectedNodeId : NodeId
  repeatAuthorized : Bool
deriving DecidableEq

/-- Authorisation to stop every current attempt of a Group and continue it in place. -/
structure GroupRecoveryStopIntent where
  recoveryId : String
  groupId : ExecutionGroupId
  members : List GroupRecoveryMember
  preservedCompleted : OrdSet ExecutionId
  requestedAtMs : Nat
  deadlineMs : Nat
  timeoutMs : Nat
  maxReplacements : Nat
  confirmedAtMs : OrdMap ExecutionId Nat
  replacements : OrdMap ExecutionId ExecutionId
  preparedAtMs : Option Nat
  admittedAtMs : OrdMap ExecutionId Nat
  aborted : Bool
deriving DecidableEq

def GroupRecoveryStopIntent.memberIds (i : GroupRecoveryStopIntent) : List ExecutionId :=
  i.members.map (·.executionId)

/-! ### Progress and coordination -/

inductive OperationActivity where
  | working | waiting | blocked | unavailable
deriving DecidableEq, Repr

structure OperationProgressSample where
  executionId : ExecutionId
  operation : OperationRef
  stageEpoch : Nat
  completedUnits : Option Nat
  activity : OperationActivity
deriving DecidableEq

inductive StateObjectClass where
  | node | world | roboGuide
deriving DecidableEq, Repr

inductive StateSemantic where
  | desired | committed | reported | observed | derived | belief
deriving DecidableEq, Repr

structure StateRecordKey where
  objectClass : StateObjectClass
  objectType : String
  objectId : String
  semantic : StateSemantic
  source : StateSource
  channelId : String
deriving DecidableEq

structure ProgressSource where
  key : StateRecordKey
  sourceEpoch : Option String
  sequence : Nat
  receivedAt : TimestampMs
  validForMs : Nat
deriving DecidableEq

structure StateRecord extends ProgressSource where
  payloadSchema : String
deriving DecidableEq

/-- The latest admitted sample of an attempt. -/
structure ProgressObservation where
  sample : OperationProgressSample
  record : ProgressSource
  lastAdvancedAt : TimestampMs
deriving DecidableEq

/-- A Context inside its Group. -/
abbrev CoordinationKey := ExecutionGroupId ×ₗ CoordinationContextId

inductive PeerChannelLifecycle where
  | planned | ready | fenced | closed
deriving DecidableEq, Repr

structure PeerChannelReadinessEvidence where
  groupId : ExecutionGroupId
  contextId : CoordinationContextId
  contextRoleId : ContextRoleId
  nodeId : NodeId
  localSystemId : LocalSystemId
  sessionId : String
  channelInstanceId : String
  profileId : String
  messageSchema : String
  sequence : Nat
  receivedAt : TimestampMs
  expiresAt : TimestampMs
  ready : Bool
deriving DecidableEq

structure RuntimePeerChannel where
  groupId : ExecutionGroupId
  contextId : CoordinationContextId
  peers : List ContextRoleId
  descriptor : PeerChannelSpec
  lifecycle : PeerChannelLifecycle
  readiness : List PeerChannelReadinessEvidence
deriving DecidableEq

structure RuntimeCoordinationContext where
  groupId : ExecutionGroupId
  contextId : CoordinationContextId
  couplingMode : ExecutionCouplingMode
  sharedView : Option GroupSharedViewSpec
  relationCount : Nat
deriving DecidableEq

/-! ### The registry -/

/-- Facts about physical attempts. -/
structure AttemptLedger where
  terminalReceivedAt : OrdMap ExecutionId TimestampMs := ∅
  executions : OrdMap ExecutionId ExecutionContext := ∅
  executionStatus : OrdMap ExecutionId ExecutionStatus := ∅
  executionSequences : OrdMap ExecutionId Nat := ∅
  executionNodes : OrdMap ExecutionId NodeId := ∅
  activeExecutions : OrdMap ExecutionSlot ExecutionId := ∅
  restoredExecutions : OrdSet ExecutionId := ∅
  activatedTasks : OrdSet (ExecutionGroupId ×ₗ TaskRef) := ∅
  reactivationAttempts : OrdSet ExecutionId := ∅
  attemptGenerations : OrdMap ExecutionSlot Nat := ∅
  dispatchOutbox : OrdMap ExecutionId DispatchIntent := ∅
  cancellationIntents : OrdSet ExecutionId := ∅
deriving DecidableEq

structure RecoveryLedger where
  groupRecoveries : List GroupRecoveryStopIntent := []
  recoveryStops : OrdMap ExecutionId RecoveryStopIntent := ∅
  recoveryBudgets : OrdMap ExecutionSlot RecoveryBudget := ∅
deriving DecidableEq

/-- Relations, their recorded states, fences and proofs, and spatial evidence. -/
structure RelationLedger where
  relations : OrdMap RelationKey RuntimeExecutionRelation := ∅
  relationStates : OrdMap RelationKey ExecutionRelationState := ∅
  relationFences : OrdSet RelationKey := ∅
  relationProofs : OrdMap RelationKey ExecutionId := ∅
  spatialEvidence : OrdMap ExecutionSlot SharedSpatialEvidence := ∅
deriving DecidableEq

/-- Progress samples, Context declarations and peer channels. -/
structure CoordinationLedger where
  progress : OrdMap ExecutionId ProgressObservation := ∅
  coordinationContexts : OrdMap CoordinationKey RuntimeCoordinationContext := ∅
  peerChannels : OrdMap CoordinationKey RuntimePeerChannel := ∅
deriving DecidableEq

/-- Live authority over execution identities and facts. -/
structure RuntimeExecutionManager extends
  AttemptLedger, RecoveryLedger, RelationLedger, CoordinationLedger
deriving DecidableEq

def RuntimeExecutionManager.new : RuntimeExecutionManager := {}

/-! ### Events, errors and operations -/

/-- Canonical event produced by reducing a fact. -/
inductive ExecutionEvent where
  | taskActivated (groupId : ExecutionGroupId) (taskRef : TaskRef)
  | roleCompleted (command : ExecutionCommand)
  | roleFailed (command : ExecutionCommand) (reason : String)
  | recoveryRequired (executionId : ExecutionId) (nodeId : NodeId)
      (context : Option ExecutionCommand) (reason : String)
  | relationRegistered (relation : RuntimeExecutionRelation)
  | relationStateChanged (relation : RuntimeExecutionRelation)
      (previous current : ExecutionRelationState)
      (sourceExecutionId targetExecutionId : Option ExecutionId)
  | relationReconciliationRequired (relation : RuntimeExecutionRelation)
      (state : ExecutionRelationState)
      (sourceExecutionId targetExecutionId : Option ExecutionId) (reason : String)
deriving DecidableEq

inductive ExecutionRuntimeError where
  | executionConflict (id : String)
  | reconciliationRequired (reason : String)
  | nodeOwnership (reason : String)
  | terminalConflict (reason : String)
  | invalidCheckpoint (reason : String)
deriving DecidableEq

inductive DispatchDecision where
  | route | alreadyRouted
deriving DecidableEq, Repr

/-- A method that takes `&mut self`: an error keeps what was changed before it. -/
abbrev RuntimeOp := EStateM ExecutionRuntimeError RuntimeExecutionManager

namespace AttemptLedger

variable (a : AttemptLedger)

/-- `execution_status`. -/
def statusOf (executionId : ExecutionId) : Option ExecutionStatus :=
  a.executionStatus.get? executionId

/-- The attempt is known to be in a terminal status. -/
def isTerminal (executionId : ExecutionId) : Bool :=
  (a.statusOf executionId).any ExecutionStatus.isTerminal

def currentStatus (slot : ExecutionSlot) : Option ExecutionStatus :=
  (a.activeExecutions.get? slot).bind a.statusOf

def cancellationNode (executionId : ExecutionId) : Option NodeId :=
  (a.executions.get? executionId).map (·.command.nodeId)

def activeAttemptsForGroup (groupId : ExecutionGroupId) :
    List (ExecutionId × ExecutionStatus) :=
  (a.activeExecutions.entries.filter fun e => slotGroup e.1 == groupId).filterMap fun e =>
    (a.statusOf e.2).map fun status => (e.2, status)

end AttemptLedger

end RoboGuide.Runtime
