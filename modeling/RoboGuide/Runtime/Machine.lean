import RoboGuide.Lib.Transition
import RoboGuide.Runtime.Checkpoint

/-!
# `RoboGuide.Runtime.Machine`: the registry as a state machine

Every public method of `RuntimeExecutionManager` that changes it is a `RuntimeCall`, and so
is a restart: the process stops and comes back from the checkpoint of the state it stopped
in. Nothing restricts the order of calls or their arguments, except what the argument types
of the source already do. A call that fails still leaves what it changed before it failed.
-/

namespace RoboGuide.Runtime

open Domain Lib Fallible

/-- One method with its arguments. -/
inductive RuntimeCall where
  | registerRelations (groupId : ExecutionGroupId) (missionId : MissionId)
      (specifications : List ExecutionRelationSpec)
      (taskModes : OrdMap TaskId ExecutionCouplingMode)
  | registerCoordinationContext (groupId : ExecutionGroupId) (d : CoordinationDeclaration)
      (accepted : d.newWithCoordination = .ok ())
  | allocateAttemptId (groupId : ExecutionGroupId) (taskRef : TaskRef) (roleId : RoleId)
  | prepareDispatch (executionId : ExecutionId) (command : ExecutionCommand)
      (resourceIds : List ResourceId)
  | recordDispatched (executionId : ExecutionId) (command : ExecutionCommand)
      (resourceIds : List ResourceId)
  | markDispatchDelivered (executionId : ExecutionId)
  | recordDispatchAttempt (executionId : ExecutionId)
  | observeDispatchReceipt (executionId : ExecutionId) (commandId : String) (nodeId : NodeId)
      (persisted : Bool) (reason : String)
  | observeCancellationReceipt (executionId : ExecutionId) (commandId : String)
      (nodeId : NodeId) (persisted : Bool) (reason : String)
  | requestCancellation (executionId : ExecutionId)
  | observeExecution (executionId : ExecutionId) (nodeId : NodeId) (sequence : Nat)
      (status : ExecutionStatus) (reason : String)
  | observeExecutionReceived (executionId : ExecutionId) (nodeId : NodeId) (sequence : Nat)
      (status : ExecutionStatus) (reason : String) (receivedAt : TimestampMs)
  | observeNodeUnavailable (nodeId : NodeId) (reason : String)
  | requestRecoveryStop (executionId : ExecutionId) (expectedNode : NodeId) (now : TimestampMs)
      (timeoutMs maxReplacements : Nat)
  | confirmRecoveryStop (executionId : ExecutionId) (receivedAt : TimestampMs)
  | markRecoveryRelease (command : ExecutionCommand)
  | requestGroupRecoveryStop (groupId : ExecutionGroupId) (recoveryId : String)
      (members : List GroupRecoveryMember) (now : TimestampMs) (timeoutMs maxReplacements : Nat)
  | confirmGroupRecoveryStop (executionId : ExecutionId) (receivedAt : TimestampMs)
  | confirmGroupContinuationAdmission (executionId : ExecutionId) (receivedAt : TimestampMs)
  | recordGroupContinuation (groupId : ExecutionGroupId) (now : TimestampMs)
      (replacements : OrdMap ExecutionId ExecutionId)
  | acknowledgeRelationReconciliation (groupId : ExecutionGroupId)
      (relationId : ExecutionRelationId)
  | observeSharedSpatialEvidence (evidence : SharedSpatialEvidence)
  | observePeerChannelReadiness (evidence : PeerChannelReadinessEvidence)
  | refreshPeerChannelDeadlines (now : TimestampMs)
  | fencePeerChannelsForNode (nodeId : NodeId)
  | fencePeerChannel (groupId : ExecutionGroupId) (contextId : CoordinationContextId)
  | closePeerChannel (groupId : ExecutionGroupId) (contextId : CoordinationContextId)
  | closePeerChannelsForGroup (groupId : ExecutionGroupId)
  | observeProgress (record : StateRecord) (sample : OperationProgressSample)
  | fenceProgressForNode (nodeId : NodeId)
  | restart

namespace RuntimeExecutionManager

/-- A restart: the checkpoint of the present state is restored. When it is refused, the
process does not come up and nothing more happens to the registry. -/
def restart (m : RuntimeExecutionManager) : RuntimeExecutionManager :=
  match restore m.checkpoint with
  | .ok restored => restored
  | .error _ => m

def step (m : RuntimeExecutionManager) : RuntimeCall → RuntimeExecutionManager
  | .registerRelations group mission specifications modes =>
    state (registerRelationsWithModes group mission specifications modes m)
  | .registerCoordinationContext group d _ => state (registerCoordinationContext group d m)
  | .allocateAttemptId group task role => state (allocateAttemptId group task role m)
  | .prepareDispatch id command resources => state (prepareDispatch id command resources m)
  | .recordDispatched id command resources => state (recordDispatched id command resources m)
  | .markDispatchDelivered id => state (markDispatchDelivered id m)
  | .recordDispatchAttempt id => m.recordDispatchAttempt id
  | .observeDispatchReceipt id commandId node persisted reason =>
    state (observeDispatchReceipt id commandId node persisted reason m)
  | .observeCancellationReceipt id commandId node persisted reason =>
    state (observeCancellationReceipt id commandId node persisted reason m)
  | .requestCancellation id => state (requestCancellation id m)
  | .observeExecution id node sequence status reason =>
    state (observeExecution id node sequence status reason m)
  | .observeExecutionReceived id node sequence status reason receivedAt =>
    state (observeExecutionReceived id node sequence status reason receivedAt m)
  | .observeNodeUnavailable node reason => (m.observeNodeUnavailable node reason).1
  | .requestRecoveryStop id node now timeout limit =>
    state (requestRecoveryStop id node now timeout limit m)
  | .confirmRecoveryStop id receivedAt => m.confirmRecoveryStop id receivedAt
  | .markRecoveryRelease command => m.markRecoveryRelease command
  | .requestGroupRecoveryStop group recoveryId members now timeout limit =>
    state (requestGroupRecoveryStop group recoveryId members now timeout limit m)
  | .confirmGroupRecoveryStop id receivedAt => m.confirmGroupRecoveryStop id receivedAt
  | .confirmGroupContinuationAdmission id receivedAt =>
    m.confirmGroupContinuationAdmission id receivedAt
  | .recordGroupContinuation group now replacements =>
    state (recordGroupContinuation group now replacements m)
  | .acknowledgeRelationReconciliation group relation =>
    state (acknowledgeRelationReconciliation group relation m)
  | .observeSharedSpatialEvidence evidence => state (observeSharedSpatialEvidence evidence m)
  | .observePeerChannelReadiness evidence => state (observePeerChannelReadiness evidence m)
  | .refreshPeerChannelDeadlines now => m.refreshPeerChannelDeadlines now
  | .fencePeerChannelsForNode node => m.fencePeerChannelsForNode node
  | .fencePeerChannel group context => state (fencePeerChannel group context m)
  | .closePeerChannel group context => state (closePeerChannel group context m)
  | .closePeerChannelsForGroup group => m.closePeerChannelsForGroup group
  | .observeProgress record sample => m.observeProgress record sample
  | .fenceProgressForNode node => m.fenceProgressForNode node
  | .restart => m.restart

end RuntimeExecutionManager

/-- The registry after the first `n` calls. -/
def stateAt (calls : Nat → RuntimeCall) (n : Nat) : RuntimeExecutionManager :=
  stateAfter RuntimeExecutionManager.step .new calls n

lemma reaches_stateAt (calls : Nat → RuntimeCall) {i j : Nat} (h : i ≤ j) :
    Reaches RuntimeExecutionManager.step (fun _ _ => True) (stateAt calls i) (stateAt calls j) :=
  reaches_stateAfter _ _ calls h

/-! ### The values of example runs -/

namespace Sample

def group : ExecutionGroupId := ⟨"group", .refl false⟩
def mission : MissionId := ⟨"mission", .refl false⟩
def task : TaskId := ⟨"task", .refl false⟩
def role : RoleId := ⟨"role", .refl false⟩
def node : NodeId := ⟨"node", .refl false⟩

/-- A command without session, Memory or recovery support. -/
def command (task : TaskId) (node : NodeId) : ExecutionCommand where
  memoryRequirements := []
  attachments := ""
  taskRef := ⟨mission, task⟩
  groupId := group
  roleId := role
  nodeId := node
  intent := ⟨"move", ""⟩
  session := none
  recoverySupport := none
  memories_valid := MemoryRequirement.validateSet_nil

end Sample

end RoboGuide.Runtime
