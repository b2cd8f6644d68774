import RoboGuide.Runtime.RecoveryStop
import RoboGuide.Runtime.Relation

/-!
# `RoboGuide.Runtime.Dispatch`: preparing attempts, receipts and cancellation

`core/runtime/src/execution/dispatch.rs`. An attempt is prepared before anything is sent;
the outbox keeps it until the Node has proven that it accepted the command. An identity that
came out of a checkpoint, or that a Node reported before it was dispatched, is never routed.
-/

namespace RoboGuide.Runtime

open Domain Lib Fallible

variable (executionId : ExecutionId)

namespace AttemptLedger

variable (a : AttemptLedger)

/-- The slot is occupied by another attempt. -/
def replaces (slot : ExecutionSlot) (executionId : ExecutionId) : Bool :=
  (a.activeExecutions.get? slot).any fun current => current != executionId

/-- A new attempt in its slot: not yet delivered, and awaited when it replaces another. -/
def prepared (command : ExecutionCommand)
    (resources : List ResourceId) : AttemptLedger :=
  let slot := commandSlot command
  let executions := a.executions.insert executionId ⟨command, resources⟩
  let nodes := a.executionNodes.insert executionId command.nodeId
  let active := a.activeExecutions.insert slot executionId
  let awaited := match a.activeExecutions.get? slot with
    | some previous => a.reactivationAttempts.erase previous
    | none => a.reactivationAttempts
  let reactivation := if a.replaces slot executionId then awaited.insert executionId ()
    else a.reactivationAttempts
  let status := a.executionStatus.insert executionId .dispatched
  let outbox := a.dispatchOutbox.insert executionId ⟨executionId, command, resources, 0, false⟩
  { a with
    executions := executions, executionNodes := nodes, activeExecutions := active,
    reactivationAttempts := reactivation, executionStatus := status, dispatchOutbox := outbox }

/-- The Node has the command. -/
def delivered : AttemptLedger :=
  let outbox := a.dispatchOutbox.modify executionId fun intent => { intent with delivered := true }
  { a with dispatchOutbox := outbox }

/-- One more delivery attempt, saturating at `u32::MAX`. -/
def counted : AttemptLedger :=
  let outbox := a.dispatchOutbox.modify executionId fun intent =>
    { intent with deliveryAttempts := min (intent.deliveryAttempts + 1) (2 ^ 32 - 1) }
  { a with dispatchOutbox := outbox }

/-- The status is `Unknown`. -/
def lost : AttemptLedger :=
  { a with executionStatus := a.executionStatus.insert executionId .unknown }

end AttemptLedger

namespace RuntimeExecutionManager

variable (m : RuntimeExecutionManager)

def validateDispatch (command : ExecutionCommand)
    (resourceIds : List ResourceId) : Except ExecutionRuntimeError DispatchDecision := do
  refuse command.recoveryMismatch
    (.executionConflict "recovery declaration belongs to a different operation")
  refuse (m.restoredExecutions.contains executionId) (.reconciliationRequired
    "execution was restored after controller restart; reconciliation is required before routing")
  refuse (m.executionStatus.contains executionId && !m.executions.contains executionId)
    (.reconciliationRequired
      "execution was observed during reconnect; reconciliation is required before routing")
  match m.executions.get? executionId with
  | some existing =>
    refuse (existing.command != command || existing.resourceIds != normalizedResources resourceIds)
      (.executionConflict executionId)
    return .alreadyRouted
  | none => return .route

def attemptId (groupId : ExecutionGroupId) (taskRef : TaskRef) (roleId : RoleId)
    (generation : Nat) : ExecutionId :=
  let group := groupId.text
  let task := taskRef.taskId.text
  let role := roleId.text
  let groupLength := group.utf8ByteSize
  let taskLength := task.utf8ByteSize
  let roleLength := role.utf8ByteSize
  s!"attempt-{groupLength}:{group}-{taskLength}:{task}-{roleLength}:{role}-{generation}"

/-- The loop of `allocate_attempt_id`, with the number of generations that are left before
`checked_add` fails: the first later generation whose identity is unused. -/
def nextGeneration (used : Nat → Bool) : Nat → Nat → Option Nat
  | 0, _ => none
  | left + 1, generation =>
    if used (generation + 1) then nextGeneration used left (generation + 1)
    else some (generation + 1)

def pendingDispatchIntents : List DispatchIntent :=
  m.dispatchOutbox.values.filter fun intent =>
    !intent.delivered && !m.cancellationIntents.contains intent.executionId &&
      m.statusOf intent.executionId == some .dispatched

/-- What `prepare_dispatch` writes for a new attempt; the evidence of an attempt it replaces
no longer counts. -/
def recordDispatch (command : ExecutionCommand)
    (resources : List ResourceId) : RuntimeExecutionManager :=
  let slot := commandSlot command
  let evidence := if m.replaces slot executionId then m.spatialEvidence.erase slot
    else m.spatialEvidence
  { m with
    toAttemptLedger := m.prepared executionId command resources, spatialEvidence := evidence }

/-- The intent's Node acceptance is proven. -/
def setDelivered : RuntimeExecutionManager :=
  { m with toAttemptLedger := m.delivered executionId }

def recordDispatchAttempt : RuntimeExecutionManager :=
  { m with toAttemptLedger := m.counted executionId }

/-- The attempt's physical state is ambiguous from now on. -/
def setUnknown : RuntimeExecutionManager :=
  { m with toAttemptLedger := m.lost executionId }

end RuntimeExecutionManager

/-! ### Preparing -/

def allocateAttemptId (groupId : ExecutionGroupId) (taskRef : TaskRef) (roleId : RoleId) :
    RuntimeOp ExecutionId := do
  let m ← get
  let slot := slotOf groupId taskRef roleId
  let generation := (m.attemptGenerations.get? slot).getD 0
  let name := RuntimeExecutionManager.attemptId groupId taskRef roleId
  let used := fun g => m.executions.contains (name g) || m.dispatchOutbox.contains (name g)
  let next ← check (okOr
    (RuntimeExecutionManager.nextGeneration used (u64Max - generation) generation)
    (.reconciliationRequired "physical attempt generation is exhausted"))
  let generations := m.attemptGenerations.insert slot next
  set { m with attemptGenerations := generations }
  return name next

def prepareDispatch (command : ExecutionCommand)
    (resourceIds : List ResourceId) : RuntimeOp DispatchDecision := do
  let m ← get
  let decision ← check (m.validateDispatch executionId command resourceIds)
  match decision with
  | .alreadyRouted => return .alreadyRouted
  | .route =>
    set (m.recordDispatch executionId command (normalizedResources resourceIds))
    return .route

def markDispatchDelivered : RuntimeOp Unit := do
  let m ← get
  check (refuse (m.dispatchOutbox.get? executionId).isNone
    (.reconciliationRequired s!"dispatch intent {executionId} is absent"))
  set (m.setDelivered executionId)

def recordDispatched (command : ExecutionCommand)
    (resourceIds : List ResourceId) : RuntimeOp Unit := do
  let _ ← prepareDispatch executionId command resourceIds
  markDispatchDelivered executionId

/-! ### Receipts -/

/-- A rejected command leaves the attempt ambiguous: the common end of both receipts. The
status is written before the context is looked up. -/
def becomeUnknown (node : ExecutionCommand → NodeId)
    (reason : String) : RuntimeOp (List ExecutionEvent) := do
  modify fun m => m.setUnknown executionId
  let m ← get
  let context ← check (okOr (m.executions.get? executionId)
    (.reconciliationRequired s!"execution context {executionId} is absent"))
  let slot := commandSlot context.command
  if m.activeExecutions.get? slot = some executionId then
    let refreshed := m.refreshRelationsForSlot slot
    set refreshed.1
    return .recoveryRequired executionId (node context.command) (some context.command) reason ::
      refreshed.2
  else return []

def observeDispatchReceipt (commandId : String) (nodeId : NodeId)
    (persisted : Bool) (reason : String) : RuntimeOp (List ExecutionEvent) := do
  let m ← get
  let intent ← check (okOr (m.dispatchOutbox.get? executionId)
    (.reconciliationRequired s!"dispatch intent {executionId} is absent"))
  check (refuse (intent.commandId != commandId) (.executionConflict executionId))
  check (refuse (intent.command.nodeId != nodeId)
    (.nodeOwnership "command receipt node differs from execution owner"))
  if persisted then
    markDispatchDelivered executionId
    return []
  else if m.isTerminal executionId ∨ m.statusOf executionId = some .unknown then return []
  else becomeUnknown executionId (fun command => command.nodeId) reason

def observeCancellationReceipt (commandId : String)
    (nodeId : NodeId) (persisted : Bool) (reason : String) :
    RuntimeOp (List ExecutionEvent) := do
  let m ← get
  check (refuse (commandId != s!"cancel-{executionId}" ||
      !m.cancellationIntents.contains executionId)
    (.reconciliationRequired
      s!"cancellation intent {executionId} is absent or conflicts with its receipt"))
  check (refuse (m.cancellationNode executionId != some nodeId)
    (.nodeOwnership "cancellation receipt node differs from execution owner"))
  if persisted ∨ m.isTerminal executionId ∨ m.statusOf executionId = some .unknown then return []
  else becomeUnknown executionId (fun _ => nodeId) reason

/-! ### Cancellation -/

/-- An ordinary cancellation aborts the recoveries it interferes with: the stop of the attempt
and the rounds it takes part in. -/
def RuntimeExecutionManager.cancelOrdinarily (m : RuntimeExecutionManager) :
    RuntimeExecutionManager :=
  let stops := m.recoveryStops.modify executionId fun intent => { intent with aborted := true }
  let aborted := ({ m with recoveryStops := stops }).abortGroupRecoveryForAttempt executionId
  { aborted with toAttemptLedger := aborted.cancelled [executionId] }

def requestCancellation : RuntimeOp Unit := do
  let m ← get
  check (refuse (!m.executions.contains executionId)
    (.reconciliationRequired "unknown cancellation attempt"))
  set (m.cancelOrdinarily executionId)

end RoboGuide.Runtime
