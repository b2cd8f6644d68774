import RoboGuide.Runtime.Dispatch

/-!
# `RoboGuide.Runtime.Observation`: reducing execution facts

`core/runtime/src/execution/observation.rs`. A fact is accepted from the owning Node with a
later sequence only, never changes a terminal status, and refreshes the relations of the
slot it is about when the attempt is current.
-/

namespace RoboGuide.Runtime

open Domain Lib Fallible

variable (executionId : ExecutionId)

inductive ObservedTaskExecutionResult where
  | executionCompleted | failed
deriving DecidableEq, Repr

inductive RoleOutcome where
  | completed | failed | open
deriving DecidableEq, Repr

def taskKey (command : ExecutionCommand) : ExecutionGroupId ×ₗ TaskRef :=
  toLex (command.groupId, command.taskRef)

namespace AttemptLedger

variable (a : AttemptLedger)

/-- What every accepted fact writes: its sequence, the owner of an identity seen for the
first time, the status, and that the Node has the command. -/
def observed (nodeId : NodeId) (sequence : Nat)
    (status : ExecutionStatus) : AttemptLedger :=
  let sequences := a.executionSequences.insert executionId sequence
  let nodes := if a.executionNodes.contains executionId then a.executionNodes
    else a.executionNodes.insert executionId nodeId
  let statuses := a.executionStatus.insert executionId status
  { a.delivered executionId with
    executionSequences := sequences, executionNodes := nodes, executionStatus := statuses }

/-- A fact of a current attempt that proves activation: its Task is activated, and a
replacement is no longer awaited. -/
def activated (command : ExecutionCommand) : AttemptLedger :=
  let reactivation := a.reactivationAttempts.erase executionId
  let tasks := a.activatedTasks.insert (taskKey command) ()
  { a with reactivationAttempts := reactivation, activatedTasks := tasks }

def timed (receivedAt : TimestampMs) : AttemptLedger :=
  { a with terminalReceivedAt := a.terminalReceivedAt.insert executionId receivedAt }

end AttemptLedger

namespace RuntimeExecutionManager

variable (m : RuntimeExecutionManager)

/-! ### Facts -/

def recordFact (nodeId : NodeId) (sequence : Nat)
    (status : ExecutionStatus) : RuntimeExecutionManager :=
  { m with toAttemptLedger := m.observed executionId nodeId sequence status }

/-- `TaskActivated` is emitted for a Task's first activation and for a replacement's. -/
def activationEvents (command : ExecutionCommand) :
    List ExecutionEvent :=
  if !m.activatedTasks.contains (taskKey command) || m.reactivationAttempts.contains executionId
  then [.taskActivated command.groupId command.taskRef] else []

def roleEvents (command : ExecutionCommand)
    (status : ExecutionStatus) (reason : String) : List ExecutionEvent :=
  match status with
  | .completed => [.roleCompleted command]
  | .failed | .cancelled => [.roleFailed command reason]
  | .unknown => [.recoveryRequired executionId command.nodeId (some command) reason]
  | .dispatched | .accepted | .running => []

/-- What an accepted fact means for the current attempt of a slot. -/
def reduceCurrent (command : ExecutionCommand)
    (status : ExecutionStatus) (reason : String) :
    RuntimeExecutionManager × List ExecutionEvent :=
  let activated := if status.provesActivation then
      { m with toAttemptLedger := m.activated executionId command } else m
  let activation := if status.provesActivation then m.activationEvents executionId command else []
  let refreshed := activated.refreshRelationsForSlot (commandSlot command)
  (refreshed.1, activation ++ roleEvents executionId command status reason ++ refreshed.2)

/-- `observe_execution`, after the fact was accepted. -/
def reduceFact (nodeId : NodeId) (status : ExecutionStatus)
    (reason : String) : RuntimeExecutionManager × List ExecutionEvent :=
  match m.executions.get? executionId with
  | none =>
    -- the owner was recorded with the fact
    let owner := (m.executionNodes.get? executionId).getD nodeId
    (m, if status = .unknown then [.recoveryRequired executionId owner none reason] else [])
  | some context =>
    if m.activeExecutions.get? (commandSlot context.command) = some executionId
    then m.reduceCurrent executionId context.command status reason
    else (m, [])

/-- The checks of `observe_execution`; `false` when the fact is accepted and stale. -/
def validateFact (nodeId : NodeId) (sequence : Nat)
    (status : ExecutionStatus) : Except ExecutionRuntimeError Bool := do
  refuse ((m.executionNodes.get? executionId).any fun expected => expected != nodeId)
    (.nodeOwnership "execution fact node differs from execution owner")
  if (m.executionSequences.get? executionId).any fun current => sequence ≤ current then
    return false
  else if m.isTerminal executionId then
    refuse (m.statusOf executionId != some status)
      (.terminalConflict "terminal execution status is immutable")
    return false
  else
    refuse ((m.executions.get? executionId).any fun context => context.command.nodeId != nodeId)
      (.nodeOwnership "execution fact node differs from dispatched command")
    return true

/-! ### Unavailable Nodes -/

def openAttemptsOf (nodeId : NodeId) : List ExecutionId :=
  (m.executionNodes.entries.filter fun (executionId, owner) =>
    m.activeExecutions.values.contains executionId && owner == nodeId &&
      (m.statusOf executionId).any fun status =>
        !status.isTerminal && status != .unknown).map (·.1)

def loseAttempt (nodeId : NodeId) (reason : String) (executionId : ExecutionId) :
    RuntimeExecutionManager × List ExecutionEvent :=
  let lost := m.setUnknown executionId
  let context := (m.executions.get? executionId).map (·.command)
  let refreshed := match context with
    | some command => lost.refreshRelationsForSlot (commandSlot command)
    | none => (lost, [])
  (refreshed.1, .recoveryRequired executionId nodeId context reason :: refreshed.2)

/-- The loop of `observe_node_unavailable`. -/
def loseAttempts (m : RuntimeExecutionManager) (nodeId : NodeId) (reason : String) :
    List ExecutionId → RuntimeExecutionManager × List ExecutionEvent
  | [] => (m, [])
  | executionId :: rest =>
    let first := m.loseAttempt nodeId reason executionId
    let later := loseAttempts first.1 nodeId reason rest
    (later.1, first.2 ++ later.2)

def observeNodeUnavailable (nodeId : NodeId) (reason : String) :
    RuntimeExecutionManager × List ExecutionEvent :=
  m.loseAttempts nodeId reason (m.openAttemptsOf nodeId)

/-! ### Task results -/

def cancelledForRecovery : Bool :=
  (m.recoveryStops.get? executionId).any (fun intent => !intent.aborted) ||
    m.groupRecoveryPreservesCancelled executionId

/-- What the current attempt of a slot contributes. -/
def roleOutcome (slot : ExecutionSlot) : RoleOutcome :=
  match m.currentStatus slot with
  | some .completed => .completed
  | some .cancelled =>
    if (m.activeExecutions.get? slot).any m.cancelledForRecovery then .open else .failed
  | some .failed => .failed
  | some .unknown | none => .open
  | some .dispatched | some .accepted | some .running => .open

def taskExecutionResult (groupId : ExecutionGroupId) (taskRef : TaskRef)
    (roleIds : List RoleId) : Option ObservedTaskExecutionResult :=
  let outcomes := roleIds.map fun roleId => m.roleOutcome (slotOf groupId taskRef roleId)
  if outcomes.isEmpty || outcomes.contains .open then none
  else if outcomes.contains .failed then some .failed
  else if m.relationsAllowTaskSuccess groupId taskRef then some .executionCompleted
  else none

end RuntimeExecutionManager

/-! ### Operations -/

def observeExecution (nodeId : NodeId) (sequence : Nat)
    (status : ExecutionStatus) (reason : String) : RuntimeOp (List ExecutionEvent) := do
  let m ← get
  let accepted ← check (m.validateFact executionId nodeId sequence status)
  if accepted then
    let reduced := (m.recordFact executionId nodeId sequence status).reduceFact executionId nodeId
      status reason
    set reduced.1
    return reduced.2
  else return []

/-- The first terminal fact of a known attempt fixes its
receive time. -/
def observeExecutionReceived (nodeId : NodeId) (sequence : Nat)
    (status : ExecutionStatus) (reason : String) (receivedAt : TimestampMs) :
    RuntimeOp (List ExecutionEvent) := do
  let before ← get
  let events ← observeExecution executionId nodeId sequence status reason
  let m ← get
  if status.isTerminal ∧ before.statusOf executionId ≠ some status ∧
      m.executions.contains executionId ∧ m.statusOf executionId = some status ∧
      ¬ m.terminalReceivedAt.contains executionId then
    set { m with toAttemptLedger := m.timed executionId receivedAt }
  return events

end RoboGuide.Runtime
