import RoboGuide.Runtime.GroupRecovery

/-!
# `RoboGuide.Runtime.RecoveryStop`: stopping one attempt to replace it

`core/runtime/src/execution/recovery_stop.rs`: an explicit authorisation to cancel one
current attempt, confirmed by a real cancellation and released once by Control. The number
of such stops per logical slot is bounded by a budget that new attempts do not reset.
-/

namespace RoboGuide.Runtime

open Domain Lib Fallible

/-- The command's own operation is declared to stop alone and repeat. -/
def supportsRoleRetry (command : ExecutionCommand) : Bool :=
  command.recoverySupport.any fun declaration =>
    declaration.support.operation == command.intent.operation &&
      declaration.support.supportsRoleRetry

namespace RuntimeExecutionManager

variable (m : RuntimeExecutionManager)

/-- The stop and the slot budget that `request_recovery_stop` records; `none` when the same
stop was already authorised. The budget entry the source creates before its last check
passes that check, so an error leaves the budgets as they were. -/
def validateRecoveryStop (executionId : ExecutionId) (expectedNode : NodeId) (now : TimestampMs)
    (timeoutMs maxReplacements : Nat) :
    Except ExecutionRuntimeError (Option (RecoveryStopIntent × RecoveryBudget)) := do
  let context ← okOr (m.executions.get? executionId)
    (.reconciliationRequired "recovery execution is unknown")
  let command := context.command
  let slot := commandSlot command
  refuse (command.nodeId != expectedNode || m.activeExecutions.get? slot != some executionId)
    (.nodeOwnership "recovery command references a stale attempt or wrong owner")
  refuse (m.groupRecoveryHoldsDispatch command.groupId now)
    (.reconciliationRequired "an exact-set Group recovery already owns this recovery purpose")
  refuse command.recoverySupport.isNone (.reconciliationRequired
    "physical attempt has no dispatch-time execution recovery declaration")
  refuse (!supportsRoleRetry command) (.reconciliationRequired
    "Role recovery requires isolated execution stop and context-preserving repetition")
  match m.recoveryStops.get? executionId with
  | some intent =>
    refuse (intent.aborted || intent.timeoutMs != timeoutMs ||
        intent.maxReplacements != maxReplacements)
      (.executionConflict "recovery command cannot change its original budget")
    return none
  | none =>
    refuse (m.isTerminal executionId || timeoutMs == 0 || decide (3600000 < timeoutMs) ||
        !(decide (1 ≤ maxReplacements) && decide (maxReplacements ≤ 16)))
      (.reconciliationRequired "terminal execution or invalid recovery budget")
    let deadlineMs ← okOr (checkedAdd now timeoutMs)
      (.reconciliationRequired "recovery deadline overflow")
    let budget := (m.recoveryBudgets.get? slot).getD ⟨slot, maxReplacements, 0⟩
    refuse (budget.limit != maxReplacements || decide (budget.limit ≤ budget.used))
      (.reconciliationRequired "logical Role recovery budget is exhausted or changed")
    return some (
      { executionId, requestedAtMs := now, deadlineMs, timeoutMs, maxReplacements
        confirmedAtMs := none, releaseAuthorized := false, aborted := false },
      { budget with used := budget.used + 1 })

/-- Records an authorised stop, its budget and the cancellation it asks for. -/
def addRecoveryStop (intent : RecoveryStopIntent) (budget : RecoveryBudget) :
    RuntimeExecutionManager :=
  let budgets := m.recoveryBudgets.insert budget.slot budget
  let stops := m.recoveryStops.insert intent.executionId intent
  { m with
    recoveryBudgets := budgets, recoveryStops := stops,
    toAttemptLedger := m.cancelled [intent.executionId] }

def confirmRecoveryStop (executionId : ExecutionId) (receivedAt : TimestampMs) :
    RuntimeExecutionManager :=
  if m.statusOf executionId = some .cancelled then
    let stops := m.recoveryStops.modify executionId fun intent =>
      if intent.confirmedAtMs.isNone && decide (intent.requestedAtMs ≤ receivedAt)
      then { intent with confirmedAtMs := some receivedAt } else intent
    { m with recoveryStops := stops }
  else m

def currentStop (command : ExecutionCommand) : Option RecoveryStopIntent :=
  (m.activeExecutions.get? (commandSlot command)).bind m.recoveryStops.get?

def recoveryStopReady (command : ExecutionCommand) (now : TimestampMs) : Bool :=
  (m.currentStop command).any fun intent =>
    !intent.aborted && m.statusOf intent.executionId == some .cancelled &&
      ((m.executions.get? intent.executionId).any fun context =>
        context.command == command && supportsRoleRetry command) &&
      intent.confirmedAtMs.any (fun time => time < intent.deadlineMs) &&
      intent.confirmedAtMs.any (fun time => time ≤ now) && decide (now < intent.deadlineMs)

def markRecoveryRelease (command : ExecutionCommand) : RuntimeExecutionManager :=
  match m.activeExecutions.get? (commandSlot command) with
  | some id =>
    let stops := m.recoveryStops.modify id fun intent => { intent with releaseAuthorized := true }
    { m with recoveryStops := stops }
  | none => m

end RuntimeExecutionManager

def requestRecoveryStop (executionId : ExecutionId) (expectedNode : NodeId) (now : TimestampMs)
    (timeoutMs maxReplacements : Nat) : RuntimeOp Unit := do
  let m ← get
  let stop ← check (m.validateRecoveryStop executionId expectedNode now timeoutMs
    maxReplacements)
  match stop with
  | none => return ()
  | some (intent, budget) => set (m.addRecoveryStop intent budget)

end RoboGuide.Runtime
