import RoboGuide.Lib.Latest
import RoboGuide.Runtime.State

/-!
# `RoboGuide.Runtime.GroupRecovery`: stopping and continuing a whole Group

`core/runtime/src/execution/group_recovery.rs`: an authorisation freezes the exact current
attempts of a Group, waits until each of them has really stopped, and then records which
fresh attempt continues which stopped one. Rounds are kept for ever; only the latest round
of a Group is worked on.
-/

namespace RoboGuide.Runtime

open Domain Lib Fallible

def AttemptLedger.cancelled (a : AttemptLedger) (executionIds : List ExecutionId) :
    AttemptLedger :=
  { a with
    cancellationIntents := executionIds.foldl (fun set id => set.insert id ())
      a.cancellationIntents }

inductive GroupRecoveryDisposition where
  | notRequested | awaitingStop | stopConfirmed | continuationPrepared | continued
  | originalCompleted | originalFailed | budgetExpired | aborted
deriving DecidableEq, Repr

def refused (reason : String) : ExecutionRuntimeError := .reconciliationRequired reason

def confirmsStop : Option ExecutionStatus → Bool
  | some .cancelled | some .completed => true
  | _ => false

def confirmsAdmission : Option ExecutionStatus → Bool
  | some .accepted | some .running | some .completed | some .failed | some .cancelled => true
  | _ => false

/-- The set of attempts that is current once the replacements are in place. -/
def GroupRecoveryStopIntent.expectedSet (i : GroupRecoveryStopIntent)
    (replacements : OrdMap ExecutionId ExecutionId) : OrdSet ExecutionId :=
  OrdSet.ofList (i.memberIds.map fun id => (replacements.get? id).getD id)

def GroupRecoveryStopIntent.hasMember (i : GroupRecoveryStopIntent) (id : ExecutionId) : Bool :=
  i.members.any fun member => member.executionId == id

/-- The attempt continues a member of the round. -/
def GroupRecoveryStopIntent.hasReplacement (i : GroupRecoveryStopIntent) (id : ExecutionId) :
    Bool :=
  i.replacements.values.any fun replacement => replacement == id

namespace RuntimeExecutionManager

variable (m : RuntimeExecutionManager)

def groupRecovery (groupId : ExecutionGroupId) : Option GroupRecoveryStopIntent :=
  latest? (fun intent => intent.groupId == groupId) m.groupRecoveries

def groupRecoveryById (groupId : ExecutionGroupId) (recoveryId : String) :
    Option GroupRecoveryStopIntent :=
  m.groupRecoveries.find? fun intent =>
    intent.groupId == groupId && intent.recoveryId == recoveryId

def occupiesItsSlot (executionId : ExecutionId) : Bool :=
  (m.executions.get? executionId).any fun context =>
    m.activeExecutions.get? (commandSlot context.command) == some executionId

/-- The member was preserved, or stopped with a confirmation inside the deadline. -/
def memberStopped (intent : GroupRecoveryStopIntent) (now : TimestampMs)
    (id : ExecutionId) : Bool :=
  intent.preservedCompleted.contains id ||
    (confirmsStop (m.statusOf id) &&
      (intent.confirmedAtMs.get? id).any fun time =>
        decide (time < intent.deadlineMs) && decide (time ≤ now))

def groupRecoveryDisposition (groupId : ExecutionGroupId) (now : TimestampMs) :
    GroupRecoveryDisposition :=
  match m.groupRecovery groupId with
  | none => .notRequested
  | some intent =>
    if intent.aborted then .aborted
    else if !intent.replacements.entries.isEmpty then
      if intent.replacements.values.all fun id => (intent.admittedAtMs.get? id).any fun time =>
          decide (time < intent.deadlineMs) && decide (time ≤ now) then .continued
      else if intent.deadlineMs ≤ now then .budgetExpired
      else .continuationPrepared
    else if intent.memberIds.any fun id => m.statusOf id == some .failed then .originalFailed
    else if intent.memberIds.all fun id => m.statusOf id == some .completed then
      .originalCompleted
    else if intent.deadlineMs ≤ now then .budgetExpired
    else if intent.memberIds.all fun id => m.occupiesItsSlot id && m.memberStopped intent now id
    then .stopConfirmed
    else .awaitingStop

def groupRecoveryHoldsDispatch (groupId : ExecutionGroupId) (now : TimestampMs) : Bool :=
  match m.groupRecoveryDisposition groupId now with
  | .awaitingStop | .stopConfirmed | .continuationPrepared | .budgetExpired => true
  | .notRequested | .continued | .originalCompleted | .originalFailed | .aborted => false

def groupRecoveryForAttempt (executionId : ExecutionId) : Option GroupRecoveryStopIntent :=
  latest? (fun intent => intent.hasMember executionId || intent.hasReplacement executionId)
    m.groupRecoveries

def groupRecoveryPreservesCancelled (executionId : ExecutionId) : Bool :=
  (m.groupRecoveryForAttempt executionId).any fun intent =>
    !intent.aborted && intent.hasMember executionId

def abortGroupRecoveryForAttempt (executionId : ExecutionId) : RuntimeExecutionManager :=
  let rounds := m.groupRecoveries.map fun intent =>
    if intent.hasMember executionId || intent.hasReplacement executionId
    then { intent with aborted := true } else intent
  { m with groupRecoveries := rounds }

/-! ### Requesting a round -/

/-- The checks one member of a requested round has to pass, given the session shared by the
members before it: its session, and whether it already completed. -/
def validateGroupMember (groupId : ExecutionGroupId)
    (shared : Option ExecutionSessionDescriptor) (member : GroupRecoveryMember) :
    Except ExecutionRuntimeError (ExecutionSessionDescriptor × Bool) := do
  let context ← okOr (m.executions.get? member.executionId) (refused "unknown Group member")
  let command := context.command
  let session ← okOr command.session
    (refused "Group continuation requires immutable execution session")
  match session.validateSlot command.taskRef.missionId groupId command.taskRef.taskId
      command.roleId with
  | .error _ => throw (refused "invalid Group execution session")
  | .ok _ =>
    refuse (command.groupId != groupId || command.nodeId != member.expectedNodeId ||
        decide (32 < session.slots.length) || session.slots.any (fun slot => !slot.independent) ||
        command.recoverySupport.all (fun declaration =>
          declaration.support.operation != command.intent.operation ||
            !declaration.support.supportsGroupContinuation) ||
        (m.recoveryStops.get? member.executionId).isSome ||
        shared.any (fun original => original != session))
      (refused "Group continuation requires exact session and group-stop owner support")
    match m.statusOf member.executionId with
    | some .completed => return (session, true)
    | some .failed | some .cancelled | none => throw (refused
        "Group source already failed or was cancelled without this recovery purpose")
    | some _ =>
      refuse (!member.repeatAuthorized)
        (refused "every affected operation needs explicit repeat authorization")
      return (session, false)

def validateGroupMembers (groupId : ExecutionGroupId) :
    Option ExecutionSessionDescriptor → List GroupRecoveryMember →
      Except ExecutionRuntimeError (List ExecutionId)
  | _, [] => return []
  | shared, member :: members => do
    let (session, completed) ← m.validateGroupMember groupId shared member
    let rest ← validateGroupMembers groupId (some session) members
    return if completed then member.executionId :: rest else rest

def groupRounds (groupId : ExecutionGroupId) : List GroupRecoveryStopIntent :=
  m.groupRecoveries.filter fun intent => intent.groupId == groupId

/-- `members.sort_by(|left, right| left.execution_id.cmp(&right.execution_id))`. -/
def sortMembers (members : List GroupRecoveryMember) : List GroupRecoveryMember :=
  members.insertionSort fun a b => a.executionId ≤ b.executionId

/-- The round `request_group_recovery_stop` authorises for the sorted members; `none` when
the same command was already accepted. -/
def validateGroupRecoveryRequest (groupId : ExecutionGroupId) (recoveryId : String)
    (members : List GroupRecoveryMember) (now : TimestampMs) (timeoutMs maxReplacements : Nat) :
    Except ExecutionRuntimeError (Option GroupRecoveryStopIntent) := do
  match m.groupRecoveryById groupId recoveryId with
  | some existing =>
    refuse (existing.members != members || existing.timeoutMs != timeoutMs ||
      existing.maxReplacements != maxReplacements)
      (refused "Group recovery command identity cannot change")
    return none
  | none =>
    refuse (isBlank recoveryId || decide (256 < recoveryId.utf8ByteSize) || members.isEmpty ||
        decide (32 < members.length) || timeoutMs == 0 || decide (3600000 < timeoutMs) ||
        !(decide (1 ≤ maxReplacements) && decide (maxReplacements ≤ 16)))
      (refused "Group recovery requires bounded identity, set and policy")
    refuse (decide (maxReplacements ≤ (m.groupRounds groupId).length) ||
        (m.groupRounds groupId).any (fun intent => intent.maxReplacements != maxReplacements) ||
        m.groupRecoveryHoldsDispatch groupId now)
      (refused "Group recovery history is pending, exhausted or changed")
    let ids := members.map (·.executionId)
    refuse (!decide ids.Nodup ||
        OrdSet.ofList ids != OrdSet.ofList ((m.activeAttemptsForGroup groupId).map (·.1)))
      (refused "Group recovery must cover every exact current attempt once")
    let preserved ← m.validateGroupMembers groupId none members
    refuse (preserved.length == members.length)
      (refused "no live Group operation requires recovery")
    let deadlineMs ← okOr (checkedAdd now timeoutMs) (refused "Group deadline overflow")
    return some {
      recoveryId, groupId, members, preservedCompleted := OrdSet.ofList preserved
      requestedAtMs := now, deadlineMs, timeoutMs, maxReplacements, confirmedAtMs := ∅
      replacements := ∅, preparedAtMs := none, admittedAtMs := ∅, aborted := false }

/-- Cancels every member that is not preserved and appends the round. -/
def addGroupRound (intent : GroupRecoveryStopIntent) : RuntimeExecutionManager :=
  let stopped := intent.memberIds.filter fun id => !intent.preservedCompleted.contains id
  let rounds := m.groupRecoveries ++ [intent]
  { m with toAttemptLedger := m.cancelled stopped, groupRecoveries := rounds }

/-! ### Confirmations -/

def confirmRound (executionId : ExecutionId) (receivedAt : TimestampMs)
    (intent : GroupRecoveryStopIntent) : GroupRecoveryStopIntent :=
  if !intent.preservedCompleted.contains executionId && intent.hasMember executionId &&
      decide (intent.requestedAtMs ≤ receivedAt) && !intent.confirmedAtMs.contains executionId
  then { intent with confirmedAtMs := intent.confirmedAtMs.insert executionId receivedAt }
  else intent

def confirmGroupRecoveryStop (executionId : ExecutionId) (receivedAt : TimestampMs) :
    RuntimeExecutionManager :=
  if confirmsStop (m.statusOf executionId) then
    { m with groupRecoveries := m.groupRecoveries.map (confirmRound executionId receivedAt) }
  else m

def admitRound (executionId : ExecutionId) (receivedAt : TimestampMs)
    (intent : GroupRecoveryStopIntent) : GroupRecoveryStopIntent :=
  if intent.hasReplacement executionId && intent.preparedAtMs.any (fun time => time ≤ receivedAt)
      && !intent.admittedAtMs.contains executionId
  then { intent with admittedAtMs := intent.admittedAtMs.insert executionId receivedAt }
  else intent

def confirmGroupContinuationAdmission (executionId : ExecutionId) (receivedAt : TimestampMs) :
    RuntimeExecutionManager :=
  if confirmsAdmission (m.statusOf executionId) then
    { m with groupRecoveries := m.groupRecoveries.map (admitRound executionId receivedAt) }
  else m

/-! ### Recording a continuation -/

/-- A replacement has to repeat its source exactly and still wait for its Node. -/
def sameInvocation (source replacement : ExecutionContext) : Bool :=
  replacement.command.nodeId == source.command.nodeId &&
    replacement.command.intent == source.command.intent &&
    replacement.command.session == source.command.session &&
    replacement.command.groupId == source.command.groupId &&
    replacement.command.taskRef == source.command.taskRef &&
    replacement.command.roleId == source.command.roleId &&
    replacement.command.recoverySupport == source.command.recoverySupport &&
    replacement.resourceIds == source.resourceIds

def cancelledMembers (intent : GroupRecoveryStopIntent) : List ExecutionId :=
  intent.memberIds.filter fun id => m.statusOf id == some .cancelled

/-- The check of one source of `record_group_continuation`. Both the source's replacement
and its context are there when this runs. -/
def validateReplacement (replacements : OrdMap ExecutionId ExecutionId) (source : ExecutionId) :
    Except ExecutionRuntimeError Unit := do
  let replacement := (replacements.get? source).getD source
  let actual ← okOr (m.executions.get? replacement) (refused "Group replacement not prepared")
  refuse (!((m.executions.get? source).any fun original => sameInvocation original actual) ||
      m.statusOf replacement != some .dispatched)
    (refused "Group replacement changed original binding or invocation")

/-- The checks of `record_group_continuation`. -/
def validateGroupContinuation (groupId : ExecutionGroupId) (now : TimestampMs)
    (replacements : OrdMap ExecutionId ExecutionId) : Except ExecutionRuntimeError Unit := do
  let intent ← okOr (m.groupRecovery groupId) (refused "Group stop purpose missing")
  refuse (intent.aborted || !intent.replacements.entries.isEmpty ||
      decide (intent.deadlineMs ≤ now) ||
      !intent.memberIds.all (fun id => m.memberStopped intent now id))
    (refused "Group stop barrier is not satisfied")
  refuse (intent.expectedSet replacements !=
      OrdSet.ofList ((m.activeAttemptsForGroup groupId).map (·.1)))
    (refused "Group current set changed during continuation preparation")
  let sources := m.cancelledMembers intent
  refuse (OrdSet.ofList replacements.keys != OrdSet.ofList sources ||
      !decide replacements.values.Nodup || replacements.entries.isEmpty)
    (refused "Group continuation must prepare every cancelled member exactly once")
  sources.forM (m.validateReplacement replacements)

def publishContinuation (groupId : ExecutionGroupId) (now : TimestampMs)
    (replacements : OrdMap ExecutionId ExecutionId) : RuntimeExecutionManager :=
  let rounds := updateLatest (fun intent => intent.groupId == groupId)
    (fun intent => { intent with replacements := replacements, preparedAtMs := some now })
    m.groupRecoveries
  { m with groupRecoveries := rounds }

end RuntimeExecutionManager

def requestGroupRecoveryStop (groupId : ExecutionGroupId) (recoveryId : String)
    (members : List GroupRecoveryMember) (now : TimestampMs) (timeoutMs maxReplacements : Nat) :
    RuntimeOp Unit := do
  let m ← get
  let members := RuntimeExecutionManager.sortMembers members
  let round ← check (m.validateGroupRecoveryRequest groupId recoveryId members now timeoutMs
    maxReplacements)
  match round with
  | none => return ()
  | some intent => set (m.addGroupRound intent)

def recordGroupContinuation (groupId : ExecutionGroupId) (now : TimestampMs)
    (replacements : OrdMap ExecutionId ExecutionId) : RuntimeOp Unit := do
  let m ← get
  check (m.validateGroupContinuation groupId now replacements)
  set (m.publishContinuation groupId now replacements)

end RoboGuide.Runtime
