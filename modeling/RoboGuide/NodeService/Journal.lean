import RoboGuide.Domain.Execution
import RoboGuide.Lib.Fallible

/-!
# `RoboGuide.NodeService.Journal`: the durable execution journal of a Node

`core/node-service/src/journal/{mod,authority,storage}.rs`. The journal is a SQLite database:
one table of executions, one of cancellation tombstones, one of local dispatch authorisations
and one of artifact preparations. Every operation is one immediate transaction, so an
operation that fails changes nothing. Rows of the execution table are never deleted.

Opening the journal is a new process lifetime. It runs the statements of
`recoverAmbiguousDispatches`, which are committed one by one.
-/

namespace RoboGuide.NodeService

open Domain Lib Fallible

/-! ### Records -/

/-- The canonical invocation an Execute command carries. `body` is the rest of its JSON form
(operation, parameters, session), of which only the identity matters here. -/
structure Invocation where
  missionId : MissionId
  taskId : TaskId
  groupId : ExecutionGroupId
  roleId : RoleId
  resourceIds : List ResourceId
  resourceGrants : List ResourceAllocationGrant
  /-- The tenant of the Memory preparation, when there is one that names it. -/
  memoryTenant : Option String
  body : String
deriving DecidableEq

/-- What an execution identity is bound to for its whole lifetime. The digest of the
invocation is a function of its content and is not repeated. -/
structure ExecutionSpec where
  invocationContent : Invocation
  workflowDigest : String
  resourceIds : List ResourceId
deriving DecidableEq

inductive JournalStatus where
  | dispatching | accepted | running | completed | failed | cancelled | reconciliationRequired
deriving DecidableEq, Repr

def JournalStatus.isTerminal : JournalStatus → Bool
  | completed | failed | cancelled => true
  | dispatching | accepted | running | reconciliationRequired => false

structure JournalExecution where
  spec : ExecutionSpec
  localHandle : Option String
  cancellationRequested : Bool
  sequence : Nat
  status : JournalStatus
  reason : String
deriving DecidableEq

/-- The tables the execution authority reads and writes. -/
structure ExecutionJournal where
  executions : OrdMap String JournalExecution
  cancellationIntents : OrdSet String
  localDispatchAuthorizations : OrdSet String
  /-- The output binding each execution started to freeze. -/
  artifactPreparations : OrdMap String String
deriving DecidableEq

/-- A database just created. -/
def ExecutionJournal.empty : ExecutionJournal := ⟨∅, ∅, ∅, ∅⟩

/-- The failures of the modelled operations. -/
inductive JournalError where
  | invalidSpec (reason : String)
  | invalidPreparedArtifact (reason : String)
  | artifactPreparationConflict (identity : String)
  | invalidExecutionId
  | invalidLocalHandle
  | unknownExecution (executionId : String)
  | localHandleConflict (executionId : String)
  | ambiguousDispatch (executionId : String)
  | invalidTransition (executionId : String) (reason : String)
  | staleSequence (executionId : String) (current received : Nat)
  | sequenceOverflow
  | corrupt (reason : String)
deriving DecidableEq, Repr

abbrev JournalM := EStateM JournalError ExecutionJournal

def ExecutionSpec.new (invocationContent : Invocation) (workflowDigest : String)
    (resourceIds : List ResourceId) : Except JournalError ExecutionSpec := do
  refuse workflowDigest.isEmpty (.invalidSpec "workflow digest must not be empty")
  pure ⟨invocationContent, workflowDigest, (OrdSet.ofList resourceIds).keys⟩

/-! ### Dispatch -/

/-- What `prepare_dispatch` returns. -/
inductive PrepareDispatch where
  | start (record : JournalExecution)
  | existing (record : JournalExecution)
  | conflict (record : JournalExecution)
deriving DecidableEq

/-- The row `prepare_dispatch` inserts. -/
def dispatchingRow (spec : ExecutionSpec) : JournalExecution where
  spec := spec
  localHandle := none
  cancellationRequested := false
  sequence := 0
  status := .dispatching
  reason := ""

def JournalExecution.cancelledBefore (e : JournalExecution) : JournalExecution :=
  { e with
    status := .cancelled, sequence := e.sequence + 1
    reason := "cancelled before local dispatch" }

/-- A new identity is cancelled at once when a tombstone precedes it. -/
def prepareDispatch (executionId : String) (spec : ExecutionSpec) : JournalM PrepareDispatch := do
  check (refuse executionId.isEmpty .invalidExecutionId)
  let j ← get
  match j.executions.get? executionId with
  | some existing =>
    pure (if existing.spec = spec then .existing existing else .conflict existing)
  | none =>
    if j.cancellationIntents.contains executionId then
      let record := (dispatchingRow spec).cancelledBefore
      set { j with executions := j.executions.insert executionId record }
      pure (.existing record)
    else
      let record := dispatchingRow spec
      set { j with executions := j.executions.insert executionId record }
      pure (.start record)

/-- The effect of `request_cancellation`: a tombstone, and the end of an execution that was
not authorised yet. -/
def ExecutionJournal.withCancellation (j : ExecutionJournal) (executionId : String) :
    ExecutionJournal :=
  { j with
    cancellationIntents := j.cancellationIntents.insert executionId ()
    executions := j.executions.modify executionId fun e =>
      if e.status = .dispatching ∧ j.localDispatchAuthorizations.contains executionId = false then
        e.cancelledBefore
      else e }

def requestCancellation (executionId : String) : JournalM Unit := do
  check (refuse (isBlank executionId) .invalidExecutionId)
  modify (·.withCancellation executionId)

def ExecutionJournal.requiredExecution (j : ExecutionJournal) (executionId : String) :
    Except JournalError JournalExecution :=
  okOr (j.executions.get? executionId) (.unknownExecution executionId)

/-- The marker written right before the local system is called. -/
def authorizeLocalDispatch (executionId : String) : JournalM Unit := do
  let j ← get
  let execution ← check (j.requiredExecution executionId)
  check (refuse (execution.status != .dispatching || execution.localHandle.isSome)
    (.invalidTransition executionId
      "local dispatch may only be authorized before the first handle is recorded"))
  set { j with
    localDispatchAuthorizations := j.localDispatchAuthorizations.insert executionId () }

/-! ### Facts -/

/-- One row is replaced. -/
def ExecutionJournal.setExecution (j : ExecutionJournal) (executionId : String)
    (e : JournalExecution) : ExecutionJournal :=
  { j with executions := j.executions.insert executionId e }

/-- What `record_local_handle` refuses. -/
def validateLocalHandle (executionId localHandle : String) (existing : JournalExecution) :
    Except JournalError Unit :=
  match existing.localHandle with
  | some handle => refuse (handle != localHandle) (.localHandleConflict executionId)
  | none => refuse (existing.status != .dispatching) (.ambiguousDispatch executionId)

def recordLocalHandle (executionId localHandle : String) : JournalM Unit := do
  check (refuse localHandle.isEmpty .invalidLocalHandle)
  let j ← get
  let existing ← check (j.requiredExecution executionId)
  check (validateLocalHandle executionId localHandle existing)
  set (j.setExecution executionId { existing with localHandle := some localHandle })

/-- Acceptance of a local cancellation, not its outcome. -/
def recordCancellationRequested (executionId : String) : JournalM Unit := do
  let j ← get
  let existing ← check (j.requiredExecution executionId)
  if existing.cancellationRequested || existing.status.isTerminal then
    pure ()
  else
    set (j.setExecution executionId { existing with cancellationRequested := true })

/-- Largest value of SQLite's signed integers. -/
def i64Max : Nat := 2 ^ 63 - 1

/-- Facts have increasing sequences and never leave a terminal one. -/
def recordStatus (executionId : String) (sequence : Nat) (status : JournalStatus)
    (reason : String) : JournalM Unit := do
  check (refuse (status == .dispatching) (.invalidTransition executionId
    "Dispatching may only be created by prepare_dispatch"))
  check (refuse (decide (i64Max < sequence)) .sequenceOverflow)
  let j ← get
  let existing ← check (j.requiredExecution executionId)
  if sequence = existing.sequence ∧ status = existing.status ∧ reason = existing.reason then
    pure ()
  else
    check (refuse (decide (sequence ≤ existing.sequence))
      (.staleSequence executionId existing.sequence sequence))
    check (refuse existing.status.isTerminal
      (.invalidTransition executionId "terminal execution facts are immutable"))
    set (j.setExecution executionId { existing with sequence, status, reason })

/-! ### Artifact preparations -/

/-- What `prepare_artifact_freeze` refuses. -/
def validateArtifactFreeze (j : ExecutionJournal) (executionId bindingId : String) :
    Except JournalError Unit := do
  refuse (isBlank executionId || isBlank bindingId) (.invalidPreparedArtifact
    "artifact preparation identities must be nonblank")
  let execution ← j.requiredExecution executionId
  refuse execution.status.isTerminal (.invalidTransition executionId
    "terminal execution cannot start artifact preparation")
  match j.artifactPreparations.get? executionId with
  | some existing =>
    refuse (existing != bindingId) (.artifactPreparationConflict executionId)
  | none =>
    refuse (j.artifactPreparations.values.contains bindingId)
      (.artifactPreparationConflict bindingId)

/-- A repeated marker is the same row. -/
def prepareArtifactFreeze (executionId bindingId : String) : JournalM Unit := do
  let j ← get
  check (validateArtifactFreeze j executionId bindingId)
  set { j with artifactPreparations := j.artifactPreparations.insert executionId bindingId }

/-- `clear_matching_artifact_preparation`, which ends `record_prepared_artifact`. -/
def clearMatchingArtifactPreparation (executionId bindingId : String) : JournalM Unit :=
  modify fun j => { j with artifactPreparations :=
    j.artifactPreparations.retain fun id binding => !(id == executionId && binding == bindingId) }

/-! ### Reopening -/

/-- `UPDATE execution_authority_v7 SET status, reason WHERE p`. -/
def ExecutionJournal.updateWhere (p : ExecutionJournal → String → JournalExecution → Bool)
    (status : JournalStatus) (reason : String) (j : ExecutionJournal) : ExecutionJournal :=
  { j with executions := j.executions.mapValues fun id e =>
      bif p j id e then { e with status, reason } else e }

/-- The statements on the execution table, in their order. -/
def recoverAmbiguousDispatches : List (ExecutionJournal → ExecutionJournal) :=
  [ .updateWhere (fun j id e => e.status == .dispatching && e.localHandle.isNone &&
        !j.localDispatchAuthorizations.contains id)
      .failed "node service restarted before local dispatch was authorized",
    .updateWhere (fun _ _ e => e.status == .dispatching && e.localHandle.isSome)
      .reconciliationRequired
      "local dispatch handle recovered before acceptance fact; status reconciliation required",
    .updateWhere (fun j id e => e.status == .dispatching && e.localHandle.isNone &&
        j.localDispatchAuthorizations.contains id)
      .reconciliationRequired "local dispatch outcome is unknown after node service restart",
    .updateWhere (fun j id e => !e.status.isTerminal && j.artifactPreparations.contains id)
      .reconciliationRequired
      "artifact output freeze was interrupted before its immutable record committed" ]

/-- The journal after the first statements of a recovery; a process may stop inside it. -/
def ExecutionJournal.recovered (j : ExecutionJournal)
    (statements : List (ExecutionJournal → ExecutionJournal)) : ExecutionJournal :=
  statements.foldl (fun j statement => statement j) j

end RoboGuide.NodeService
