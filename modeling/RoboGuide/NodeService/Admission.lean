import RoboGuide.NodeService.Capacity
import RoboGuide.NodeService.Process

/-!
# `RoboGuide.NodeService.Admission`: Execute admissions among other calls

`execute_with_memory_context` of `core/node-service/src/engine/admission.rs`. An admission
holds `capacity_admission_gate` from its first look at the journal to the commit of its row,
so two admissions do not interleave. Every other call takes only the lock of the connection
for one transaction, and may come between any two transactions of an admission: those of the
admission are the steps of this machine.

What comes before the gate (decoding, digests) only decides the specification, and the local
locks only whether the admission goes on: an admission may be abandoned at any point.
-/

namespace RoboGuide.NodeService

open Domain Lib Fallible

inductive AdmissionPhase where
  /-- The gate is taken. -/
  | entered
  /-- The identity is not in the journal. -/
  | absent
  /-- `validate_capacity_admission` succeeded. -/
  | validated
deriving DecidableEq

structure Admission where
  executionId : String
  spec : ExecutionSpec
  phase : AdmissionPhase

structure Node where
  journal : ExecutionJournal
  isOpen : Bool
  gate : Option Admission

def Node.initial : Node := ⟨.empty, false, none⟩

inductive FactCall where
  | requestCancellation (executionId : String)
  | authorizeLocalDispatch (executionId : String)
  | recordLocalHandle (executionId localHandle : String)
  | recordStatus (executionId : String) (sequence : Nat) (status : JournalStatus)
      (reason : String)
  | recordCancellationRequested (executionId : String)
  | prepareArtifactFreeze (executionId bindingId : String)
  | clearMatchingArtifactPreparation (executionId bindingId : String)

def FactCall.run : FactCall → JournalM Unit
  | .requestCancellation id => NodeService.requestCancellation id
  | .authorizeLocalDispatch id => NodeService.authorizeLocalDispatch id
  | .recordLocalHandle id handle => NodeService.recordLocalHandle id handle
  | .recordStatus id sequence status reason => NodeService.recordStatus id sequence status reason
  | .recordCancellationRequested id => NodeService.recordCancellationRequested id
  | .prepareArtifactFreeze id binding => NodeService.prepareArtifactFreeze id binding
  | .clearMatchingArtifactPreparation id binding =>
    NodeService.clearMatchingArtifactPreparation id binding

inductive NodeMove where
  /-- An Execute takes the free gate. -/
  | enter (executionId : String) (spec : ExecutionSpec)
  /-- The admission looks its identity up. -/
  | lookUp
  /-- The admission checks the capacity. -/
  | validate
  /-- The admission commits its row. -/
  | prepare
  /-- The admission gives up, for example on a local lock. -/
  | abandon
  | fact (call : FactCall)
  | stop
  | interruptedOpen (statements : Nat)
  | reopen

namespace Node

variable (catalog : CompiledLocalCatalog)

/-- The next transaction of the admission that holds the gate. -/
def proceed (n : Node) (a : Admission) : Node :=
  match a.phase with
  | .entered =>
    if n.journal.executions.contains a.executionId then
      -- a known identity is replayed or refused by `prepare_dispatch`
      { n with journal := state (prepareDispatch a.executionId a.spec n.journal), gate := none }
    else { n with gate := some { a with phase := .absent } }
  | .absent =>
    match validateCapacityAdmission catalog n.journal
        (some (a.executionId, a.spec.invocationContent)) with
    | .ok _ => { n with gate := some { a with phase := .validated } }
    | .error _ => { n with gate := none }
  | .validated =>
    { n with journal := state (prepareDispatch a.executionId a.spec n.journal), gate := none }

/-- The admission takes its next step if it is the one named. -/
def proceedIn (n : Node) (phase : AdmissionPhase) : Node :=
  match n.gate with
  | some a => if a.phase = phase then n.proceed catalog a else n
  | none => n

/-- One step; what cannot happen now changes nothing. -/
def step (n : Node) : NodeMove → Node
  | .enter executionId spec =>
    if n.isOpen ∧ n.gate.isNone then { n with gate := some ⟨executionId, spec, .entered⟩ } else n
  | .lookUp => n.proceedIn catalog .entered
  | .validate => n.proceedIn catalog .absent
  | .prepare => n.proceedIn catalog .validated
  | .abandon => { n with gate := none }
  | .fact call => if n.isOpen then { n with journal := state (call.run n.journal) } else n
  | .stop => { n with isOpen := false, gate := none }
  | .interruptedOpen statements =>
    if n.isOpen then n
    else { n with journal := n.journal.recovered (recoverAmbiguousDispatches.take statements) }
  | .reopen =>
    if n.isOpen then n
    else { n with journal := n.journal.recovered recoverAmbiguousDispatches, isOpen := true }

/-- Any sequence of steps under one catalog. -/
abbrev Run : Node → Node → Prop := Reaches (Node.step catalog) fun _ _ => True

end Node

lemma FactCall.row (call : FactCall) (j : ExecutionJournal) {id : String} {e' : JournalExecution}
    (h : (state (call.run j)).executions.get? id = some e') :
    ∃ e, j.executions.get? id = some e ∧ RowAges e e' := by
  cases call with
  | requestCancellation id' =>
    rcases requestCancellation_cases id' j with hrun | ⟨error, hrun⟩
    · rw [FactCall.run, hrun] at h
      obtain ⟨e, he, hages, -⟩ := withCancellation_row h
      exact ⟨e, he, hages⟩
    · rw [FactCall.run, hrun] at h
      exact ⟨e', h, .refl e'⟩
  | authorizeLocalDispatch id' =>
    rcases authorizeLocalDispatch_cases id' j with ⟨e, -, -, hrun⟩ | ⟨_, hrun⟩
    · rw [FactCall.run, hrun] at h
      exact ⟨e', h, .refl e'⟩
    · rw [FactCall.run, hrun] at h
      exact ⟨e', h, .refl e'⟩
  | recordLocalHandle id' handle => exact (ages_recordLocalHandle id' handle j).row h
  | recordStatus id' sequence status reason =>
    exact (ages_recordStatus id' sequence status reason j).row h
  | recordCancellationRequested id' => exact (ages_recordCancellationRequested id' j).row h
  | prepareArtifactFreeze id' binding => exact (ages_prepareArtifactFreeze id' binding j).row h
  | clearMatchingArtifactPreparation id' binding =>
    exact (ages_clearMatchingArtifactPreparation id' binding j).row h

end RoboGuide.NodeService
