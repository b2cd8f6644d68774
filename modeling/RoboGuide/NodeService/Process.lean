import RoboGuide.Lib.History
import RoboGuide.Lib.Transition
import RoboGuide.NodeService.Journal

/-!
# `RoboGuide.NodeService.Process`: lifetimes of a Node Service over one journal

A process opens the journal, calls it in any order and stops at any point: between two calls,
or inside the recovery that opens it. `spawn_dispatch` gives each `Start` one task of the
process, which asks for the local dispatch authorisation and starts the execute workflow when
it gets it; such tasks die with their process.

The machine keeps a log of what the calls returned. `Process.Run` is any sequence of steps.
-/

namespace RoboGuide.NodeService

open Domain Lib Fallible ExecutionJournal List

variable {j : ExecutionJournal} {e e' : JournalExecution} {id : String} {j' : ExecutionJournal}
  {status : JournalStatus} {reason : String}

/-! ### The machine -/

/-- What happened, in order. -/
inductive Entry where
  /-- `prepare_dispatch` returned `Start`. -/
  | started (executionId : String) (spec : ExecutionSpec) (lifetime : Nat)
  /-- `request_cancellation` committed. -/
  | cancelled (executionId : String)
  /-- `authorize_local_dispatch` succeeded. -/
  | authorized (executionId : String) (lifetime : Nat)
  /-- The local execute workflow was started. -/
  | executed (executionId : String)
deriving DecidableEq

/-- A Node Service process, or the time between two of them. -/
structure Process where
  journal : ExecutionJournal
  isOpen : Bool
  /-- The number of the current or last lifetime. -/
  lifetime : Nat
  /-- Executions whose `spawn_dispatch` task has not asked for its authorisation yet. -/
  dispatches : List String
  log : List Entry

/-- A Node that was never started. -/
def Process.initial : Process := ⟨.empty, false, 0, [], []⟩

inductive Call where
  | prepareDispatch (executionId : String) (spec : ExecutionSpec)
  | requestCancellation (executionId : String)
  | authorizeLocalDispatch (executionId : String)
  /-- The task of `spawn_dispatch` reaches its authorisation. -/
  | dispatch (executionId : String)
  | recordLocalHandle (executionId localHandle : String)
  | recordStatus (executionId : String) (sequence : Nat) (status : JournalStatus)
      (reason : String)
  | recordCancellationRequested (executionId : String)
  | prepareArtifactFreeze (executionId bindingId : String)
  | clearMatchingArtifactPreparation (executionId bindingId : String)

/-- One step of a Node. -/
inductive Move where
  | call (call : Call)
  /-- The process stops. -/
  | stop
  /-- A process stops after so many statements of its recovery. -/
  | interruptedOpen (statements : Nat)
  /-- A process opens the journal. -/
  | reopen

namespace Process

/-- `authorize_local_dispatch`, with what the caller does on success. -/
def authorize (p : Process) (executionId : String) (onSuccess : List Entry) : Process :=
  match authorizeLocalDispatch executionId p.journal with
  | .ok _ j =>
    { p with journal := j, log := p.log ++ (.authorized executionId p.lifetime :: onSuccess) }
  | .error _ j => { p with journal := j }

def call (p : Process) : Call → Process
  | .prepareDispatch executionId spec =>
    match NodeService.prepareDispatch executionId spec p.journal with
    | .ok (.start _) j =>
      { p with
        journal := j, dispatches := executionId :: p.dispatches
        log := p.log ++ [.started executionId spec p.lifetime] }
    | result => { p with journal := state result }
  | .requestCancellation executionId =>
    match NodeService.requestCancellation executionId p.journal with
    | .ok _ j => { p with journal := j, log := p.log ++ [.cancelled executionId] }
    | .error _ j => { p with journal := j }
  | .authorizeLocalDispatch executionId => p.authorize executionId []
  | .dispatch executionId =>
    if executionId ∈ p.dispatches then
      ({ p with dispatches := p.dispatches.erase executionId }).authorize executionId
        [.executed executionId]
    else p
  | .recordLocalHandle executionId localHandle =>
    { p with journal := state (NodeService.recordLocalHandle executionId localHandle p.journal) }
  | .recordStatus executionId sequence status reason =>
    { p with journal :=
        state (NodeService.recordStatus executionId sequence status reason p.journal) }
  | .recordCancellationRequested executionId =>
    { p with journal := state (NodeService.recordCancellationRequested executionId p.journal) }
  | .prepareArtifactFreeze executionId bindingId =>
    { p with journal :=
        state (NodeService.prepareArtifactFreeze executionId bindingId p.journal) }
  | .clearMatchingArtifactPreparation executionId bindingId =>
    { p with journal :=
        state (NodeService.clearMatchingArtifactPreparation executionId bindingId p.journal) }

/-- One step; what cannot happen now changes nothing. -/
def step (p : Process) : Move → Process
  | .call call => if p.isOpen then p.call call else p
  | .stop => { p with isOpen := false, dispatches := [] }
  | .interruptedOpen statements =>
    if p.isOpen then p
    else { p with journal := p.journal.recovered (recoverAmbiguousDispatches.take statements) }
  | .reopen =>
    if p.isOpen then p
    else { p with
      journal := p.journal.recovered recoverAmbiguousDispatches
      isOpen := true, lifetime := p.lifetime + 1 }

/-- Any sequence of steps. -/
abbrev Run : Process → Process → Prop := Reaches Process.step fun _ _ => True

end Process

/-! ### What a row can become -/

/-- Facts about one execution only advance: its identity stays, a dispatch is not begun again
and a terminal fact stays terminal. -/
structure RowAges (e e' : JournalExecution) : Prop where
  spec : e'.spec = e.spec
  dispatching : e'.status = .dispatching → e.status = .dispatching
  terminal : e.status.isTerminal = true → e'.status.isTerminal = true

lemma RowAges.refl (e : JournalExecution) : RowAges e e := ⟨rfl, id, id⟩

lemma RowAges.trans {e₁ e₂ e₃ : JournalExecution} (h : RowAges e₁ e₂) (h' : RowAges e₂ e₃) :
    RowAges e₁ e₃ :=
  ⟨h'.spec.trans h.spec, h.dispatching ∘ h'.dispatching, h'.terminal ∘ h.terminal⟩

lemma RowAges.closed (hspec : e'.spec = e.spec)
    (hopen : e.status.isTerminal = false) (hstatus : e'.status ≠ .dispatching) : RowAges e e' :=
  ⟨hspec, fun h => absurd h hstatus, fun h => absurd (h.symm.trans hopen) (by decide)⟩

/-- The journal after operations that neither admit nor authorise nor cancel an execution. -/
structure Ages (j j' : ExecutionJournal) : Prop where
  rows : ∀ id, Option.Rel RowAges (j.executions.get? id) (j'.executions.get? id)
  authorizations : j'.localDispatchAuthorizations = j.localDispatchAuthorizations
  intents : j'.cancellationIntents = j.cancellationIntents

lemma Ages.kept (h : Ages j j') (he : j.executions.get? id = some e) :
    ∃ e', j'.executions.get? id = some e' ∧ RowAges e e' := by
  have hrow := h.rows id
  rw [he] at hrow
  cases hget : j'.executions.get? id with
  | none =>
    rw [hget] at hrow
    cases hrow
  | some e' =>
    rw [hget] at hrow
    cases hrow with
    | some hages => exact ⟨e', rfl, hages⟩

lemma Ages.row (h : Ages j j') (he' : j'.executions.get? id = some e') :
    ∃ e, j.executions.get? id = some e ∧ RowAges e e' := by
  have hrow := h.rows id
  rw [he'] at hrow
  cases hget : j.executions.get? id with
  | none =>
    rw [hget] at hrow
    cases hrow
  | some e =>
    rw [hget] at hrow
    cases hrow with
    | some hages => exact ⟨e, rfl, hages⟩

lemma Ages.refl (j : ExecutionJournal) : Ages j j := by
  refine ⟨fun id => ?_, rfl, rfl⟩
  cases j.executions.get? id with
  | none => exact .none
  | some e => exact .some (.refl e)

lemma Ages.trans {j₁ j₂ j₃ : ExecutionJournal} (h : Ages j₁ j₂) (h' : Ages j₂ j₃) :
    Ages j₁ j₃ := by
  refine ⟨fun id => ?_, h'.authorizations.trans h.authorizations, h'.intents.trans h.intents⟩
  have h₁ := h.rows id
  have h₂ := h'.rows id
  generalize j₁.executions.get? id = e₁ at h₁
  generalize j₂.executions.get? id = e₂ at h₁ h₂
  generalize j₃.executions.get? id = e₃ at h₂
  cases h₁ with
  | none =>
    cases h₂
    exact .none
  | some h₁ =>
    cases h₂ with
    | some h₂ => exact .some (h₁.trans h₂)

lemma ages_setExecution
    (he : j.executions.get? id = some e) (h : RowAges e e') : Ages j (j.setExecution id e') := by
  refine ⟨fun id' => ?_, rfl, rfl⟩
  show Option.Rel _ _ ((j.executions.insert id e').get? id')
  rw [get?_insert]
  split
  · next hid =>
    rw [hid, he]
    exact .some h
  · exact (Ages.refl j).rows id'

variable {p : ExecutionJournal → String → JournalExecution → Bool}

lemma ages_updateWhere
    (j : ExecutionJournal) (hopen : ∀ id e, p j id e = true → e.status.isTerminal = false)
    (hstatus : status ≠ .dispatching) : Ages j (updateWhere p status reason j) := by
  refine ⟨fun id => ?_, rfl, rfl⟩
  show Option.Rel _ _ ((j.executions.mapValues _).get? id)
  rw [get?_mapValues]
  cases j.executions.get? id with
  | none => exact .none
  | some e =>
    refine .some ?_
    dsimp only
    cases hp : p j id e with
    | false => exact .refl e
    | true => exact .closed rfl (hopen id e hp) hstatus

lemma Ages.checked {α β : Type} {x : Except JournalError α}
    {f : α → EStateM JournalError ExecutionJournal β}
    (h : ∀ a, x = .ok a → Ages j (state (f a j))) : Ages j (state ((check x >>= f) j)) :=
  state_check_bind (.refl j) h

lemma ages_recordLocalHandle (id handle : String) (j : ExecutionJournal) :
    Ages j (state (recordLocalHandle id handle j)) := by
  refine .checked fun _ _ => ?_
  rw [run_get_bind]
  refine .checked fun e he => .checked fun _ _ => ?_
  exact ages_setExecution (okOr_eq_ok.mp he) ⟨rfl, fun h => h, fun h => h⟩

lemma ages_recordCancellationRequested (id : String) (j : ExecutionJournal) :
    Ages j (state (recordCancellationRequested id j)) := by
  unfold recordCancellationRequested
  rw [run_get_bind]
  refine .checked fun e he => ?_
  split
  · exact .refl j
  · exact ages_setExecution (okOr_eq_ok.mp he) ⟨rfl, fun h => h, fun h => h⟩

lemma ages_recordStatus (id : String) (sequence : Nat) (status : JournalStatus)
    (reason : String) (j : ExecutionJournal) :
    Ages j (state (recordStatus id sequence status reason j)) := by
  refine .checked fun _ hstatus => .checked fun _ _ => ?_
  rw [run_get_bind]
  refine .checked fun e he => ?_
  split
  · exact .refl j
  · refine .checked fun _ _ => .checked fun _ hopen => ?_
    refine ages_setExecution (okOr_eq_ok.mp he) (.closed rfl (refuse_eq_ok.mp hopen) ?_)
    simpa using refuse_eq_ok.mp hstatus

lemma ages_prepareArtifactFreeze (id binding : String) (j : ExecutionJournal) :
    Ages j (state (prepareArtifactFreeze id binding j)) := by
  unfold prepareArtifactFreeze
  rw [run_get_bind]
  exact .checked fun _ _ => ⟨(Ages.refl j).rows, rfl, rfl⟩

lemma ages_clearMatchingArtifactPreparation (id binding : String) (j : ExecutionJournal) :
    Ages j (state (clearMatchingArtifactPreparation id binding j)) :=
  ⟨(Ages.refl j).rows, rfl, rfl⟩

/-! ### Admission, cancellation and authorisation -/

lemma prepareDispatch_cases (id : String) (spec : ExecutionSpec) (j : ExecutionJournal) :
    (j.executions.get? id = none ∧ j.cancellationIntents.contains id = false ∧
      prepareDispatch id spec j =
        .ok (.start (dispatchingRow spec)) (j.setExecution id (dispatchingRow spec))) ∨
    (j.executions.get? id = none ∧
      prepareDispatch id spec j = .ok (.existing (dispatchingRow spec).cancelledBefore)
        (j.setExecution id (dispatchingRow spec).cancelledBefore)) ∨
    ((∀ r j', prepareDispatch id spec j ≠ .ok (.start r) j') ∧
      state (prepareDispatch id spec j) = j) := by
  unfold prepareDispatch
  simp only [run_check_bind, run_get_bind]
  cases refuse id.isEmpty JournalError.invalidExecutionId with
  | error =>
    refine .inr (.inr ⟨fun r j' h => ?_, rfl⟩)
    cases h
  | ok =>
    cases he : j.executions.get? id with
    | some =>
      refine .inr (.inr ⟨fun r j' h => ?_, rfl⟩)
      dsimp only at h
      split at h <;> cases h
    | none =>
      cases hc : j.cancellationIntents.contains id with
      | true => exact .inr (.inl ⟨rfl, rfl⟩)
      | false => exact .inl ⟨rfl, rfl, rfl⟩

lemma requestCancellation_cases (id : String) (j : ExecutionJournal) :
    requestCancellation id j = .ok () (j.withCancellation id) ∨
      ∃ e, requestCancellation id j = .error e j := by
  unfold requestCancellation
  simp only [run_check_bind]
  cases refuse (isBlank id) JournalError.invalidExecutionId with
  | error e => exact .inr ⟨e, rfl⟩
  | ok => exact .inl rfl

lemma authorizeLocalDispatch_cases (id : String) (j : ExecutionJournal) :
    (∃ e, j.executions.get? id = some e ∧ e.status = .dispatching ∧
      authorizeLocalDispatch id j = .ok () { j with
        localDispatchAuthorizations := j.localDispatchAuthorizations.insert id () }) ∨
      ∃ e, authorizeLocalDispatch id j = .error e j := by
  unfold authorizeLocalDispatch requiredExecution
  simp only [run_check_bind, run_get_bind]
  cases he : j.executions.get? id with
  | none => exact .inr ⟨_, rfl⟩
  | some e =>
    simp only [okOr_some]
    cases hs : e.status != .dispatching || e.localHandle.isSome with
    | true => exact .inr ⟨_, rfl⟩
    | false =>
      rw [Bool.or_eq_false_iff, bne_eq_false_iff_eq] at hs
      exact .inl ⟨e, rfl, hs.1, rfl⟩

lemma withCancellation_row {id' : String}
    (h : (j.withCancellation id).executions.get? id' = some e') :
    ∃ e, j.executions.get? id' = some e ∧ RowAges e e' ∧
      (id' = id → j.localDispatchAuthorizations.contains id = false →
        e'.status ≠ .dispatching) := by
  simp only [withCancellation, get?_modify] at h
  split at h
  · next hid =>
    subst hid
    obtain ⟨e, he, rfl⟩ := Option.map_eq_some_iff.mp h
    refine ⟨e, he, ?_⟩
    split
    · next hopen =>
      have hclosed : (e.cancelledBefore).status ≠ .dispatching := by
        show JournalStatus.cancelled ≠ .dispatching
        decide
      exact ⟨.closed rfl (by rw [hopen.1]; rfl) hclosed, fun _ _ => hclosed⟩
    · next hkept => exact ⟨.refl e, fun _ hauth he => hkept ⟨he, hauth⟩⟩
  · next hid => exact ⟨e', h, .refl e', fun heq => absurd heq hid⟩

/-! ### Recovery -/

lemma recovery_updates {statement : ExecutionJournal → ExecutionJournal}
    (h : statement ∈ recoverAmbiguousDispatches) : ∃ q status reason,
      statement = updateWhere q status reason ∧ status ≠ .dispatching ∧
        ∀ j id e, q j id e = true → e.status.isTerminal = false := by
  have hdispatching : ∀ e : JournalExecution, e.status = .dispatching →
      e.status.isTerminal = false := fun e he => by rw [he]; rfl
  simp only [recoverAmbiguousDispatches, mem_cons, not_mem_nil, or_false] at h
  rcases h with rfl | rfl | rfl | rfl
  all_goals refine ⟨_, _, _, rfl, by decide, fun j id e hp => ?_⟩
  · simp only [Bool.and_eq_true, beq_iff_eq] at hp
    exact hdispatching e hp.1.1
  · simp only [Bool.and_eq_true, beq_iff_eq] at hp
    exact hdispatching e hp.1
  · simp only [Bool.and_eq_true, beq_iff_eq] at hp
    exact hdispatching e hp.1.1
  · simp only [Bool.and_eq_true, Bool.not_eq_true'] at hp
    exact hp.1

lemma ages_recovered (j : ExecutionJournal)
    {statements : List (ExecutionJournal → ExecutionJournal)}
    (h : ∀ statement ∈ statements, statement ∈ recoverAmbiguousDispatches) :
    Ages j (j.recovered statements) := by
  induction statements generalizing j with
  | nil => exact .refl j
  | cons statement statements ih =>
    obtain ⟨q, _, _, rfl, hstatus, hopen⟩ := recovery_updates (h statement mem_cons_self)
    exact (ages_updateWhere j (hopen j) hstatus).trans
      (ih _ fun s hs => h s (mem_cons_of_mem _ hs))

lemma updateWhere_dispatching (hstatus : status ≠ .dispatching) (he : e.status = .dispatching)
    (h : (updateWhere p status reason j).executions.get? id = some e) :
    j.executions.get? id = some e ∧ p j id e = false := by
  simp only [updateWhere, get?_mapValues, Option.map_eq_some_iff] at h
  obtain ⟨e₀, he₀, rfl⟩ := h
  cases hp : p j id e₀ with
  | false => exact ⟨he₀, hp⟩
  | true =>
    rw [hp] at he
    exact absurd he hstatus

lemma recovered_not_dispatching
    (h : (j.recovered recoverAmbiguousDispatches).executions.get? id = some e) :
    e.status ≠ .dispatching := by
  intro he
  simp only [recovered, recoverAmbiguousDispatches, foldl_cons, foldl_nil] at h
  obtain ⟨h, -⟩ := updateWhere_dispatching (by decide) he h
  obtain ⟨h, _⟩ := updateWhere_dispatching (by decide) he h
  obtain ⟨h, _⟩ := updateWhere_dispatching (by decide) he h
  obtain ⟨-, _⟩ := updateWhere_dispatching (by decide) he h
  -- the three statements cover a dispatching row by its handle and its authorisation
  simp only [updateWhere, he, beq_self_eq_true, Bool.true_and] at *
  cases hl : e.localHandle <;> simp_all

end RoboGuide.NodeService
