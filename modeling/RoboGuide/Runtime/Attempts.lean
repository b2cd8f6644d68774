import RoboGuide.Runtime.Effect
import RoboGuide.Runtime.Rounds

/-!
# `RoboGuide.Runtime.Attempts`: how facts about attempts change

The ledger of attempts changes in a few ways only, whichever method is called: an attempt is
prepared, a fact about one is accepted, one becomes ambiguous, its delivery or cancellation
is noted, a generation is drawn (`AttemptMove`). `Effect.attempts` says so for every call;
`restore_ledger` says what a restart makes of the ledger.
-/

namespace RoboGuide.Runtime

open Domain Lib Fallible RuntimeExecutionManager AttemptLedger OrdMap Option
open Relation (ReflTransGen)

variable {id : ExecutionId} {m m' : RuntimeExecutionManager} {node : NodeId}
  {c : RuntimeExecutionCheckpoint} {sequence : Nat} {status : ExecutionStatus} {a' : AttemptLedger}
  {call : RuntimeCall}

/-- A Node fact that `observe_execution` accepts. -/
structure AcceptedFact (a : AttemptLedger) (id : ExecutionId) (node : NodeId) (sequence : Nat) :
    Prop where
  owner : ∀ expected, a.executionNodes.get? id = some expected → expected = node
  later : ∀ current, a.executionSequences.get? id = some current → current < sequence
  isOpen : a.isTerminal id = false
  command : ∀ context, a.executions.get? id = some context → context.command.nodeId = node

/-- An identity that `validate_dispatch` routes. -/
structure Routable (a : AttemptLedger) (id : ExecutionId) (command : ExecutionCommand) : Prop where
  declared : command.recoveryMismatch = false
  notRestored : a.restoredExecutions.contains id = false
  noContext : a.executions.get? id = none
  noStatus : a.executionStatus.get? id = none

inductive AttemptMove (a : AttemptLedger) : AttemptLedger → Prop where
  | prepared (id : ExecutionId) (command : ExecutionCommand) (resources : List ResourceId)
      (h : Routable a id command) :
      AttemptMove a (a.prepared id command (normalizedResources resources))
  | delivered (id : ExecutionId) : AttemptMove a (a.delivered id)
  | counted (id : ExecutionId) : AttemptMove a (a.counted id)
  | lost (id : ExecutionId) (hopen : a.isTerminal id = false) : AttemptMove a (a.lost id)
  | fact (id : ExecutionId) (node : NodeId) (sequence : Nat) (status : ExecutionStatus)
      (h : AcceptedFact a id node sequence) : AttemptMove a (a.observed id node sequence status)
  | timedFact (id : ExecutionId) (node : NodeId) (sequence : Nat) (status : ExecutionStatus)
      (receivedAt : TimestampMs) (h : AcceptedFact a id node sequence)
      (hterminal : status.isTerminal = true) (hknown : a.executions.contains id = true) :
      AttemptMove a ((a.observed id node sequence status).timed id receivedAt)
  | activated (id : ExecutionId) (command : ExecutionCommand) :
      AttemptMove a (a.activated id command)
  | cancelled (ids : List ExecutionId) (hknown : ∀ id ∈ ids, a.executions.contains id = true) :
      AttemptMove a (a.cancelled ids)
  | allocated (slot : ExecutionSlot) (generation : Nat)
      (hnext : (a.attemptGenerations.get? slot).getD 0 < generation) :
      AttemptMove a { a with
        attemptGenerations := a.attemptGenerations.insert slot generation }

lemma routable_of_route {command : ExecutionCommand} {resources : List ResourceId}
    (h : m.validateDispatch id command resources = .ok .route) :
    Routable m.toAttemptLedger id command := by
  rw [validateDispatch] at h
  simp only [bind_eq_ok, refuse_eq_ok] at h
  obtain ⟨_, hdeclared, _, hrestored, _, hstatus, h⟩ := h
  have hnone : m.executions.get? id = none := by
    cases hget : m.executions.get? id with
    | none => rfl
    | some =>
      rw [hget] at h
      simp at h
  refine ⟨hdeclared, hrestored, hnone, ?_⟩
  simpa [contains, hnone] using hstatus

lemma acceptedFact_of_valid (h : m.validateFact id node sequence status = .ok true) :
    AcceptedFact m.toAttemptLedger id node sequence := by
  rw [validateFact] at h
  simp only [bind_eq_ok, refuse_eq_ok] at h
  obtain ⟨_, howner, h⟩ := h
  split at h
  · simp at h
  next hlater =>
  split at h
  · simp at h
  next hopen =>
  simp only [bind_eq_ok, refuse_eq_ok] at h
  obtain ⟨_, hcommand, -⟩ := h
  refine ⟨fun expected he => ?_, fun current hc => ?_, by simpa using hopen, fun context hx => ?_⟩
  · simpa [he] using howner
  · simpa [hc] using hlater
  · simpa [hx] using hcommand

/-! ### Every call -/

section

variable {reason : String} {now : TimestampMs}

section

variable (m : RuntimeExecutionManager)

lemma ambiguous_attempts (id : ExecutionId) : (m.ambiguous id).toAttemptLedger = m.lost id := by
  rw [ambiguous]
  split
  · rfl
  · split
    · exact (refreshed_refreshRelationsForSlot _ _).attempts
    · rfl

lemma loseAttempt_attempts (node : NodeId) (reason : String)
    (id : ExecutionId) : (m.loseAttempt node reason id).1.toAttemptLedger = m.lost id := by
  rw [loseAttempt]
  cases m.executions.get? id with
  | none => rfl
  | some => exact (refreshed_refreshRelationsForSlot _ _).attempts

lemma loseAttempts_attempts (node : NodeId) (reason : String)
    (ids : List ExecutionId) (hopen : ∀ id ∈ ids, m.isTerminal id = false) :
    ReflTransGen AttemptMove m.toAttemptLedger
      (m.loseAttempts node reason ids).1.toAttemptLedger := by
  induction ids generalizing m with
  | nil => exact .refl
  | cons id ids ih =>
    have hfirst := loseAttempt_attempts m node reason id
    refine .head (b := m.lost id) (.lost id (hopen id List.mem_cons_self)) ?_
    rw [← hfirst]
    refine ih _ fun id' hid' => ?_
    rw [hfirst]
    have h := hopen id' (List.mem_cons_of_mem _ hid')
    rw [isTerminal, statusOf] at h ⊢
    show Option.any _ ((m.executionStatus.insert id .unknown).get? id') = false
    rw [get?_insert]
    split
    · rfl
    · exact h

end

lemma open_of_mem_openAttemptsOf (h : id ∈ m.openAttemptsOf node) : m.isTerminal id = false := by
  rw [openAttemptsOf] at h
  obtain ⟨⟨id', _⟩, hmem, rfl⟩ := List.mem_map.mp h
  have hopen := (List.mem_filter.mp hmem).2
  simp only [Bool.and_eq_true] at hopen
  rw [isTerminal]
  cases hstatus : m.statusOf id' with
  | none => rfl
  | some =>
    rw [hstatus] at hopen
    simpa using (Bool.and_eq_true_iff.mp hopen.2).1

lemma factState_moves (h : m.validateFact id node sequence status = .ok true) :
    ReflTransGen AttemptMove m.toAttemptLedger
      (m.factState id node sequence status reason).toAttemptLedger := by
  have hfact := acceptedFact_of_valid h
  rcases factState_attempts m id node sequence status reason with ha | ⟨context, _, _, _, ha⟩
  · rw [ha]
    exact .single (.fact id node sequence status hfact)
  · rw [ha]
    exact .tail (.single (.fact id node sequence status hfact)) (.activated id context.command)

lemma timedFactState_moves (receivedAt : TimestampMs)
    (h : m.validateFact id node sequence status = .ok true) (hterminal : status.isTerminal = true)
    (hknown : m.executions.contains id = true) : ReflTransGen AttemptMove m.toAttemptLedger
      ((m.factState id node sequence status reason).timed id receivedAt) := by
  have hfact := acceptedFact_of_valid h
  have hmove := AttemptMove.timedFact id node sequence status receivedAt hfact hterminal hknown
  rcases factState_attempts m id node sequence status reason with ha | ⟨context, _, _, _, ha⟩
  · rw [ha]
    exact .single hmove
  · rw [ha]
    exact .tail (.single hmove) (.activated id context.command)

lemma RequestedRound.known {group : ExecutionGroupId}
    {intent : GroupRecoveryStopIntent} (h : RequestedRound m group now intent)
    (hid : id ∈ intent.memberIds) : m.executions.contains id = true := by
  obtain ⟨_, hmembers⟩ := h.members
  obtain ⟨member, hmem, rfl⟩ := List.mem_map.mp hid
  obtain ⟨context, _, hchecked, -⟩ := hmembers member hmem
  exact contains_eq_true_iff.mpr ⟨context, hchecked.known⟩

lemma known_of_validateRecoveryStop
    {timeout limit : Nat} {intent : RecoveryStopIntent} {budget : RecoveryBudget}
    (h : m.validateRecoveryStop id node now timeout limit = .ok (some (intent, budget))) :
    intent.executionId = id ∧ m.executions.contains id = true := by
  rw [validateRecoveryStop] at h
  simp only [bind_eq_ok, okOr_eq_ok, refuse_eq_ok] at h
  obtain ⟨context, hknown, _, _, _, _, _, _, _, _, h⟩ := h
  refine ⟨?_, contains_eq_true_iff.mpr ⟨context, hknown⟩⟩
  split at h
  · simp at h
  · simp only [bind_eq_ok, okOr_eq_ok, refuse_eq_ok, pure_eq_ok, Option.some.injEq,
      Prod.mk.injEq] at h
    obtain ⟨_, _, _, _, _, _, rfl, -⟩ := h
    rfl

section

variable (m : RuntimeExecutionManager)

lemma addRelations_attempts (relations : List RuntimeExecutionRelation) :
    (m.addRelations relations).toAttemptLedger = m.toAttemptLedger := by
  refine foldl_view (·.toAttemptLedger) (fun m relation => ?_) relations m
  rw [addRelation]
  split <;> rfl

lemma markRecoveryRelease_attempts (command : ExecutionCommand) :
    (m.markRecoveryRelease command).toAttemptLedger = m.toAttemptLedger := by
  rw [markRecoveryRelease]
  split <;> rfl

lemma observeProgress_attempts (record : StateRecord) (sample : OperationProgressSample) :
    (m.observeProgress record sample).toAttemptLedger = m.toAttemptLedger := by
  rw [observeProgress]
  split
  · split <;> rfl
  · rfl

lemma confirm_attempts (id : ExecutionId) (t : TimestampMs) :
    (m.confirmRecoveryStop id t).toAttemptLedger = m.toAttemptLedger ∧
      (m.confirmGroupRecoveryStop id t).toAttemptLedger = m.toAttemptLedger ∧
      (m.confirmGroupContinuationAdmission id t).toAttemptLedger = m.toAttemptLedger := by
  refine ⟨?_, ?_, ?_⟩
  · rw [confirmRecoveryStop]
    split <;> rfl
  · rw [confirmGroupRecoveryStop]
    split <;> rfl
  · rw [confirmGroupContinuationAdmission]
    split <;> rfl

end

lemma Effect.attempts (h : Effect m call m') (hlive : call ≠ .restart) :
    ReflTransGen AttemptMove m.toAttemptLedger m'.toAttemptLedger := by
  cases h with
  | unchanged => exact .refl
  | registered => rw [addRelations_attempts]
  | allocated generation hnext => exact .single (.allocated _ generation hnext)
  | prepared h => exact .single (.prepared _ _ _ (routable_of_route h))
  | dispatched h => exact .tail (.single (.prepared _ _ _ (routable_of_route h))) (.delivered _)
  | redispatched | delivered | receipt => exact .single (.delivered _)
  | counted => exact .single (.counted _)
  | rejected intent hintent hopen | cancellationRejected context hcontext hopen =>
    rw [ambiguous_attempts]
    exact .single (.lost _ hopen)
  | cancelled hknown => exact .single (.cancelled _ (by simpa using hknown))
  | observed h | received h => exact factState_moves h
  | receivedTerminal h hterminal hknown => exact timedFactState_moves _ h hterminal hknown
  | nodeUnavailable =>
    exact loseAttempts_attempts m _ _ _ fun id hid => open_of_mem_openAttemptsOf hid
  | stopRequested intent budget h =>
    obtain ⟨hid, hknown⟩ := known_of_validateRecoveryStop h
    exact .single (.cancelled _ (by simpa [hid] using hknown))
  | stopConfirmed => rw [(confirm_attempts m _ _).1]
  | released => rw [markRecoveryRelease_attempts]
  | roundRequested intent h =>
    have hround := (requestedRound_of_valid h).1
    refine .single (.cancelled _ fun id hid => hround.known ?_)
    exact (List.mem_filter.mp hid).1
  | roundConfirmed => rw [(confirm_attempts m _ _).2.1]
  | admitted => rw [(confirm_attempts m _ _).2.2]
  | evidence =>
    rw [show (m.withEvidence _).toAttemptLedger = m.toAttemptLedger from
      (refreshed_refreshRelationsForSlot _ _).attempts]
  | progressed => rw [observeProgress_attempts]
  | restarted => exact absurd rfl hlive
  | contextAdded | continued | acknowledged | readinessRefused | readiness | deadlines
  | nodeFenced | channelFenced | channelClosed | groupClosed | progressFenced => exact .refl

end

/-! ### Restarts -/

structure RestoredFrom (c : RuntimeExecutionCheckpoint) (a : AttemptLedger) : Prop where
  terminalReceivedAt : a.terminalReceivedAt = c.terminalReceivedAt
  executions : a.executions = c.executions
  executionStatus : a.executionStatus = c.executionStatus.mapValues fun _ s => s.restored
  executionSequences : a.executionSequences = c.executionSequences
  executionNodes : a.executionNodes = c.executionNodes
  activeExecutions : a.activeExecutions = OrdMap.ofList c.activeExecutions
  restoredExecutions : a.restoredExecutions = OrdSet.ofList c.executions.keys
  activatedTasks : a.activatedTasks = activatedFrom c
  reactivationAttempts : a.reactivationAttempts = ∅
  attemptGenerations : a.attemptGenerations =
    fillGenerations a.activeExecutions.keys (OrdMap.ofList c.attemptGenerations)
  dispatchOutbox : a.dispatchOutbox =
    OrdMap.ofList (c.dispatchOutbox.map fun intent => (intent.executionId, intent))
  cancellationIntents : a.cancellationIntents = c.cancellationIntents

lemma rebuild_ok (h : rebuild c = .ok m) :
    c.validateTerminalTimes = .ok () ∧ c.validate = .ok () ∧
      ∃ relations contexts channels evidence active budgets, restoreRelationMaps c = .ok relations ∧
        restoreCoordinationMaps c = .ok (contexts, channels) ∧
        restoreSpatialEvidence c = .ok evidence ∧
        active = ofList c.activeExecutions ∧
        budgets = ofList (c.recoveryBudgets.map fun b => (b.slot, b)) ∧
        m = assemble c relations evidence contexts channels active budgets := by
  rw [rebuild] at h
  simp only [bind_eq_ok, pure_eq_ok] at h
  obtain ⟨_, htimes, _, hvalid, relations, hrelations, ⟨contexts, channels⟩, hmaps, evidence,
    hevidence, active, hactive, _, _, budgets, hbudgets, rfl⟩ := h
  refine ⟨htimes, hvalid, relations, contexts, channels, evidence, active, budgets, hrelations,
    hmaps, hevidence, ?_, ?_, rfl⟩
  · rw [(collect_eq_ok hactive).1]
    rfl
  · rw [(collect_eq_ok hbudgets).1, ofList, List.foldl_map]

lemma restore_ok (h : restore c = .ok m) :
    ∃ assembled, rebuild c = .ok assembled ∧ m = assembled.refreshAllRelationsAfterRestore ∧
      m.validateProgress = .ok () ∧ m.validateRecoveryStops = .ok () ∧
      m.validateGroupRecoveries = .ok () := by
  rw [restore] at h
  simp only [bind_eq_ok, pure_eq_ok] at h
  obtain ⟨assembled, hassembled, _, hprogress, _, hstops, _, hrounds, rfl⟩ := h
  exact ⟨assembled, hassembled, rfl, hprogress, hstops, hrounds⟩

lemma restore_ledger (h : restore c = .ok m) : RestoredFrom c m.toAttemptLedger := by
  obtain ⟨_, hassembled, rfl, -⟩ := restore_ok h
  obtain ⟨-, -, _, _, _, _, _, _, -, -, -, hactive, -, rfl⟩ := rebuild_ok hassembled
  rw [refreshAllRelationsAfterRestore, (refreshed_refreshKeys _ _).attempts]
  exact ⟨rfl, rfl, rfl, rfl, rfl, hactive, rfl, rfl, rfl, rfl, rfl, rfl⟩

/-! ### What persists -/

lemma get?_fillGenerations (active : List ExecutionSlot) (g : OrdMap ExecutionSlot Nat)
    (slot : ExecutionSlot) : (fillGenerations active g).get? slot =
      if g.contains slot = false ∧ slot ∈ active then some 1 else g.get? slot := by
  induction active generalizing g with
  | nil => simp [fillGenerations]
  | cons first active ih =>
    have hstep : fillGenerations (first :: active) g =
        fillGenerations active (if g.contains first then g else g.insert first 1) := rfl
    rw [hstep, ih]
    by_cases hfirst : g.contains first = true
    · rw [if_pos hfirst]
      by_cases he : slot = first
      · subst he
        simp [hfirst]
      · simp [he]
    · rw [if_neg hfirst]
      by_cases he : slot = first
      · subst he
        rw [contains_insert, get?_insert_self]
        simp [hfirst]
      · rw [contains_insert, get?_insert_of_ne he]
        simp [he]

/-- Contexts are immutable, terminal statuses final, cancellations are not taken back, and the
generation of a slot does not decrease. -/
structure Persists (a a' : AttemptLedger) : Prop where
  context : ∀ id context, a.executions.get? id = some context →
    a'.executions.get? id = some context
  terminal : ∀ id status, a.statusOf id = some status → status.isTerminal = true →
    a'.statusOf id = some status
  cancellation : ∀ id, a.cancellationIntents.contains id = true →
    a'.cancellationIntents.contains id = true
  generation : ∀ slot g, a.attemptGenerations.get? slot = some g →
    ∃ g', g ≤ g' ∧ a'.attemptGenerations.get? slot = some g'

namespace Persists

variable {a a'' : AttemptLedger}

lemma refl (a : AttemptLedger) : Persists a a :=
  ⟨fun _ _ h => h, fun _ _ h _ => h, fun _ h => h, fun _ g h => ⟨g, le_rfl, h⟩⟩

lemma trans (h : Persists a a') (h' : Persists a' a'') : Persists a a'' := by
  refine ⟨fun id c hc => h'.context id c (h.context id c hc),
    fun id s hs ht => h'.terminal id s (h.terminal id s hs ht) ht,
    fun id hc => h'.cancellation id (h.cancellation id hc), fun slot g hg => ?_⟩
  obtain ⟨g', hle, hg'⟩ := h.generation slot g hg
  obtain ⟨g'', hle', hg''⟩ := h'.generation slot g' hg'
  exact ⟨g'', hle.trans hle', hg''⟩

lemma of_open (hopen : a.isTerminal id = false) (hcontext : a'.executions = a.executions)
    (hstatus : ∃ status, a'.executionStatus = a.executionStatus.insert id status)
    (hcancel : a'.cancellationIntents = a.cancellationIntents)
    (hgeneration : a'.attemptGenerations = a.attemptGenerations) : Persists a a' := by
  obtain ⟨_, hstatus⟩ := hstatus
  refine ⟨fun id' c hc => by rw [hcontext, hc], fun id' s hs ht => ?_,
    fun id' hc => by rw [hcancel, hc], fun slot g hg => ⟨g, le_rfl, by rw [hgeneration, hg]⟩⟩
  have hne : id' ≠ id := by
    rintro rfl
    rw [isTerminal, hs, any_some, ht] at hopen
    cases hopen
  rw [statusOf, hstatus, get?_insert_of_ne hne]
  exact hs

end Persists

lemma AttemptMove.persists {a : AttemptLedger} (h : AttemptMove a a') : Persists a a' := by
  cases h with
  | prepared id command resources hroute =>
    refine ⟨fun id' c hc => ?_, fun id' s hs _ => ?_, fun _ hc => hc, fun _ g h => ⟨g, le_rfl, h⟩⟩
    · have hne : id' ≠ id := by
        rintro rfl
        rw [hroute.noContext] at hc
        cases hc
      show (a.executions.insert id _).get? id' = some c
      rw [get?_insert_of_ne hne, hc]
    · have hne : id' ≠ id := by
        rintro rfl
        rw [statusOf, hroute.noStatus] at hs
        cases hs
      show (a.executionStatus.insert id _).get? id' = some s
      rw [get?_insert_of_ne hne]
      exact hs
  | lost id hopen => exact .of_open hopen rfl ⟨_, rfl⟩ rfl rfl
  | fact id node sequence status haccepted
  | timedFact id node sequence status receivedAt haccepted =>
    exact .of_open haccepted.isOpen rfl ⟨_, rfl⟩ rfl rfl
  | cancelled ids =>
    refine ⟨fun _ _ hc => hc, fun _ _ hs _ => hs, fun id hc => ?_, fun _ g h => ⟨g, le_rfl, h⟩⟩
    exact (OrdSet.contains_foldl_insert id ids a.cancellationIntents).mpr (.inl hc)
  | allocated slot generation hnext =>
    refine ⟨fun _ _ hc => hc, fun _ _ hs _ => hs, fun _ hc => hc, fun slot' g hg => ?_⟩
    show ∃ g', g ≤ g' ∧ (a.attemptGenerations.insert slot generation).get? slot' = some g'
    rw [get?_insert]
    split
    · next he =>
      rw [← he, hg, getD_some] at hnext
      exact ⟨generation, hnext.le, rfl⟩
    · exact ⟨g, le_rfl, hg⟩
  | delivered | counted | activated =>
    exact ⟨fun _ _ hc => hc, fun _ _ hs _ => hs, fun _ hc => hc, fun _ g h => ⟨g, le_rfl, h⟩⟩

/-- What was certain before a restart is certain after it. -/
lemma RestoredFrom.persists (h : RestoredFrom m.checkpoint a') :
    Persists m.toAttemptLedger a' := by
  refine ⟨fun id c hc => by rw [h.executions]; exact hc, fun id s hs ht => ?_,
    fun id hc => by rw [h.cancellationIntents]; exact hc, fun slot g hg => ?_⟩
  · rw [statusOf, h.executionStatus, get?_mapValues]
    show (m.statusOf id).map _ = _
    rw [hs, map_some, ExecutionStatus.restored, if_pos ht]
  · refine ⟨g, le_rfl, ?_⟩
    have hread : ofList m.checkpoint.attemptGenerations = m.attemptGenerations := ofList_entries _
    rw [h.attemptGenerations, hread, get?_fillGenerations, if_neg, hg]
    simp [contains, hg]

lemma Effect.persists (h : Effect m call m') : Persists m.toAttemptLedger m'.toAttemptLedger := by
  by_cases hcall : call = .restart
  · subst hcall
    cases h with
    | unchanged => exact .refl _
    | restarted _ hrestore => exact (restore_ledger hrestore).persists
  · have hmoves := h.attempts hcall
    generalize m.toAttemptLedger = a, m'.toAttemptLedger = a' at hmoves
    induction hmoves with
    | refl => exact .refl a
    | tail _ hmove ih => exact ih.trans hmove.persists

lemma persists_of_run (hrun : Reaches step (fun _ _ => True) m m') :
    Persists m.toAttemptLedger m'.toAttemptLedger :=
  hrun.invariant (P := fun m' => Persists m.toAttemptLedger m'.toAttemptLedger) (.refl _)
    fun m₁ call h _ => h.trans (effect_step m₁ call).persists

/-- Nothing certain about an attempt is lost, restarts included. -/
theorem attempts_persist (calls : Nat → RuntimeCall) (i n : Nat) :
    Persists (stateAt calls i).toAttemptLedger (stateAt calls (i + n)).toAttemptLedger :=
  persists_of_run (reaches_stateAt calls (Nat.le_add_right i n))

end RoboGuide.Runtime
