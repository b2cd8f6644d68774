import RoboGuide.Runtime.Attempts

/-!
# `RoboGuide.Runtime.StopHistory`: authorised stops and the budgets they use

A stop is authorised once for a physical attempt and charged to the budget of the logical
slot, so a slot's budget has used as much as there are stops of its attempts. The stop keeps
its policy; later calls only confirm it, release it or abort it.
-/

namespace RoboGuide.Runtime

open Domain Lib Fallible AttemptLedger Option Bool
open RuntimeExecutionManager

variable {i : RecoveryStopIntent} {id : ExecutionId} {m : RuntimeExecutionManager}
  {b : RecoveryBudget}

def AttemptLedger.stopIn (a : AttemptLedger) (slot : ExecutionSlot) (i : RecoveryStopIntent) :
    Bool :=
  (a.executions.get? i.executionId).any fun context => commandSlot context.command == slot

structure SoundStop (a : AttemptLedger) (budgets : OrdMap ExecutionSlot RecoveryBudget)
    (id : ExecutionId) (i : RecoveryStopIntent) : Prop where
  same : i.executionId = id
  positive : i.timeoutMs ≠ 0
  inHour : i.timeoutMs ≤ 3600000
  deadline : checkedAdd i.requestedAtMs i.timeoutMs = some i.deadlineMs
  cancelling : a.cancellationIntents.contains id = true
  charged : ∃ context budget, a.executions.get? id = some context ∧
    budgets.get? (commandSlot context.command) = some budget ∧ budget.limit = i.maxReplacements
  confirmed : ∀ t, i.confirmedAtMs = some t →
    i.requestedAtMs ≤ t ∧ a.statusOf id = some .cancelled
  released : i.releaseAuthorized = true → ∃ t, i.confirmedAtMs = some t ∧ t < i.deadlineMs

structure SoundBudget (a : AttemptLedger) (stops : OrdMap ExecutionId RecoveryStopIntent)
    (slot : ExecutionSlot) (b : RecoveryBudget) : Prop where
  same : b.slot = slot
  atLeastOne : 1 ≤ b.limit
  atMost : b.limit ≤ 16
  positive : 0 < b.used
  within : b.used ≤ b.limit
  count : stops.values.countP (a.stopIn slot) = b.used

/-- Stops and the budgets they draw on agree. -/
structure SoundStops (a : AttemptLedger) (stops : OrdMap ExecutionId RecoveryStopIntent)
    (budgets : OrdMap ExecutionSlot RecoveryBudget) : Prop where
  stop : ∀ id i, stops.get? id = some i → SoundStop a budgets id i
  budget : ∀ slot b, budgets.get? slot = some b → SoundBudget a stops slot b

namespace SoundStops

variable {a a' : AttemptLedger} {stops : OrdMap ExecutionId RecoveryStopIntent}
  {budgets : OrdMap ExecutionSlot RecoveryBudget} (h : SoundStops a stops budgets)
include h

lemma stopIn_persists (hp : Persists a a') (hi : i ∈ stops.values) (slot : ExecutionSlot) :
    a'.stopIn slot i = a.stopIn slot i := by
  obtain ⟨id, hget⟩ := mem_values_iff.mp hi
  have hsound := h.stop id i hget
  obtain ⟨context, _, hc, -⟩ := hsound.charged
  rw [stopIn, stopIn, hsound.same, hc, hp.context id context hc]

lemma persists (hp : Persists a a') : SoundStops a' stops budgets := by
  refine ⟨fun id i hi => ?_, fun slot b hb => ?_⟩
  · have hs := h.stop id i hi
    obtain ⟨context, budget, hc, hbudget⟩ := hs.charged
    refine { hs with
      cancelling := hp.cancellation id hs.cancelling
      charged := ⟨context, budget, hp.context id context hc, hbudget⟩
      confirmed := fun t ht => ?_ }
    obtain ⟨hle, hcancelled⟩ := hs.confirmed t ht
    exact ⟨hle, hp.terminal id _ hcancelled rfl⟩
  · have hs := h.budget slot b hb
    refine { hs with count := ?_ }
    rw [← hs.count]
    exact List.countP_congr fun i hi => by rw [h.stopIn_persists hp hi]

lemma modify (id : ExecutionId)
    {f : RecoveryStopIntent → RecoveryStopIntent} (hsame : ∀ i, (f i).executionId = i.executionId)
    (hsound : ∀ i, stops.get? id = some i → SoundStop a budgets id (f i)) :
    SoundStops a (stops.modify id f) budgets := by
  refine ⟨fun id' i hi => ?_, fun slot b hb => ?_⟩
  · rw [get?_modify] at hi
    split at hi
    · next he =>
      subst he
      obtain ⟨old, hold, rfl⟩ := map_eq_some_iff.mp hi
      exact hsound old hold
    · exact h.stop id' i hi
  · refine { h.budget slot b hb with count := ?_ }
    rw [OrdMap.countP_values_modify, (h.budget slot b hb).count]
    intro i
    rw [stopIn, stopIn, hsame]

lemma abort (id : ExecutionId) :
    SoundStops a (stops.modify id fun i => { i with aborted := true }) budgets :=
  h.modify id (fun _ => rfl) fun i hi => { h.stop id i hi with }

lemma confirm (hcancelled : a.statusOf id = some .cancelled) (t : TimestampMs) :
    SoundStops a (stops.modify id fun i => if i.confirmedAtMs.isNone && decide (i.requestedAtMs ≤ t)
      then { i with confirmedAtMs := some t } else i) budgets := by
  refine h.modify id (fun i => ?_) fun i hi => ?_
  · split <;> rfl
  · have hs := h.stop id i hi
    split
    · next hnew =>
      simp only [and_eq_true, decide_eq_true_eq] at hnew
      refine { hs with confirmed := fun t' ht' => ?_, released := fun hr => ?_ }
      · cases ht'
        exact ⟨hnew.2, hcancelled⟩
      · -- a released stop had its confirmation
        obtain ⟨t', ht', -⟩ := hs.released hr
        rw [ht'] at hnew
        cases hnew.1
    · exact hs

lemma release
    (hready : ∀ i, stops.get? id = some i → ∃ t, i.confirmedAtMs = some t ∧ t < i.deadlineMs) :
    SoundStops a (stops.modify id fun i => { i with releaseAuthorized := true }) budgets :=
  h.modify id (fun _ => rfl) fun i hi => { h.stop id i hi with released := fun _ => hready i hi }

end SoundStops

/-! ### Authorising a stop -/

/-- What `request_recovery_stop` has checked and what it records. -/
structure RequestedStop (m : RuntimeExecutionManager) (context : ExecutionContext)
    (i : RecoveryStopIntent) (b : RecoveryBudget) : Prop where
  known : m.executions.get? i.executionId = some context
  fresh : m.recoveryStops.get? i.executionId = none
  positive : i.timeoutMs ≠ 0
  inHour : i.timeoutMs ≤ 3600000
  deadline : checkedAdd i.requestedAtMs i.timeoutMs = some i.deadlineMs
  atLeastOne : 1 ≤ i.maxReplacements
  atMost : i.maxReplacements ≤ 16
  unconfirmed : i.confirmedAtMs = none
  unreleased : i.releaseAuthorized = false
  /-- The budget of the slot before the charge. -/
  charge : ∃ before, (m.recoveryBudgets.get? (commandSlot context.command)).getD
      ⟨commandSlot context.command, i.maxReplacements, 0⟩ = before ∧
    before.limit = i.maxReplacements ∧ before.used < before.limit ∧
    b = { before with used := before.used + 1 }

lemma requestedStop_of_valid {node : NodeId} {now : TimestampMs} {timeout limit : Nat}
    (h : m.validateRecoveryStop id node now timeout limit = .ok (some (i, b))) :
    ∃ context, RequestedStop m context i b := by
  rw [validateRecoveryStop] at h
  simp only [bind_eq_ok, okOr_eq_ok, refuse_eq_ok] at h
  obtain ⟨context, hknown, _, _, _, _, _, _, _, _, h⟩ := h
  refine ⟨context, ?_⟩
  split at h
  · simp at h
  next hfresh =>
  simp only [bind_eq_ok, okOr_eq_ok, refuse_eq_ok, pure_eq_ok, some.injEq, Prod.mk.injEq,
    or_eq_false_iff, beq_eq_false_iff_ne, decide_eq_false_iff_not, not_lt, not_le,
    not_eq_false', and_eq_true, decide_eq_true_eq, bne_eq_false_iff_eq] at h
  obtain ⟨_, ⟨⟨⟨-, hpos⟩, hhour⟩, hone, hmost⟩, _, hdeadline, _, ⟨hlimit, hused⟩, rfl, rfl⟩ := h
  exact ⟨hknown, hfresh, hpos, hhour, hdeadline, hone, hmost, rfl, rfl, _, rfl, hlimit, hused, rfl⟩

lemma SoundStops.add {context : ExecutionContext}
    (h : SoundStops m.toAttemptLedger m.recoveryStops m.recoveryBudgets)
    (hr : RequestedStop m context i b) :
    SoundStops (m.addRecoveryStop i b).toAttemptLedger (m.addRecoveryStop i b).recoveryStops
      (m.addRecoveryStop i b).recoveryBudgets := by
  obtain ⟨before, hbefore, hlimit, hused, rfl⟩ := hr.charge
  set slot := commandSlot context.command with hslot
  -- what the budget of the slot was, and how many stops the slot had
  have hslotb : before.slot = slot ∧
      m.recoveryStops.values.countP (m.toAttemptLedger.stopIn slot) = before.used := by
    cases hget : m.recoveryBudgets.get? slot with
    | some old =>
      rw [hget, getD_some] at hbefore
      subst hbefore
      exact ⟨(h.budget slot old hget).same, (h.budget slot old hget).count⟩
    | none =>
      rw [hget, getD_none] at hbefore
      subst hbefore
      refine ⟨rfl, List.countP_eq_zero.mpr fun j hj => ?_⟩
      obtain ⟨id, hid⟩ := mem_values_iff.mp hj
      have hs := h.stop id j hid
      obtain ⟨context', budget, hc, hb, -⟩ := hs.charged
      rw [stopIn, hs.same, hc, any_some, beq_iff_eq]
      intro he
      rw [he, hget] at hb
      cases hb
  obtain ⟨hsame, hcount⟩ := hslotb
  have hperm := OrdMap.perm_values_insert i hr.fresh
  have hbudgets : ∀ slot', (m.recoveryBudgets.insert before.slot
      { before with used := before.used + 1 }).get? slot' =
      if slot' = slot then some { before with used := before.used + 1 }
      else m.recoveryBudgets.get? slot' := by
    intro slot'
    rw [hsame, get?_insert]
  refine ⟨fun id j hj => ?_, fun slot' b hb => ?_⟩
  · rcases insert_cases hj with ⟨he, rfl⟩ | ⟨-, hj⟩
    · refine
        { same := he.symm, positive := hr.positive, inHour := hr.inHour, deadline := hr.deadline
          cancelling := ?_
          charged := ⟨context, { before with used := before.used + 1 },
            by rw [he]; exact hr.known, (hbudgets slot).trans (if_pos rfl), hlimit⟩
          confirmed := fun t ht => by rw [hr.unconfirmed] at ht; cases ht
          released := fun hrel => by rw [hr.unreleased] at hrel; cases hrel }
      rw [he]
      exact (OrdSet.contains_foldl_insert _ _ _).mpr (.inr (List.mem_singleton_self _))
    · have hs := h.stop id j hj
      obtain ⟨context', budget, hc, hb, hl⟩ := hs.charged
      refine { hs with
        cancelling := (OrdSet.contains_foldl_insert _ _ _).mpr (.inl hs.cancelling)
        charged := ?_ }
      by_cases he : commandSlot context'.command = slot
      · refine ⟨context', { before with used := before.used + 1 }, hc,
          (hbudgets _).trans (if_pos he), ?_⟩
        rw [he] at hb
        rw [hb, getD_some] at hbefore
        rw [← hl, hbefore]
      · exact ⟨context', budget, hc, ((hbudgets _).trans (if_neg he)).trans hb, hl⟩
  · have hb : (m.recoveryBudgets.insert before.slot
      { before with used := before.used + 1 }).get? slot' = some b := hb
    rw [hbudgets] at hb
    have hstops : (m.recoveryStops.insert i.executionId i).values.countP
        (m.toAttemptLedger.stopIn slot') =
        m.recoveryStops.values.countP (m.toAttemptLedger.stopIn slot') +
          if slot' = slot then 1 else 0 := by
      have hin : m.toAttemptLedger.stopIn slot' i = (slot == slot') := by
        rw [stopIn, hr.known, any_some]
      rw [hperm.countP_eq, List.countP_cons, hin]
      by_cases he : slot' = slot
      · simp [he]
      · simp [he, Ne.symm he]
    split at hb
    · next he =>
      cases hb
      have h1 := hr.atLeastOne
      have h2 := hr.atMost
      refine ⟨hsame.trans he.symm, ?_, ?_, Nat.succ_pos _, hused, ?_⟩
      · show 1 ≤ before.limit
        omega
      · show before.limit ≤ 16
        omega
      · refine hstops.trans ?_
        rw [if_pos he, he, hcount]
    · next he =>
      refine { h.budget slot' b hb with count := ?_ }
      refine hstops.trans ?_
      rw [if_neg he, (h.budget slot' b hb).count]
      rfl

end RoboGuide.Runtime
