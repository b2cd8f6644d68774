import RoboGuide.Runtime.Attempts

/-!
# `RoboGuide.Proofs.SettledAttempts`: a terminal attempt does not change any more

`Completed`, `Failed` and `Cancelled` are final. Six methods and `restore` write statuses;
none of them writes to an attempt that is terminal, because a routable identity has no
status, an accepted fact is about an open attempt, only open attempts become ambiguous, and
`restore` keeps terminal statuses. With the status, the receive time and the owner stay as
they are and the sequence does not go back (`terminal_attempt_settled`).
-/

namespace RoboGuide.Runtime

open Domain Lib AttemptLedger

/-- The attempt is in `a'` what it was in `a`: same status, receive time and owner, and no
earlier sequence. -/
structure SettledAs (id : ExecutionId) (a a' : AttemptLedger) : Prop where
  status : a'.statusOf id = a.statusOf id
  receivedAt : a'.terminalReceivedAt.get? id = a.terminalReceivedAt.get? id
  sequence : ∀ s, a.executionSequences.get? id = some s →
    ∃ s', a'.executionSequences.get? id = some s' ∧ s ≤ s'
  owner : a'.executionNodes.get? id = a.executionNodes.get? id

namespace SettledAs

variable {id : ExecutionId} {a a' a'' : AttemptLedger}

lemma refl (a : AttemptLedger) : SettledAs id a a :=
  ⟨rfl, rfl, fun s hs => ⟨s, hs, Nat.le_refl s⟩, rfl⟩

lemma trans (h : SettledAs id a a') (h' : SettledAs id a' a'') : SettledAs id a a'' := by
  refine ⟨h'.status.trans h.status, h'.receivedAt.trans h.receivedAt, fun s hs => ?_,
    h'.owner.trans h.owner⟩
  obtain ⟨s', hs', hle⟩ := h.sequence s hs
  obtain ⟨s'', hs'', hle'⟩ := h'.sequence s' hs'
  exact ⟨s'', hs'', hle.trans hle'⟩

lemma terminal (h : SettledAs id a a') (hterminal : a.isTerminal id = true) :
    a'.isTerminal id = true := by
  rw [isTerminal, h.status]
  exact hterminal

/-- Writing the records of another attempt leaves this one alone. -/
lemma of_ne {id' : ExecutionId} (hne : id ≠ id')
    (hstatus : ∃ s, a'.executionStatus = a.executionStatus.insert id' s)
    (htime : a'.terminalReceivedAt = a.terminalReceivedAt ∨
      ∃ t, a'.terminalReceivedAt = a.terminalReceivedAt.insert id' t)
    (hsequence : a'.executionSequences = a.executionSequences ∨
      ∃ n, a'.executionSequences = a.executionSequences.insert id' n)
    (howner : a'.executionNodes = a.executionNodes ∨
      ∃ n, a'.executionNodes = a.executionNodes.insert id' n) : SettledAs id a a' := by
  obtain ⟨s, hstatus⟩ := hstatus
  refine ⟨?_, ?_, fun s hs => ⟨s, ?_, Nat.le_refl s⟩, ?_⟩
  · rw [statusOf, hstatus, get?_insert_of_ne hne]
    rfl
  · rcases htime with h | ⟨t, h⟩
    · rw [h]
    · rw [h, get?_insert_of_ne hne]
  · rcases hsequence with h | ⟨n, h⟩
    · rw [h, hs]
    · rw [h, get?_insert_of_ne hne, hs]
  · rcases howner with h | ⟨n, h⟩
    · rw [h]
    · rw [h, get?_insert_of_ne hne]

end SettledAs

variable {id : ExecutionId} {a a' : AttemptLedger}

/-- The owner table after a fact. -/
lemma observed_nodes (a : AttemptLedger) (id' : ExecutionId) (node : NodeId) (sequence : Nat)
    (status : ExecutionStatus) :
    (a.observed id' node sequence status).executionNodes = a.executionNodes ∨
      ∃ n, (a.observed id' node sequence status).executionNodes =
        a.executionNodes.insert id' n := by
  show (if a.executionNodes.contains id' then a.executionNodes
    else a.executionNodes.insert id' node) = _ ∨ _
  by_cases h : a.executionNodes.contains id' = true
  · left
    rw [if_pos h]
  · right
    refine ⟨node, ?_⟩
    show (if a.executionNodes.contains id' then a.executionNodes
      else a.executionNodes.insert id' node) = _
    rw [if_neg h]

lemma AttemptMove.settled (h : AttemptMove a a')
    (hterminal : a.isTerminal id = true) : SettledAs id a a' := by
  -- an attempt that is open is another one
  have hother : ∀ id', a.isTerminal id' = false → id ≠ id' := by
    rintro id' hopen rfl
    rw [hterminal] at hopen
    cases hopen
  cases h with
  | prepared id' command resources hroute =>
    have hopen : a.isTerminal id' = false := by
      rw [isTerminal, statusOf, hroute.noStatus]
      rfl
    exact .of_ne (hother id' hopen) ⟨_, rfl⟩ (.inl rfl) (.inl rfl) (.inr ⟨_, rfl⟩)
  | lost id' hopen => exact .of_ne (hother id' hopen) ⟨_, rfl⟩ (.inl rfl) (.inl rfl) (.inl rfl)
  | fact id' node sequence status haccepted =>
    exact .of_ne (hother id' haccepted.isOpen) ⟨_, rfl⟩ (.inl rfl) (.inr ⟨_, rfl⟩)
      (observed_nodes a id' node sequence status)
  | timedFact id' node sequence status receivedAt haccepted =>
    exact .of_ne (hother id' haccepted.isOpen) ⟨_, rfl⟩ (.inr ⟨_, rfl⟩) (.inr ⟨_, rfl⟩)
      (observed_nodes a id' node sequence status)
  | delivered | counted | activated | cancelled | allocated =>
    exact ⟨rfl, rfl, fun s hs => ⟨s, hs, Nat.le_refl s⟩, rfl⟩

lemma settled_of_moves
    (h : Relation.ReflTransGen AttemptMove a a') (hterminal : a.isTerminal id = true) :
    SettledAs id a a' := by
  induction h with
  | refl => exact .refl a
  | tail _ hmove ih => exact ih.trans (hmove.settled (ih.terminal hterminal))

lemma settled_of_restore {m m' : RuntimeExecutionManager} (h : restore m.checkpoint = .ok m')
    (hterminal : m.isTerminal id = true) : SettledAs id m.toAttemptLedger m'.toAttemptLedger := by
  have hledger := restore_ledger h
  refine ⟨?_, ?_, fun s hs => ⟨s, ?_, Nat.le_refl s⟩, ?_⟩
  · have hstatus : m'.statusOf id = (m.statusOf id).map ExecutionStatus.restored := by
      rw [statusOf, hledger.executionStatus, get?_mapValues]
      rfl
    rw [hstatus]
    rw [isTerminal] at hterminal
    cases hs : m.statusOf id with
    | none => rfl
    | some =>
      rw [hs, Option.any_some] at hterminal
      simp [ExecutionStatus.restored, hterminal]
  · rw [hledger.terminalReceivedAt]
    rfl
  · rw [hledger.executionSequences]
    exact hs
  · rw [hledger.executionNodes]
    rfl

lemma settled_step (m : RuntimeExecutionManager) (call : RuntimeCall)
    (hterminal : m.isTerminal id = true) :
    SettledAs id m.toAttemptLedger (m.step call).toAttemptLedger := by
  have heffect := effect_step m call
  by_cases hcall : call = .restart
  · subst hcall
    generalize m.step .restart = m' at heffect
    cases heffect with
    | unchanged => exact .refl _
    | restarted _ hrestore => exact settled_of_restore hrestore hterminal
  · exact settled_of_moves (heffect.attempts hcall) hterminal

/-- From the moment an attempt is `Completed`, `Failed` or `Cancelled`, its status, receive
time and owner are the same in every state of the run, and its sequence never decreases,
whatever calls and restarts follow. -/
theorem terminal_attempt_settled {m m' : RuntimeExecutionManager}
    (hrun : Reaches RuntimeExecutionManager.step (fun _ _ => True) m m')
    (hterminal : m.isTerminal id = true) : SettledAs id m.toAttemptLedger m'.toAttemptLedger :=
  hrun.invariant (P := fun m' => SettledAs id m.toAttemptLedger m'.toAttemptLedger) (.refl _)
    fun m₁ call h _ => h.trans (settled_step m₁ call (h.terminal hterminal))

namespace Settled

open Sample

/-- A Node reports an attempt completed that was never dispatched here. -/
def reported : RuntimeExecutionManager :=
  RuntimeExecutionManager.new.step (.observeExecutionReceived "attempt" node 1 .completed "" 5)

/-- A later contradiction, the loss of the Node and a restart. -/
def later : List RuntimeCall :=
  [.observeExecutionReceived "attempt" node 2 .failed "late" 9, .observeNodeUnavailable node "",
    .restart]

end Settled

open Settled in
/-- An attempt reported before it was dispatched stays completed through a contradicting
fact, the loss of its Node and a restart. -/
theorem reported_attempt_settled : reported.isTerminal "attempt" = true ∧
      SettledAs "attempt" reported.toAttemptLedger
        (later.foldl RuntimeExecutionManager.step reported).toAttemptLedger :=
  have hterminal : reported.isTerminal "attempt" = true := by decide +kernel
  ⟨hterminal, terminal_attempt_settled (.of_list later .refl ⟨trivial, trivial, trivial, trivial⟩)
    hterminal⟩

end RoboGuide.Runtime
