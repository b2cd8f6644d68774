import RoboGuide.Proofs.CalendarCommit

/-!
# `RoboGuide.Proofs.FailedCommit`: what a refused Commit leaves behind

The Commit paths check before they write, so a refused Commit never changes the plane. The policy
receipts are an exception among the events: `audit_committed_decision` appends them after the
first checks, and the checks that follow can still refuse. `failed_commit_clean_iff` says when
such a call leaves no event; a recovery Commit has no audit event and never leaves one.
-/

namespace RoboGuide.Control

open Domain Lib Fallible

/-- When the call fails, nothing has happened. -/
def FailsClean {α : Type} (x : ControlM α) (k : Kernel) : Prop :=
  ∀ err k', x k = .error err k' → k' = k

def Kernel.audited (k : Kernel) (audit : Bool) (event : EventPayload) : Kernel :=
  if audit then ⟨k.control, k.events ++ [event]⟩ else k

lemma Kernel.audited_control (k : Kernel) (audit : Bool) (event : EventPayload) :
    (k.audited audit event).control = k.control := by
  cases audit <;> rfl

/-- The statement fails cleanly, and succeeds exactly when `ready` holds. -/
structure Checks {α : Type} (x : ControlM α) (k : Kernel) (ready : Prop) : Prop where
  clean : FailsClean x k
  ready_iff : ready ↔ ∀ err k', x k ≠ .error err k'

section

variable {α β : Type} {k : Kernel} {x : Except ControlError α}

variable {f : α → ControlM β}

lemma Checks.last
    (h : ∀ a, ∃ b k', f a k = .ok b k') : Checks (check x >>= f) k (∃ a, x = .ok a) := by
  cases x with
  | error => constructor <;> simp [FailsClean]
  | ok a =>
    obtain ⟨b, k', hf⟩ := h a
    constructor <;> simp [FailsClean, hf]

lemma Checks.get_bind {f : Kernel → ControlM β} {ready : Prop} (h : Checks (f k) k ready) :
    Checks (get >>= f) k ready := ⟨h.clean, h.ready_iff⟩

lemma Checks.check_bind {Ready : α → Prop}
    (h : ∀ a, Checks (f a) k (Ready a)) : Checks (check x >>= f) k (∃ a, x = .ok a ∧ Ready a) := by
  cases x with
  | error => constructor <;> simp [FailsClean]
  | ok a =>
    refine ⟨(h a).clean, ?_⟩
    simpa using (h a).ready_iff

lemma failsClean_audited_iff {x : ControlM β} {support : Except ControlError α} {audit : Bool}
    {Ready : α → Prop} (event : EventPayload) (y : α → ControlM β)
    (hrefused : ∀ err, support = .error err → x k = .error err k)
    (hrun : ∀ a, support = .ok a → x k = y a (k.audited audit event))
    (hchecks : ∀ a, Checks (y a) (k.audited audit event) (Ready a)) :
    (∀ err k', x k = .error err k' → k'.control = k.control) ∧
      (FailsClean x k ↔ (audit = true → ∀ a, support = .ok a → Ready a)) := by
  cases support with
  | error err =>
    rw [FailsClean, hrefused err rfl]
    refine ⟨fun _ k' h => ?_, iff_of_true (fun _ k' h => ?_) nofun⟩
    all_goals
      cases h
      rfl
  | ok a =>
    rw [FailsClean, hrun a rfl]
    have hclean := (hchecks a).clean
    refine ⟨fun err k' h => ?_, fun hfails haudit b hb => ?_, fun hall err k' h => ?_⟩
    · rw [hclean err k' h, k.audited_control]
    · cases hb
      refine (hchecks a).ready_iff.mpr fun err k' h => ?_
      -- the event is there, so the call would not have failed cleanly
      have hsame := congrArg (·.events.length) ((hclean err k' h).symm.trans (hfails err k' h))
      simp [Kernel.audited, haudit] at hsame
    · cases audit with
      | true => exact absurd h ((hchecks a).ready_iff.mp (hall rfl a rfl) err k')
      | false => exact hclean err k' h

end

/-- The plane is unchanged when a Commit fails. The events are unchanged unless receipts are
recorded and only the later checks refuse. -/
theorem failed_commit_clean_iff (k : Kernel) (e : Evidence) :
    (∀ p, (∀ err k', commitWithState e p k = .error err k' → k'.control = k.control) ∧
      (FailsClean (commitWithState e p) k ↔ (e.hasReceipts p.taskRef = true →
        ∀ u, validateStandaloneSupport k.control e p = .ok u →
          ∃ charges, validateStandaloneCommit k.control p = .ok charges))) ∧
    (∀ group p, (∀ err k', commitForGroupWithState e group p k = .error err k' →
        k'.control = k.control) ∧
      (FailsClean (commitForGroupWithState e group p) k ↔ (e.hasReceipts p.taskRef = true →
        ∀ capacity, validateCommitSupport k.control e group p = .ok capacity →
          ∃ t, validateGroupCommit k.control e group p capacity = .ok t ∧
            ∃ charged, commitLedgers k.control p capacity = .ok charged))) ∧
    ∀ requirement p, FailsClean (commitRoleRecovery e requirement p) k := by
  refine ⟨fun p => ?_, fun group p => ?_, fun requirement p => ?_⟩
  · refine failsClean_audited_iff (.statePolicyDecision p.taskRef) (fun _ => commitValidated e p)
      (fun err h => ?_) (fun u h => ?_) fun u => ?_
    · rw [commitWithState, run_get_bind, run_check_bind, h]
    · rw [commitWithState, run_get_bind, run_check_bind, h]
      cases e.hasReceipts p.taskRef <;> rfl
    · rw [← k.audited_control (e.hasReceipts p.taskRef) (.statePolicyDecision p.taskRef)]
      exact .get_bind (.last fun charges => ⟨_, _, rfl⟩)
  · refine failsClean_audited_iff (.statePolicyDecision p.taskRef)
      (commitForGroupValidated e group p) (fun err h => ?_) (fun capacity h => ?_)
        fun capacity => ?_
    · rw [commitForGroupWithState, run_get_bind, run_check_bind, h]
    · rw [commitForGroupWithState, run_get_bind, run_check_bind, h]
      cases e.hasReceipts p.taskRef <;> rfl
    · rw [← k.audited_control (e.hasReceipts p.taskRef) (.statePolicyDecision p.taskRef)]
      exact .get_bind (.check_bind fun t => .last fun charged => ⟨_, _, rfl⟩)
  · exact Checks.clean (Checks.get_bind (Checks.check_bind fun role =>
      Checks.last fun charged => ⟨_, _, rfl⟩))

namespace SharedBay

/-- The installed policy produces receipts. -/
def audited : Evidence := { due with hasReceipts := fun _ => true }

def refusedEvents (r : EStateM.Result ControlError Kernel CommittedPlan) : Option Nat :=
  match r with
  | .ok .. => none
  | .error _ k => some k.events.length

end SharedBay

open SharedBay in
/-- A proposed Commit that conflicts with the calendar is refused after its receipts are
recorded. -/
theorem refused_commit_leaves_event : proposal early ∈ scheduled.proposals ∧
    ¬ FailsClean (commitForGroupWithState audited ReadySurvivor.group (proposal early))
      scheduled.kernel := by
  refine ⟨by decide +kernel, fun hclean => ?_⟩
  have hevents : refusedEvents (commitForGroupWithState audited ReadySurvivor.group
      (proposal early) scheduled.kernel) = some (scheduled.kernel.events.length + 1) := by
    decide +kernel
  cases hr : commitForGroupWithState audited ReadySurvivor.group (proposal early)
      scheduled.kernel with
  | ok plan k' =>
    rw [hr] at hevents
    cases hevents
  | error err k' =>
    rw [hr, hclean err k' hr] at hevents
    simp [refusedEvents] at hevents

end RoboGuide.Control
