import RoboGuide.Control.Backing

/-!
# `RoboGuide.Proofs.FinishedGroups`: a finished Group stays closed

`reserve_scheduled_task`, `commit_for_group_with_state`, `bind_task_execution_with_state` and
`activate_task_execution` look at the lifecycle of the Task, not at that of its Group. A
Ready Task in a finished Group therefore still takes resources, even after `release_group`.

Finished Groups stay closed in every run in which no Ready Task is left in a Group that
fails or is superseded, and no Task of a finished Group is made Ready
(`finished_groups_stay_closed`). Without that the Group takes resources again
(`released_group_commits_again`).
-/

namespace RoboGuide.Control

open Domain Lib Fallible Option GroupLifecycle

variable {g g' : ExecutionGroup} {c c' : ControlPlane} {id : ExecutionGroupId} {call : Call}
  {t : TaskExecution} {w : World} {id' : ExecutionGroupId} {w' : World}

/-! ### The property -/

/-- The call makes the Group own or start something. -/
def Call.Engages (id : ExecutionGroupId) : Call → Prop
  | .reserveScheduledTask _ _ group _ => group = id
  | .commitForGroupWithState _ group _ => group = id
  | .bindTaskExecutionWithState _ group _ => group = id
  | .activateTaskExecution group _ _ => group = id
  | _ => False

/-- Nothing in any table belongs to the Group. A claim belongs to whoever holds what it is
charged for. -/
structure OwnsNothing (c : ControlPlane) (id : ExecutionGroupId) (g : ExecutionGroup) : Prop where
  reservations : ∀ r held, c.reservations.get? r = some held → held.groupId ≠ some id
  allocations : ∀ a record, c.capacityLedger.allocations.get? a = some record →
    record.original.groupId ≠ id
  claims : ∀ k claim, c.quotaLedger.claims.get? k = some claim →
    (∀ a, claim.allocationId = some a → ∃ record,
      c.capacityLedger.allocations.get? a = some record ∧ record.original.groupId ≠ id) ∧
    (claim.allocationId = none → ∃ r held, claim.resourceId = some r ∧
      c.reservations.get? r = some held ∧ held.groupId ≠ some id)
  assignments : g.assignments = [] ∧ ∀ task t, g.taskExecution task = some t → t.assignments = []
  contexts : g.contextBindings = ∅

/-- A Group that was `g` when it finished: it is still there, it refuses its Tasks, and if it
was released it owns nothing. -/
def StaysClosed (w : World) (id : ExecutionGroupId) (g : ExecutionGroup) : Prop :=
  ∃ g', w.control.group id = some g' ∧ g'.lifecycle.terminal = true ∧
    (∀ call : Call, call.Possible w → call.Engages id → ¬ call.Succeeds w) ∧
    (g.lifecycle = .released → g'.lifecycle = .released ∧ OwnsNothing w.control id g')

/-- The call leaves no Ready Task in a finished Group. -/
def Call.LeavesNoReady (c : ControlPlane) : Call → Prop
  | .readyTaskExecution id _ => ∀ g ∈ c.group id, g.lifecycle.terminal = false
  | .failGroup id _ | .supersedeMissionGroup id _ _ _ =>
    ∀ g ∈ c.group id, ∀ t ∈ g.taskExecutions.values, t.lifecycle ≠ .ready
  | _ => True

instance (c : ControlPlane) (call : Call) : Decidable (call.LeavesNoReady c) := by
  unfold Call.LeavesNoReady
  split <;> infer_instance

/-! ### Finished Groups -/

/-- No Task is Ready. -/
def ExecutionGroup.Settled (g : ExecutionGroup) : Prop :=
  ∀ task t, g.taskExecution task = some t → t.lifecycle ≠ .ready

lemma ExecutionGroup.Settled.of_values
    (h : ∀ t ∈ g.taskExecutions.values, t.lifecycle ≠ .ready) : g.Settled :=
  fun task t ht => h t (mem_values_iff.mpr ⟨task, ht⟩)

/-- Nothing is assigned, and no Context binding is left. -/
structure ExecutionGroup.Bare (g : ExecutionGroup) : Prop where
  assignments : g.assignments = [] ∧ ∀ task t, g.taskExecution task = some t → t.assignments = []
  contexts : g.contextBindings = ∅

lemma cleared_bare (g : ExecutionGroup) : g.cleared.Bare where
  assignments := by
    refine ⟨rfl, fun task t ht => ?_⟩
    rw [cleared_taskExecution] at ht
    obtain ⟨t₀, -, rfl⟩ := map_eq_some_iff.mp ht
    rfl
  contexts := rfl

lemma ExecutionGroup.Settled.cleared (h : g.Settled) : g.cleared.Settled := by
  intro task t ht
  rw [cleared_taskExecution] at ht
  obtain ⟨t₀, ht₀, rfl⟩ := map_eq_some_iff.mp ht
  exact h task t₀ ht₀

lemma ExecutionGroup.Settled.setTask (h : g.Settled) {task : TaskRef}
    (ht : t.lifecycle ≠ .ready) : (g.setTask task t).Settled := by
  intro task' t' ht'
  rw [setTask_taskExecution] at ht'
  split at ht'
  · cases ht'
    exact ht
  · exact h task' t' ht'

lemma ExecutionGroup.Bare.setTask (h : g.Bare) {task : TaskRef} (ht : t.assignments = []) :
    (g.setTask task t).Bare where
  assignments := by
    refine ⟨h.assignments.1, fun task' t' ht' => ?_⟩
    rw [setTask_taskExecution] at ht'
    split at ht'
    · cases ht'
      exact ht
    · exact h.assignments.2 task' t' ht'
  contexts := h.contexts

/-- A finished Group is settled, and bare once it is released. -/
def ExecutionGroup.Closed (g : ExecutionGroup) : Prop :=
  g.lifecycle.terminal = true → g.Settled ∧ (g.lifecycle = .released → g.Bare)

lemma ExecutionGroup.Closed.of_open (h : g.lifecycle.terminal = false) : g.Closed :=
  fun hterm => absurd (h.symm.trans hterm) Bool.false_ne_true

lemma ExecutionGroup.Closed.stored (hg : g.Closed) (h : Stored g g') : g'.Closed := by
  obtain ⟨v, rfl⟩ := h.eq
  intro hterm
  obtain ⟨hsettled, hbare⟩ := hg hterm
  exact ⟨hsettled, fun hreleased => ⟨(hbare hreleased).assignments, (hbare hreleased).contexts⟩⟩

lemma ExecutionGroup.Settled.closed_cleared (h : g.Settled) : g.cleared.Closed :=
  fun _ => ⟨h.cleared, fun _ => cleared_bare g⟩

lemma ExecutionGroup.Closed.open_of_ready (h : g.Closed) {task : TaskRef}
    (ht : g.taskExecution task = some t) (hready : t.lifecycle = .ready) :
    g.lifecycle.terminal = false := by
  rw [← Bool.not_eq_true]
  exact fun hterm => (h hterm).1 task t ht hready

lemma ExecutionGroup.Closed.setTask (h : g.Closed) {task : TaskRef}
    (hready : t.lifecycle ≠ .ready)
    (hbare : g.Bare → t.assignments = []) : (g.setTask task t).Closed := by
  intro hterm
  obtain ⟨hsettled, hreleased⟩ := h hterm
  exact ⟨hsettled.setTask hready, fun hr => (hreleased hr).setTask (hbare (hreleased hr))⟩

lemma ExecutionGroup.Closed.withoutContext (h : g.Closed)
    (context : CoordinationContextId) : (g.withoutContext context).Closed := by
  intro hterm
  obtain ⟨hsettled, hreleased⟩ := h hterm
  refine ⟨fun task t ht => ?_, fun hr => ?_⟩
  · rw [withoutContext_taskExecution] at ht
    obtain ⟨t₀, ht₀, rfl⟩ := map_eq_some_iff.mp ht
    unfold withoutContextResources
    split <;> exact hsettled task t₀ ht₀
  · have hbare := hreleased hr
    refine ⟨⟨hbare.assignments.1, fun task t ht => ?_⟩, ?_⟩
    · rw [withoutContext_taskExecution] at ht
      obtain ⟨t₀, ht₀, rfl⟩ := map_eq_some_iff.mp ht
      have hnone := hbare.assignments.2 task t₀ ht₀
      unfold withoutContextResources
      split
      · simp [TaskExecution.withAssignments, hnone]
      · exact hnone
    · show g.contextBindings.retain (fun _ b => b.contextId != context) = ∅
      rw [hbare.contexts]
      rfl

lemma GroupChange.taskRoleReleased_blocked {task : TaskRef} {role : RoleId}
    (h : GroupChange c (.releaseTaskRoleBinding id task role) id' g) : g.lifecycle = .blocked := by
  cases h with
  | moved move | taskMoved move => cases move
  | taskRoleReleased group blocked execution found owned stored =>
    obtain ⟨v, rfl⟩ := stored.eq
    exact blocked

lemma GroupChange.roleReleased_blocked {role : RoleId}
    (h : GroupChange c (.releaseRoleBinding id role) id' g) : g.lifecycle = .blocked := by
  cases h with
  | moved move | taskMoved move => cases move
  | roleReleased group blocked found owned stored =>
    obtain ⟨v, rfl⟩ := stored.eq
    exact blocked

lemma GroupChange.recovery_blocked {need : RoleRecoveryNeed}
    (h : GroupChange c (.beginRoleRecovery need) id g) : g.lifecycle = .blocked := by
  cases h with
  | moved move | taskMoved move => cases move
  | recoveryBlocked => rfl
  | taskRecoveryReleased valid group task release => exact release.taskRoleReleased_blocked
  | legacyRecoveryReleased valid group task release => exact release.roleReleased_blocked

lemma taskMove_notReady
    {task : TaskRef} {allowed : TaskExecutionLifecycle → Bool} {next : TaskExecutionLifecycle}
    (hmove : call.taskMove = some (id, task, allowed, next))
    (hg : c.group id = some g) (hcond : call.LeavesNoReady c) :
    next ≠ .ready ∨ g.lifecycle.terminal = false := by
  cases call with
  | readyTaskExecution =>
    simp only [Call.taskMove, some.injEq, Prod.mk.injEq] at hmove
    obtain ⟨rfl, -, -, -⟩ := hmove
    exact .inr (hcond g hg)
  | recordTaskExecutionCompleted | satisfyTaskExecution | failTaskExecution
  | rejectTaskSatisfaction =>
    simp only [Call.taskMove, some.injEq, Prod.mk.injEq] at hmove
    obtain ⟨-, -, -, rfl⟩ := hmove
    exact .inl (by decide)
  | _ => cases hmove

lemma GroupChange.closed (h : GroupChange c call id g')
    (hc : ∀ id g, c.group id = some g → g.Closed) (hcond : call.LeavesNoReady c) : g'.Closed := by
  induction h with
  | created | carried | activated | recoveryBlocked => exact .of_open rfl
  | @superseded c source target _ _ completed g _ revision group stored =>
    have hsettled : { g with supersededBy := some target }.Settled := .of_values (hcond g group)
    exact hsettled.closed_cleared.stored (.inl stored)
  | @moved c call id allowed next g move group =>
    cases call with
    | blockGroup =>
      cases move
      exact .of_open rfl
    | failGroup =>
      cases move
      have hsettled : g.Settled := .of_values (hcond g group)
      exact fun _ => ⟨hsettled, nofun⟩
    | _ => cases move
  | @completed c id g group guard bound completed =>
    refine fun _ => ⟨fun task t ht => ?_, nofun⟩
    rw [completed t (mem_values_iff.mpr ⟨task, ht⟩)]
    decide
  | @taskMoved c call id task allowed next g t move group execution =>
    rcases taskMove_notReady move group hcond with hnext | hopen
    · exact (hc _ _ group).setTask hnext fun hbare => hbare.assignments.2 _ t execution
    · exact .of_open hopen
  | taskActivated group execution assigned ready =>
    have hopen := (hc _ _ group).open_of_ready execution ready
    refine .of_open ?_
    show terminal (if _ then _ else _) = false
    split
    · rfl
    · exact hopen
  | bound evidence valid stored =>
    have hv := validateBind_ok valid
    obtain ⟨v, rfl⟩ := stored.eq
    exact .of_open ((hc _ _ hv.group).open_of_ready hv.execution hv.ready)
  | taskReleased valid stored =>
    have hv := validateTaskRelease_ok valid
    refine ExecutionGroup.Closed.stored ?_ stored
    refine (hc _ _ hv.group).setTask ?_ fun hbare => ?_
    · intro hready
      have hfinished : finishedTask .ready = true := hready ▸ hv.finished
      cases hfinished
    · show scopedAssignments _ _ = []
      simp [scopedAssignments, hbare.assignments.2 _ _ hv.execution]
  | contextReleased valid stored =>
    exact ((hc _ _ (validateContextRelease_group valid)).withoutContext _).stored stored
  | roleReleased group blocked found owned stored
  | taskRoleReleased group blocked execution found owned stored =>
    obtain ⟨v, rfl⟩ := stored.eq
    exact .of_open (congrArg terminal blocked)
  | taskRecoveryReleased valid group task release =>
    exact .of_open (congrArg terminal release.taskRoleReleased_blocked)
  | legacyRecoveryReleased valid group task release =>
    exact .of_open (congrArg terminal release.roleReleased_blocked)
  | executionRecovery begun => exact .of_open (congrArg terminal begun.recovery_blocked)
  | rebound evidence valid stored =>
    obtain ⟨_, hv⟩ := validateRebind_ok valid
    obtain ⟨v, rfl⟩ := stored.eq
    exact .of_open (congrArg terminal (reboundGroup_lifecycle hv.rebound))
  | released valid stored =>
    obtain ⟨hg, hl⟩ := validateGroupRelease_group valid
    refine ExecutionGroup.Closed.stored ?_ stored
    refine ((hc _ _ hg) ?_).1.closed_cleared
    rcases hl with h | h | h <;> rw [h] <;> rfl

/-- A finished Group stays finished, a released one released. -/
def FinishedKept (g g' : ExecutionGroup) : Prop :=
  g.lifecycle.terminal = true →
    g'.lifecycle.terminal = true ∧ (g.lifecycle = .released → g'.lifecycle = .released)

lemma FinishedKept.of_eq (h : g'.lifecycle = g.lifecycle) : FinishedKept g g' :=
  fun hterm => ⟨h ▸ hterm, fun hr => h.trans hr⟩

lemma FinishedKept.of_open (h : g.lifecycle.terminal = false) : FinishedKept g g' :=
  fun hterm => absurd (h.symm.trans hterm) Bool.false_ne_true

lemma GroupChange.finishedKept (h : GroupChange c call id g')
    (hg : c.group id = some g) : FinishedKept g g' := by
  induction h with
  | created new => cases new.symm.trans hg
  | carried revision =>
    obtain ⟨_, -, -, -, -, hnew, -⟩ := validateRevision_source revision
    cases hnew.symm.trans hg
  | superseded revision =>
    obtain ⟨g₀, hg₀, hblocked, -⟩ := validateRevision_source revision
    cases hg.symm.trans hg₀
    exact .of_open (congrArg terminal hblocked)
  | @moved c call id allowed next g₀ move group guard =>
    cases hg.symm.trans group
    cases call with
    | blockGroup =>
      cases move
      exact .of_open (working_open guard)
    | failGroup =>
      cases move
      exact .of_open (congrArg terminal (eq_of_beq guard))
    | _ => cases move
  | activated group guard | completed group guard =>
    cases hg.symm.trans group
    rcases guard with h | h <;> exact .of_open (congrArg terminal h)
  | taskMoved move group =>
    cases hg.symm.trans group
    exact .of_eq rfl
  | taskActivated group =>
    cases hg.symm.trans group
    by_cases hwork : g.lifecycle = .bound ∨ g.lifecycle = .adapted
    · rcases hwork with h | h <;> exact .of_open (congrArg terminal h)
    · exact .of_eq (if_neg hwork)
  | bound evidence valid stored =>
    cases hg.symm.trans (validateBind_ok valid).group
    obtain ⟨v, rfl⟩ := stored.eq
    exact .of_eq rfl
  | taskReleased valid stored =>
    cases hg.symm.trans (validateTaskRelease_ok valid).group
    obtain ⟨v, rfl⟩ := stored.eq
    exact .of_eq rfl
  | contextReleased valid stored =>
    cases hg.symm.trans (validateContextRelease_group valid)
    obtain ⟨v, rfl⟩ := stored.eq
    exact .of_eq rfl
  | roleReleased group blocked | taskRoleReleased group blocked =>
    cases hg.symm.trans group
    exact .of_open (congrArg terminal blocked)
  | recoveryBlocked valid | taskRecoveryReleased valid | legacyRecoveryReleased valid =>
    obtain ⟨g₀, hg₀, hworking⟩ := validateRoleRecoveryRelease_working valid
    cases hg.symm.trans hg₀
    exact .of_open (working_open hworking)
  | executionRecovery begun ih => exact ih hg
  | rebound evidence valid =>
    obtain ⟨_, hv⟩ := validateRebind_ok valid
    cases hg.symm.trans hv.group
    exact .of_open (congrArg terminal hv.blocked)
  | released valid stored =>
    obtain ⟨v, rfl⟩ := stored.eq
    exact fun _ => ⟨rfl, fun _ => rfl⟩

/-! ### Released Groups -/

lemma Effect.released_origin (h : Effect c call c') (hg' : c'.group id = some g')
    (hreleased : g'.lifecycle = .released) :
    (∃ g, c.group id = some g ∧ g.lifecycle = .released) ∨ HoldsNothing c' id := by
  rcases h.group_cases id g' hg' with hsame | hchange
  · exact .inl ⟨g', hsame, hreleased⟩
  cases hchange with
  | created | carried | activated | completed | recoveryBlocked => cases hreleased
  | superseded =>
    cases h with
    | unchanged => exact .inl ⟨g', hg', hreleased⟩
    | groupMoved move | taskMoved move => cases move
    | groupSuperseded _ _ _ release => exact .inr (holdsNothing_of_release release _)
  | moved move =>
    cases call with
    | blockGroup | failGroup =>
      cases move
      cases hreleased
    | _ => cases move
  | taskMoved move group => exact .inl ⟨_, group, hreleased⟩
  | @taskActivated _ _ task now g t group =>
    have hl : (if g.lifecycle = .bound ∨ g.lifecycle = .adapted then active
      else g.lifecycle) = .released := hreleased
    split at hl
    · cases hl
    · exact .inl ⟨g, group, hl⟩
  | bound evidence valid stored =>
    obtain ⟨v, rfl⟩ := stored.eq
    exact .inl ⟨_, (validateBind_ok valid).group, hreleased⟩
  | taskReleased valid stored =>
    obtain ⟨v, rfl⟩ := stored.eq
    exact .inl ⟨_, (validateTaskRelease_ok valid).group, hreleased⟩
  | contextReleased valid stored =>
    obtain ⟨v, rfl⟩ := stored.eq
    exact .inl ⟨_, validateContextRelease_group valid, hreleased⟩
  | roleReleased group blocked found owned stored
  | taskRoleReleased group blocked execution found owned stored =>
    obtain ⟨v, rfl⟩ := stored.eq
    exact .inl ⟨_, group, hreleased⟩
  | taskRecoveryReleased valid group task release =>
    cases release.taskRoleReleased_blocked.symm.trans hreleased
  | legacyRecoveryReleased valid group task release =>
    cases release.roleReleased_blocked.symm.trans hreleased
  | executionRecovery begun => cases begun.recovery_blocked.symm.trans hreleased
  | rebound evidence valid stored =>
    obtain ⟨_, hv⟩ := validateRebind_ok valid
    obtain ⟨v, rfl⟩ := stored.eq
    cases (reboundGroup_lifecycle hv.rebound).symm.trans hreleased
  | released valid =>
    cases h with
    | unchanged => exact .inl ⟨g', hg', hreleased⟩
    | groupMoved move | taskMoved move => cases move
    | groupReleased valid => exact .inr (holdsNothing_of_release valid _)

/-! ### The invariant -/

/-- Finished Groups are closed, and nothing names a released one. -/
structure FinishedInv (c : ControlPlane) : Prop where
  sound : LedgersSound c
  closed : ∀ id g, c.group id = some g → g.Closed
  reserved : ∀ r held id, c.reservations.get? r = some held → held.groupId = some id →
    ∃ g, c.group id = some g ∧ g.lifecycle ≠ .released
  allocated : ∀ a record, c.capacityLedger.allocations.get? a = some record →
    ∃ g, c.group record.original.groupId = some g ∧ g.lifecycle ≠ .released

lemma Effect.holder_kept (h : Effect c call c') (hg : c.group id = some g)
    (hlive : g.lifecycle ≠ .released) (hholds : ¬ HoldsNothing c' id) :
    ∃ g', c'.group id = some g' ∧ g'.lifecycle ≠ .released := by
  obtain ⟨g', hg'⟩ := h.group_kept id g hg
  refine ⟨g', hg', fun hreleased => ?_⟩
  rcases h.released_origin hg' hreleased with ⟨g₀, hg₀, hr₀⟩ | hnothing
  · cases hg.symm.trans hg₀
    exact hlive hr₀
  · exact hholds hnothing

lemma GroupLifecycle.not_released_of_open {l : GroupLifecycle} (h : l.terminal = false) :
    l ≠ .released := by
  rintro rfl
  cases h

lemma FinishedInv.step (hinv : FinishedInv c)
    (h : Effect c call c') (hcond : call.LeavesNoReady c) : FinishedInv c' where
  sound := h.ledgersSound hinv.sound
  closed id g' hg' := by
    rcases h.group_cases id g' hg' with hsame | hchange
    · exact hinv.closed id g' hsame
    · exact hchange.closed hinv.closed hcond
  reserved r held id hr hgroup := by
    have hholds : ¬ HoldsNothing c' id := fun hn => hn.reservations r held hr hgroup
    rcases h.reservation_cases r held hr with hold | hnew
    · obtain ⟨g, hg, hlive⟩ := hinv.reserved r held id hold hgroup
      exact h.holder_kept hg hlive hholds
    · cases hnew with
      | bound valid =>
        have hv := validateBind_ok valid
        cases hgroup
        have hopen := (hinv.closed _ _ hv.group).open_of_ready hv.execution hv.ready
        exact h.holder_kept hv.group (not_released_of_open hopen) hholds
      | committed =>
        -- a committed reservation is in no Group until Bind
        cases hgroup
      | recovered valid =>
        obtain ⟨g, slot, hv⟩ := validateRecoveryCommit_ok valid
        cases hgroup
        exact h.holder_kept hv.group (by rw [hv.blocked]; decide) hholds
  allocated a record ha := by
    have hholds : ¬ HoldsNothing c' record.original.groupId := fun hn =>
      hn.allocations a record ha rfl
    cases h.allocation_origin hinv.sound.keyed a record ha with
    | kept before same =>
      obtain ⟨g, hg, hlive⟩ := hinv.allocated a _ before
      rw [same] at hholds ⊢
      exact h.holder_kept hg hlive hholds
    | committed valid group =>
      obtain ⟨g, hv⟩ := validateGroupCommit_ok valid
      have hopen := (hinv.closed _ _ hv.group).open_of_ready hv.execution hv.ready
      rw [group] at hholds ⊢
      exact h.holder_kept hv.group (not_released_of_open hopen) hholds
    | recovered valid group =>
      obtain ⟨g, _, hv⟩ := validateRecoveryCommit_ok valid
      rw [group] at hholds ⊢
      exact h.holder_kept hv.group (by rw [hv.blocked]; decide) hholds

/-! ### Runs -/

lemma inWorld_eq_ok {α : Type} {x : ControlM α} {a : α}
    (h : inWorld x w = .ok a w') : ∃ k, x w.kernel = .ok a k := by
  unfold inWorld at h
  cases hx : x w.kernel with
  | ok a' k =>
    rw [hx] at h
    cases h
    exact ⟨k, rfl⟩
  | error =>
    rw [hx] at h
    cases h

lemma engages_ready (h : call.Engages id) (hok : call.Succeeds w) :
    ∃ g task t, w.control.group id = some g ∧ g.taskExecution task = some t ∧
      t.lifecycle = .ready := by
  obtain ⟨w', hok⟩ := hok
  cases call with
  | reserveScheduledTask e candidates group d =>
    obtain rfl : group = id := h
    obtain ⟨k, hk⟩ := inWorld_eq_ok hok
    rw [reserveScheduledTask, run_get_bind, run_check_bind_eq_ok] at hk
    obtain ⟨_, hv, -⟩ := hk
    simp only [validateReservation, lookupGroup, bind_eq_ok, okOr_eq_ok, refuse_eq_ok] at hv
    obtain ⟨_, -, _, -, _, -, _, -, _, -, g, hg, t, ht, _, hready, -⟩ := hv
    simp only [Bool.or_eq_false_iff, bne_eq_false_iff_eq] at hready
    exact ⟨g, d.taskRef, t, hg, ht, hready.2⟩
  | commitForGroupWithState e group p =>
    obtain rfl : group = id := h
    obtain ⟨plan, w₁, hplan, -⟩ := run_bind_eq_ok.mp hok
    obtain ⟨k, hk⟩ := inWorld_eq_ok hplan
    rw [commitForGroupWithState, run_get_bind, run_check_bind_eq_ok] at hk
    obtain ⟨capacity, -, hk⟩ := hk
    -- recording the receipts appends an event only
    obtain ⟨k₁, hk₁, hk⟩ : ∃ k₁, k₁.control = w.control ∧
        commitForGroupValidated e group p capacity k₁ = .ok plan k := by
      split at hk
      · rw [run_emit_bind] at hk
        exact ⟨_, by rfl, hk⟩
      · exact ⟨_, by rfl, hk⟩
    rw [commitForGroupValidated, run_get_bind, run_check_bind_eq_ok, hk₁] at hk
    obtain ⟨t, hv, -⟩ := hk
    obtain ⟨g, hv⟩ := validateGroupCommit_ok hv
    exact ⟨g, p.taskRef, t, hv.group, hv.execution, hv.ready⟩
  | bindTaskExecutionWithState e group plan =>
    obtain rfl : group = id := h
    obtain ⟨k, hk⟩ := inWorld_eq_ok hok
    rw [bindTaskExecutionWithState, run_get_bind, run_check_bind_eq_ok] at hk
    obtain ⟨_, -, hk⟩ := hk
    obtain ⟨_, k₁, hk, -⟩ := run_bind_eq_ok.mp hk
    rw [bindTaskExecutionValidated, run_get_bind, run_check_bind_eq_ok] at hk
    obtain ⟨⟨g, t, _⟩, hv, -⟩ := hk
    have hv := validateBind_ok hv
    exact ⟨g, plan.taskRef, t, hv.group, hv.execution, hv.ready⟩
  | activateTaskExecution group task =>
    obtain rfl : group = id := h
    obtain ⟨k, hk⟩ := inWorld_eq_ok hok
    rw [activateTaskExecution, run_get_bind, run_check_bind_eq_ok] at hk
    obtain ⟨_, -, hk⟩ := hk
    simp only [lookupGroup, lookupTask, run_check_bind_eq_ok, okOr_eq_ok, refuse_eq_ok,
      bne_eq_false_iff_eq] at hk
    obtain ⟨g, hg, t, ht, _, -, _, hready, -⟩ := hk
    exact ⟨g, task, t, hg, ht, hready⟩
  | _ => exact h.elim

lemma ControlPlane.Idle.finishedInv (h : c.Idle) : FinishedInv c where
  sound := h.ledgersSound
  closed id g hg := by
    rw [ControlPlane.group, h.groups] at hg
    cases hg
  reserved r held id hr := by
    rw [h.reservations] at hr
    cases hr
  allocated a record ha := by
    rw [h.allocations] at ha
    cases ha

lemma FinishedInv.ownsNothing (h : FinishedInv c) (hg : c.group id = some g)
    (hreleased : g.lifecycle = .released) :
    OwnsNothing c id g := by
  have hres : ∀ r held, c.reservations.get? r = some held → held.groupId ≠ some id := by
    intro r held hr hgroup
    obtain ⟨g₀, hg₀, hlive⟩ := h.reserved r held id hr hgroup
    exact hlive (some.inj (hg₀.symm.trans hg) ▸ hreleased)
  have halloc : ∀ a record, c.capacityLedger.allocations.get? a = some record →
      record.original.groupId ≠ id := by
    intro a record ha hgroup
    obtain ⟨g₀, hg₀, hlive⟩ := h.allocated a record ha
    rw [hgroup] at hg₀
    exact hlive (some.inj (hg₀.symm.trans hg) ▸ hreleased)
  have hbare := (h.closed id g hg (by rw [hreleased]; rfl)).2 hreleased
  refine ⟨hres, halloc, fun k claim hk => ?_, hbare.assignments, hbare.contexts⟩
  obtain ⟨hallocation, hresource⟩ := h.sound.backed k claim hk
  constructor
  · intro a ha
    obtain ⟨record, hrecord⟩ := contains_eq_true_iff.mp (hallocation a ha)
    exact ⟨record, hrecord, halloc a record hrecord⟩
  · intro hnone
    obtain ⟨r, hr, hreserved⟩ := hresource hnone
    obtain ⟨held, hheld⟩ := contains_eq_true_iff.mp hreserved
    exact ⟨r, held, hr, hheld, hres r held hheld⟩

lemma finishedInv_run (hrun : World.Run (fun w call => call.LeavesNoReady w.control) w w')
    (hinv : FinishedInv w.control) (hg : w.control.group id = some g) :
    FinishedInv w'.control ∧ ∃ g', w'.control.group id = some g' ∧ FinishedKept g g' := by
  refine hrun.invariant (P := fun w' => FinishedInv w'.control ∧
    ∃ g', w'.control.group id = some g' ∧ FinishedKept g g') ⟨hinv, g, hg, .of_eq rfl⟩ ?_
  rintro w₁ call ⟨hinv₁, g₁, hg₁, hkept⟩ ⟨-, hcond⟩
  have heffect := call.effect w₁
  refine ⟨hinv₁.step heffect hcond, ?_⟩
  obtain ⟨g₂, hg₂⟩ := heffect.group_kept id g₁ hg₁
  refine ⟨g₂, hg₂, ?_⟩
  rcases heffect.group_cases id g₂ hg₂ with hsame | hchange
  · cases hg₁.symm.trans hsame
    exact hkept
  · intro hterm
    obtain ⟨hterm₁, hreleased₁⟩ := hkept hterm
    obtain ⟨hterm₂, hreleased₂⟩ := hchange.finishedKept hg₁ hterm₁
    exact ⟨hterm₂, fun hr => hreleased₂ (hreleased₁ hr)⟩

/-- In every run whose calls leave no Ready Task behind, a finished Group stays closed. -/
theorem finished_groups_stay_closed {w₀ w w' : World} {id : ExecutionGroupId}
    {g : ExecutionGroup} (hidle : w₀.Idle)
    (hrun : World.Run (fun w call => call.LeavesNoReady w.control) w₀ w)
    (hg : w.control.group id = some g) (hterm : g.lifecycle.terminal = true)
    (hlater : World.Run (fun w call => call.LeavesNoReady w.control) w w') :
    StaysClosed w' id g := by
  have hinv : FinishedInv w.control :=
    hrun.invariant (P := fun w => FinishedInv w.control) hidle.control.finishedInv
      fun w call hinv hcond => hinv.step (call.effect w) hcond.2
  obtain ⟨hinv', g', hg', hkept⟩ := finishedInv_run hlater hinv hg
  obtain ⟨hterm', hreleased'⟩ := hkept hterm
  refine ⟨g', hg', hterm', fun call _ hengages hok => ?_, fun hreleased => ?_⟩
  · obtain ⟨g₁, task, t, hg₁, ht, hready⟩ := engages_ready hengages hok
    cases hg'.symm.trans hg₁
    exact (hinv'.closed id g' hg' hterm').1 task t ht hready
  · exact ⟨hreleased' hreleased, hinv'.ownsNothing hg' (hreleased' hreleased)⟩

namespace ReadySurvivor

/-- One Task with one Role that needs an exclusive bay. -/
def task : TaskRef := ⟨⟨"mission", .refl false⟩, ⟨"task", .refl false⟩⟩
def role : RoleId := ⟨"role", .refl false⟩
def bay : ResourceId := ⟨"bay", .refl false⟩
def node : NodeId := ⟨"node", .refl false⟩
def group : ExecutionGroupId := ⟨"group", .refl false⟩
def context : CoordinationContextId := ⟨"context", .refl false⟩

def roleRequirement : RoleRequirement :=
  ⟨role, none, [], [⟨.space, 1, .exclusive, none, Nat.one_pos⟩],
    List.nodup_singleton ResourceKind.space⟩

def requirement : TaskRequirement where
  taskRef := task
  roles := [roleRequirement]
  timing := ⟨0, none, none, none⟩
  roles_nonempty := by decide
  roles_distinct := by decide

def plan : MissionPlan where
  missionId := task.missionId
  objective := "finish"
  actors := []
  tasks := [⟨"finish", requirement, [], ⟨context, ∅, ∅, none⟩,
      .executionReport, by decide, by decide⟩]
  contexts := [⟨context, [], [], .independent⟩]
  valid := by decide

def evidence : Evidence :=
  .granting 0 [(node, [⟨bay, .space, 1, .exclusive, none, Nat.one_pos⟩])]

def candidates : CandidateSet := ⟨task, OrdMap.ofList [(role, [node])], ∅, ∅, [], ∅⟩

def proposal : AssignmentProposal :=
  ⟨task, [⟨role, node, [bay]⟩], ∅, OrdMap.ofList [(role, roleRequirement)], ∅⟩

def start : World := World.start [(task.missionId, "tenant")]

/-- The Group fails and is released while its Task is Ready. -/
def calls : List Call :=
  [.createMissionGroup group plan, .readyTaskExecution group task,
    .propose evidence requirement candidates [⟨role, node, [bay]⟩],
    .blockGroup group "lost", .failGroup group "lost", .releaseGroup group]

def released : World := calls.foldl World.step start

/-- The same Group fails and is released while its Task is active and holds the bay. -/
def quietCalls : List Call :=
  [.createMissionGroup group plan, .readyTaskExecution group task,
    .propose evidence requirement candidates [⟨role, node, [bay]⟩],
    .commitForGroupWithState evidence group proposal,
    .bindTaskExecutionWithState evidence group ⟨task, [⟨role, node, [bay]⟩], ∅, ∅, none⟩,
    .activateTaskExecution group task 0, .blockGroup group "lost", .failGroup group "lost",
    .releaseGroup group]

def quietlyReleased : World := quietCalls.foldl World.step start

end ReadySurvivor

/-- A Group that was released with a Task past Ready stays closed, whatever is tried. -/
theorem quietly_released_group_stays_closed :
    ∃ g, ReadySurvivor.quietlyReleased.control.group ReadySurvivor.group = some g ∧
      g.lifecycle = .released ∧
      StaysClosed (ReadySurvivor.quietlyReleased.step (.releaseGroup ReadySurvivor.group))
        ReadySurvivor.group g := by
  have hrun : World.Run (fun w call => call.LeavesNoReady w.control) ReadySurvivor.start
      ReadySurvivor.quietlyReleased :=
    Reaches.of_list ReadySurvivor.quietCalls .refl (by decide +kernel)
  have hsome : (ReadySurvivor.quietlyReleased.control.group ReadySurvivor.group).map
      (·.lifecycle) = some .released := by decide +kernel
  obtain ⟨g, hg, hreleased⟩ := map_eq_some_iff.mp hsome
  refine ⟨g, hg, hreleased, ?_⟩
  exact finished_groups_stay_closed (World.start_idle _) hrun hg (by rw [hreleased]; rfl)
    (.tail _ .refl ⟨trivial, trivial⟩)

/-- A Ready Task survives the release of its Group and is then committed in it. -/
theorem released_group_commits_again :
    ¬ ∀ (w₀ w w' : World) (id : ExecutionGroupId) (g : ExecutionGroup), w₀.Idle →
      World.Run (fun _ _ => True) w₀ w → w.control.group id = some g →
      g.lifecycle.terminal = true → World.Run (fun _ _ => True) w w' → StaysClosed w' id g := by
  intro h
  have hrun : World.Run (fun _ _ => True) ReadySurvivor.start ReadySurvivor.released :=
    Reaches.of_list ReadySurvivor.calls .refl (by decide +kernel)
  have hsome : (ReadySurvivor.released.control.group ReadySurvivor.group).map
      (·.lifecycle) = some .released := by decide +kernel
  obtain ⟨g, hg, hreleased⟩ := map_eq_some_iff.mp hsome
  obtain ⟨-, -, -, hrefuses, -⟩ :=
    h _ _ _ _ g (World.start_idle _) hrun hg (by rw [hreleased]; rfl) .refl
  refine hrefuses (.commitForGroupWithState ReadySurvivor.evidence ReadySurvivor.group
    ReadySurvivor.proposal) (by decide +kernel) rfl ?_
  rw [← Call.succeeds_iff]
  decide +kernel

end RoboGuide.Control
