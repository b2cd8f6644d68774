import RoboGuide.Control.Tables

/-!
# `RoboGuide.Control.View`: one Task of one Group

What most invariants say about a Group they say Task by Task: the Task's bindings, the Roles
of it that wait for recovery and the Role metadata of the plan. `TaskView` is that part of a
Group, and `Effect.view_cases` says how one call changes it.
-/

namespace RoboGuide.Control

open Domain Lib Fallible Option GroupLifecycle ExecutionGroup

variable {v' : TaskView}
  {g g' : ExecutionGroup} {id : ExecutionGroupId} {task : TaskRef} {c : ControlPlane}
  {call : Call} {t : TaskExecution} {role : RoleId} {need : RoleRecoveryNeed}

/-! ### Views -/

/-- What a Group stores about one Task. -/
structure TaskView where
  group : GroupLifecycle
  execution : TaskExecution
  /-- Roles waiting for recovery. -/
  slots : RoleId → Option UnboundRole
  /-- Role metadata of the plan. -/
  roles : RoleId → Option RoleRequirement

def ExecutionGroup.slots (g : ExecutionGroup) (task : TaskRef) (role : RoleId) :
    Option UnboundRole :=
  g.taskUnboundRoles.get? (toLex (task, role))

def ExecutionGroup.view (g : ExecutionGroup) (task : TaskRef) : Option TaskView :=
  (g.taskExecution task).map fun t => ⟨g.lifecycle, t, g.slots task, g.roleRequirement task⟩

def ControlPlane.view (c : ControlPlane) (id : ExecutionGroupId) (task : TaskRef) :
    Option TaskView :=
  (c.group id).bind fun g => g.view task

variable {v : TaskView} {l next : GroupLifecycle}

lemma ExecutionGroup.view_eq_some : g.view task = some v ↔ ∃ t, g.taskExecution task = some t ∧
      v = ⟨g.lifecycle, t, g.slots task, g.roleRequirement task⟩ := by
  rw [view, map_eq_some_iff]
  exact exists_congr fun t => and_congr_right fun _ => eq_comm

lemma ControlPlane.view_eq_some :
    c.view id task = some v ↔ ∃ g, c.group id = some g ∧ g.view task = some v :=
  bind_eq_some_iff

lemma ControlPlane.view_of_group (hg : c.group id = some g) (task : TaskRef) :
    c.view id task = g.view task := by
  rw [ControlPlane.view, hg, bind_some]

def Call.releasesRole : Call → Option (ExecutionGroupId × TaskRef × RoleId)
  | .releaseTaskRoleBinding id task role => some (id, task, role)
  | .beginRoleRecovery need | .beginExecutionRecovery need =>
    some (need.groupId, need.taskRef, need.roleId)
  | _ => none

def Call.releasesGroup : Call → Option ExecutionGroupId
  | .releaseGroup id | .supersedeMissionGroup id _ _ _ => some id
  | _ => none

namespace TaskView

/-- Everything the Task holds is given back with its Group. -/
def cleared (v : TaskView) : TaskView :=
  { v with group := .released, execution := v.execution.withAssignments [], slots := fun _ => none }

def withGroup (v : TaskView) (l : GroupLifecycle) : TaskView := { v with group := l }

def withLifecycle (v : TaskView) (l : TaskExecutionLifecycle) : TaskView :=
  { v with execution := v.execution.withLifecycle l }

def withAssignments (v : TaskView) (assignments : List RoleAssignment) : TaskView :=
  { v with execution := v.execution.withAssignments assignments }

/-- The resources of a Context are given back; its bindings stay visible. -/
def withoutContext (v : TaskView) (context : CoordinationContextId)
    (resources : List ResourceId) : TaskView :=
  { v with execution := withoutContextResources context resources v.execution }

/-- The Role's binding is gone and the Role waits for recovery. -/
def withoutRole (v : TaskView) (role : RoleId) (a : RoleAssignment) : TaskView :=
  let index := v.execution.assignments.findIdx fun a => a.roleId == role
  { v with
    group := .blocked
    execution := v.execution.withAssignments (v.execution.assignments.eraseIdx index)
    slots := fun r => if r = role then some ⟨a.nodeId, index⟩ else v.slots r }

def withRole (v : TaskView) (r : CommittedRecoveryAssignment) (slot : UnboundRole) : TaskView :=
  { v with
    group := .adapted
    execution := v.execution.withAssignments
      (insertAssignment v.execution.assignments slot.assignmentIndex r.assignment)
    slots := fun role => if role = r.roleId then none else v.slots role }

end TaskView

/-! ### Changes of a view -/

/-- What a call does to the view of a Task. -/
inductive ViewChange (c : ControlPlane) (id : ExecutionGroupId) (task : TaskRef) :
    Call → TaskView → Prop where
  | planned {plan : MissionPlan} {first : PlannedTask} {v : TaskView} (new : c.group id = none)
      (view : (missionGroup id plan first).view task = some v) :
      ViewChange c id task (.createMissionGroup id plan) v
  | carried {source : ExecutionGroupId} {sourcePlan targetPlan : MissionPlan}
      {first : PlannedTask} {v : TaskView} {l : TaskExecutionLifecycle} (new : c.group id = none)
      (view : (missionGroup id targetPlan first).view task = some v)
      (lifecycle : l = v.execution.lifecycle ∨ l = .completed) :
      ViewChange c id task (.supersedeMissionGroup source id sourcePlan targetPlan)
        (v.withLifecycle l)
  | cleared {call : Call} {v : TaskView} (release : call.releasesGroup = some id)
      (before : c.view id task = some v) : ViewChange c id task call v.cleared
  | regrouped {call : Call} {v : TaskView} {l : GroupLifecycle}
      (before : c.view id task = some v) (unfinished : v.group.terminal = false)
      (live : l ≠ .released) : ViewChange c id task call (v.withGroup l)
  | moved {call : Call} {allowed : TaskExecutionLifecycle → Bool}
      {next : TaskExecutionLifecycle} {v : TaskView}
      (move : call.taskMove = some (id, task, allowed, next))
      (before : c.view id task = some v) (guard : allowed v.execution.lifecycle = true) :
      ViewChange c id task call (v.withLifecycle next)
  | activated {now : TimestampMs} {v : TaskView} (before : c.view id task = some v)
      (assigned : exactlyAssigned v.execution v.execution.assignments = true)
      (ready : v.execution.lifecycle = .ready) :
      ViewChange c id task (.activateTaskExecution id task now)
        ((v.withLifecycle .active).withGroup
          (if v.group = .bound ∨ v.group = .adapted then .active else v.group))
  | bound {e : Evidence} {plan : CommittedPlan} {g : ExecutionGroup} {v : TaskView}
      {actors : OrdMap ActorId ActorBinding} (own : plan.taskRef = task)
      (before : c.view id task = some v)
      (valid : validateBind c e id plan = .ok (g, v.execution, actors)) :
      ViewChange c id task (.bindTaskExecutionWithState e id plan)
        (v.withAssignments plan.assignments)
  | taskReleased {resources : List ResourceId} {g : ExecutionGroup} {v : TaskView}
      (before : c.view id task = some v)
      (valid : validateTaskRelease c id task resources = .ok (g, v.execution)) :
      ViewChange c id task (.releaseTaskBindings id task resources)
        (v.withAssignments (scopedAssignments v.execution .context))
  | contextReleased {context : CoordinationContextId} {g : ExecutionGroup} {v : TaskView}
      (before : c.view id task = some v) (valid : validateContextRelease c id context = .ok g) :
      ViewChange c id task (.releaseContextBindings id context)
        (v.withoutContext context (contextResources g context))
  | roleReleased {call : Call} {role : RoleId} {a : RoleAssignment} {v : TaskView}
      (release : call.releasesRole = some (id, task, role)) (before : c.view id task = some v)
      (unfinished : v.group.terminal = false)
      (found : v.execution.assignments.find? (fun a => a.roleId == role) = some a) :
      ViewChange c id task call (v.withoutRole role a)
  | rebound {e : Evidence} {r : CommittedRecoveryAssignment} {g : ExecutionGroup}
      {slot : UnboundRole} {v : TaskView} (own : r.groupId = id ∧ r.taskRef = task)
      (before : c.view id task = some v) (blocked : v.group = .blocked)
      (valid : validateRebind c e r = .ok (g, slot))
      (slotFound : v.slots r.roleId = some slot)
      (unbound : ∀ a ∈ v.execution.assignments, a.roleId ≠ r.roleId) :
      ViewChange c id task (.rebindRoleWithState e r) (v.withRole r slot)

lemma setTask_view (g : ExecutionGroup) (task task' : TaskRef) (t : TaskExecution) :
    (g.setTask task t).view task' =
      if task' = task then some ⟨g.lifecycle, t, g.slots task, g.roleRequirement task⟩
      else g.view task' := by
  unfold view
  rw [setTask_taskExecution]
  split
  · next h => rw [h]; rfl
  · rfl

lemma Stored.view (h : Stored g g') (task : TaskRef) : g'.view task = g.view task := by
  obtain ⟨v, rfl⟩ := h.eq
  rfl

lemma cleared_view (g : ExecutionGroup) (task : TaskRef) :
    g.cleared.view task = (g.view task).map TaskView.cleared := by
  unfold view
  rw [cleared_taskExecution, map_map, map_map]
  rfl

lemma view_other (hg : c.group id = some g)
    (hsame : g'.view task = (g.view task).map fun v => v.withGroup g'.lifecycle)
    (hlive : g'.lifecycle = g.lifecycle ∨
      g.lifecycle.terminal = false ∧ g'.lifecycle ≠ .released) (hv : g'.view task = some v') :
    c.view id task = some v' ∨ ViewChange c id task call v' := by
  rw [hsame] at hv
  obtain ⟨v, hview, rfl⟩ := map_eq_some_iff.mp hv
  have hbefore : c.view id task = some v := by rw [ControlPlane.view_of_group hg, hview]
  obtain ⟨t, -, rfl⟩ := view_eq_some.mp hview
  rcases hlive with heq | ⟨hopen, hlive⟩
  · refine .inl ?_
    rw [hbefore, heq]
    rfl
  · exact .inr (.regrouped hbefore hopen hlive)

lemma withLifecycle_view (g : ExecutionGroup) (l : GroupLifecycle) (task : TaskRef) :
    ({ g with lifecycle := l } : ExecutionGroup).view task =
      (g.view task).map fun v => v.withGroup l := by
  show Option.map _ (g.taskExecution task) = _
  rw [ExecutionGroup.view, Option.map_map]
  rfl

lemma view_regrouped
    (hg : c.group id = some g) (hopen : g.lifecycle.terminal = false) (hlive : l ≠ .released)
    (hv : ({ g with lifecycle := l } : ExecutionGroup).view task = some v') :
    c.view id task = some v' ∨ ViewChange c id task call v' :=
  view_other hg (withLifecycle_view g l task) (.inr ⟨hopen, hlive⟩) hv

lemma withoutTaskRole_view
    {a : RoleAssignment} (ht : g.taskExecution task = some t) (task' : TaskRef)
    (hblocked : g.lifecycle = .blocked) : (g.withoutTaskRole t task role a).view task' =
      (g.view task').map fun v => if task' = task then v.withoutRole role a else v := by
  unfold view
  by_cases h : task' = task
  · subst h
    have htask : (g.withoutTaskRole t task' role a).taskExecution task' = some (t.withAssignments
        (t.assignments.eraseIdx (t.assignments.findIdx fun a => a.roleId == role))) := by
      show (g.setTask task' _).taskExecution task' = _
      rw [setTask_taskExecution, if_pos rfl]
    rw [htask, ht]
    simp only [map_some, if_true, TaskView.withoutRole]
    congr 2
    · funext r
      show (g.taskUnboundRoles.insert (toLex (task', role)) _).get? (toLex (task', r)) = _
      rw [get?_insert]
      simp [slots]
  · have htask : (g.withoutTaskRole t task role a).taskExecution task' = g.taskExecution task' := by
      show (g.setTask task _).taskExecution task' = _
      rw [setTask_taskExecution, if_neg h]
    have hslots : (g.withoutTaskRole t task role a).slots task' = g.slots task' := by
      funext r
      show (g.taskUnboundRoles.insert (toLex (task, role)) _).get? (toLex (task', r)) = _
      rw [get?_insert_of_ne]
      · rfl
      · intro heq
        exact h (Prod.mk.inj (toLex_inj.mp heq)).1
    rw [htask, hslots]
    simp only [h, if_false, map_map]
    rfl

lemma withTaskRole_view {r : CommittedRecoveryAssignment} {slot : UnboundRole}
    (ht : g.taskExecution r.taskRef = some t) (task : TaskRef) :
    (g.withTaskRole t r slot).view task = (g.view task).map fun v =>
      if task = r.taskRef then v.withRole r slot else v.withGroup .adapted := by
  unfold view
  by_cases h : task = r.taskRef
  · subst h
    have htask : (g.withTaskRole t r slot).taskExecution r.taskRef = some (t.withAssignments
        (insertAssignment t.assignments slot.assignmentIndex r.assignment)) := by
      show (g.setTask r.taskRef _).taskExecution r.taskRef = _
      rw [setTask_taskExecution, if_pos rfl]
    have hslots : (g.withTaskRole t r slot).slots r.taskRef =
        fun role => if role = r.roleId then none else g.slots r.taskRef role := by
      funext role
      show (g.taskUnboundRoles.erase (toLex (r.taskRef, r.roleId))).get?
          (toLex (r.taskRef, role)) = _
      rw [get?_erase]
      simp [slots]
    rw [htask, ht, hslots]
    simp only [map_some, if_true]
    rfl
  · have htask : (g.withTaskRole t r slot).taskExecution task = g.taskExecution task := by
      show (g.setTask r.taskRef _).taskExecution task = _
      rw [setTask_taskExecution, if_neg h]
    have hslots : (g.withTaskRole t r slot).slots task = g.slots task := by
      funext role
      show (g.taskUnboundRoles.erase (toLex (r.taskRef, r.roleId))).get? (toLex (task, role)) = _
      rw [OrdMap.get?_erase_of_ne]
      · rfl
      · intro heq
        exact h (Prod.mk.inj (toLex_inj.mp heq)).1
    rw [htask, hslots]
    simp only [h, if_false, map_map]
    rfl

lemma carryCompleted_view {completed : List TaskId}
    (h : (carryCompleted completed g).view task = some v') :
    ∃ v l, g.view task = some v ∧ (l = v.execution.lifecycle ∨ l = .completed) ∧
      v' = v.withLifecycle l := by
  obtain ⟨t', ht', rfl⟩ := view_eq_some.mp h
  have hmap : (carryCompleted completed g).taskExecution task = (g.taskExecution task).map
      fun t => if completed.contains t.taskRef.taskId then t.withLifecycle .completed else t :=
    get?_mapValues _ _ _
  rw [hmap] at ht'
  obtain ⟨t, ht, rfl⟩ := map_eq_some_iff.mp ht'
  have hview : g.view task = some ⟨g.lifecycle, t, g.slots task, g.roleRequirement task⟩ := by
    rw [view, ht]
    rfl
  split
  · exact ⟨_, .completed, hview, .inr rfl, rfl⟩
  · exact ⟨_, t.lifecycle, hview, .inl rfl, rfl⟩

variable {allowed : GroupLifecycle → Bool}

lemma groupMove_live
    (h : call.groupMove = some (id, allowed, next)) : next ≠ .released ∧ next ≠ .superseded := by
  cases call with
  | blockGroup | failGroup =>
    cases h
    decide
  | _ => cases h

lemma groupMove_unfinished
    (h : call.groupMove = some (id, allowed, next)) (hl : allowed l = true) :
    l.terminal = false := by
  cases call with
  | blockGroup =>
    cases h
    exact working_open hl
  | failGroup =>
    cases h
    exact congrArg terminal (eq_of_beq hl)
  | _ => cases h

lemma ControlPlane.view_of_execution (hg : c.group id = some g)
    (ht : g.taskExecution task = some t) :
    c.view id task = some ⟨g.lifecycle, t, g.slots task, g.roleRequirement task⟩ := by
  rw [ControlPlane.view_of_group hg, ExecutionGroup.view, ht]
  rfl

lemma setTask_cases {task' : TaskRef} (hg : c.group id = some g)
    (hown : task' = task → ViewChange c id task call
      ⟨g.lifecycle, t, g.slots task, g.roleRequirement task⟩)
    (hv : (g.setTask task t).view task' = some v') :
    c.view id task' = some v' ∨ ViewChange c id task' call v' := by
  rw [setTask_view] at hv
  split at hv
  · next htask =>
    cases hv
    subst htask
    exact .inr (hown rfl)
  · exact .inl (by rw [ControlPlane.view_of_group hg]; exact hv)

lemma taskRoleReleased_view {c₁ : ControlPlane} {id₁ : ExecutionGroupId}
    {task₁ : TaskRef} (hg : c.group id = some g) (hopen : g.lifecycle.terminal = false)
    (hlive : c₁.group id = some { g with lifecycle := .blocked })
    (hcall : call.releasesRole = some (id₁, task₁, role))
    (h : GroupChange c₁ (.releaseTaskRoleBinding id₁ task₁ role) id g')
    {v' : TaskView} (hv : g'.view task = some v') : ViewChange c id task call v' := by
  cases h with
  | moved move | taskMoved move => cases move
  | taskRoleReleased group blocked execution found owned stored =>
    cases hlive.symm.trans group
    rw [stored.view, withoutTaskRole_view execution _ rfl, withLifecycle_view, map_map] at hv
    obtain ⟨v, hview, rfl⟩ := map_eq_some_iff.mp hv
    have hbefore : c.view id task = some v := by rw [ControlPlane.view_of_group hg, hview]
    obtain ⟨t, ht, rfl⟩ := view_eq_some.mp hview
    by_cases htask : task = task₁
    · subst htask
      cases ht.symm.trans execution
      simp only [Function.comp, if_true]
      have hchange := ViewChange.roleReleased hcall hbefore hopen found
      exact hchange
    · simp only [Function.comp, htask, if_false]
      exact .regrouped hbefore hopen (by decide)

lemma recovery_unfinished
    (h : validateRoleRecoveryRelease c need = .ok ()) (hg : c.group need.groupId = some g) :
    g.lifecycle.terminal = false := by
  obtain ⟨g₀, hg₀, hworking⟩ := validateRoleRecoveryRelease_working h
  cases hg.symm.trans hg₀
  exact working_open hworking

lemma ViewChange.executionRecovery (h : ViewChange c id task (.beginRoleRecovery need) v) :
    ViewChange c id task (.beginExecutionRecovery need) v := by
  cases h with
  | cleared release => cases release
  | regrouped before unfinished live => exact .regrouped before unfinished live
  | moved move => cases move
  | roleReleased release before unfinished found =>
    exact .roleReleased release before unfinished found

lemma withActive_view (g : ExecutionGroup) (task task' : TaskRef) (t : TaskExecution)
    (ht : g.taskExecution task = some t) :
    (g.withActive task t).view task' = (g.view task').map fun v =>
      (if task' = task then v.withLifecycle .active else v).withGroup
        (g.withActive task t).lifecycle := by
  have hview : (g.withActive task t).view task' =
      ((g.setTask task (t.withLifecycle .active)).view task').map fun v =>
        v.withGroup (g.withActive task t).lifecycle :=
    withLifecycle_view (g.setTask task (t.withLifecycle .active)) _ task'
  rw [hview, setTask_view]
  by_cases h : task' = task
  · subst h
    simp only [if_true, view, ht, map_some]
    rfl
  · simp only [h, if_false]

lemma GroupChange.view (h : GroupChange c call id g')
    (hv : g'.view task = some v') : c.view id task = some v' ∨ ViewChange c id task call v' := by
  induction h with
  | created new => exact .inr (.planned new hv)
  | carried revision =>
    obtain ⟨_, -, -, -, -, hnew, -⟩ := validateRevision_source revision
    obtain ⟨v, l, hview, hl, rfl⟩ := carryCompleted_view hv
    exact .inr (.carried hnew hview hl)
  | superseded revision group stored =>
    rw [Stored.view (.inl stored), cleared_view] at hv
    obtain ⟨v, hview, rfl⟩ := map_eq_some_iff.mp hv
    exact .inr (.cleared rfl (by rw [ControlPlane.view_of_group group]; exact hview))
  | moved move group guard =>
    exact view_regrouped group (groupMove_unfinished move guard) (groupMove_live move).1 hv
  | activated group guard =>
    have hopen : _ = false := guard.elim (congrArg terminal)
      (congrArg terminal)
    exact view_regrouped group hopen (l := .active) (by decide) hv
  | completed group guard =>
    have hopen : _ = false := guard.elim (congrArg terminal)
      (congrArg terminal)
    exact view_regrouped group hopen (l := .completed) (by decide) hv
  | taskMoved move group execution guard =>
    exact setTask_cases group (fun _ => .moved move
      (ControlPlane.view_of_execution group execution) guard) hv
  | @taskActivated c id task₁ now g t group execution assigned ready =>
    by_cases htask : task = task₁
    · subst htask
      rw [withActive_view g task task t execution, ExecutionGroup.view, execution] at hv
      simp only [map_some, if_true, some.injEq] at hv
      subst hv
      exact .inr (.activated (ControlPlane.view_of_execution group execution) assigned ready)
    · refine view_other group ?_ ?_ hv
      · rw [withActive_view g task₁ task t execution]
        simp only [htask, if_false]
      · show (if _ then _ else _) = _ ∨ _ ∧ (if _ then _ else _) ≠ _
        split
        · next hwork =>
          exact .inr ⟨hwork.elim (congrArg terminal)
            (congrArg terminal), nofun⟩
        · exact .inl rfl
  | bound evidence valid stored =>
    have hb := validateBind_ok valid
    rw [stored.view] at hv
    exact setTask_cases hb.group (fun _ => .bound rfl
      (ControlPlane.view_of_execution hb.group hb.execution) valid) hv
  | taskReleased valid stored =>
    have hr := validateTaskRelease_ok valid
    rw [stored.view] at hv
    exact setTask_cases hr.group (fun _ => .taskReleased
      (ControlPlane.view_of_execution hr.group hr.execution) valid) hv
  | contextReleased valid stored =>
    have hg := validateContextRelease_group valid
    rw [stored.view, ExecutionGroup.view, withoutContext_taskExecution, map_map] at hv
    obtain ⟨t, ht, rfl⟩ := map_eq_some_iff.mp hv
    exact .inr (.contextReleased (ControlPlane.view_of_execution hg ht) valid)
  | roleReleased group blocked found owned stored =>
    rw [stored.view] at hv
    exact .inl (by rw [ControlPlane.view_of_group group]; exact hv)
  | @taskRoleReleased c id task₁ role g g' t a group blocked execution found owned stored =>
    refine .inr (taskRoleReleased_view group (congrArg terminal blocked) ?_ rfl
      (.taskRoleReleased group blocked execution found owned stored) hv)
    rw [group, ← blocked]
  | recoveryBlocked valid group =>
    exact view_regrouped group (recovery_unfinished valid group) (l := .blocked) (by decide) hv
  | taskRecoveryReleased valid group task release =>
    exact .inr (taskRoleReleased_view group (recovery_unfinished valid group)
      (by rw [setGroup_group, if_pos rfl]) rfl release hv)
  | legacyRecoveryReleased valid group task release =>
    have hopen := recovery_unfinished valid group
    cases release with
    | moved move | taskMoved move => cases move
    | roleReleased group' blocked found owned stored =>
      rw [setGroup_group, if_pos rfl] at group'
      cases group'
      rw [stored.view] at hv
      exact view_regrouped group hopen (l := .blocked) (by decide) hv
  | executionRecovery begun ih => exact (ih hv).imp_right ViewChange.executionRecovery
  | rebound evidence valid stored =>
    obtain ⟨old, hr⟩ := validateRebind_ok valid
    have hopen : old.lifecycle.terminal = false := congrArg terminal hr.blocked
    rw [stored.view] at hv
    rcases reboundGroup_ok hr.rebound with ⟨t, ht, hunbound, rfl⟩ | ⟨-, -, rfl⟩
    · rw [withTaskRole_view ht] at hv
      obtain ⟨v, hview, rfl⟩ := map_eq_some_iff.mp hv
      have hbefore : _ = some v := (ControlPlane.view_of_group hr.group task).trans hview
      split
      · next htask =>
        subst htask
        obtain ⟨t', ht', rfl⟩ := view_eq_some.mp hview
        cases ht'.symm.trans ht
        have hslot := hr.slotFound
        rw [recoveryUnboundRole, ht, isSome_some, if_pos rfl] at hslot
        exact .inr (.rebound ⟨rfl, rfl⟩ hbefore hr.blocked valid hslot hunbound)
      · obtain ⟨t', -, rfl⟩ := view_eq_some.mp hview
        exact .inr (.regrouped hbefore hopen (by decide))
    · exact view_regrouped hr.group hopen (l := .adapted) (by decide) hv
  | released valid stored =>
    have hg := (validateGroupRelease_group valid).1
    rw [stored.view, cleared_view] at hv
    obtain ⟨v, hview, rfl⟩ := map_eq_some_iff.mp hv
    exact .inr (.cleared rfl (by rw [ControlPlane.view_of_group hg]; exact hview))

lemma Effect.view_cases {c' : ControlPlane} (h : Effect c call c')
    (hv : c'.view id task = some v') :
    c.view id task = some v' ∨ ViewChange c id task call v' := by
  obtain ⟨g', hg', hview⟩ := ControlPlane.view_eq_some.mp hv
  rcases h.group_cases id g' hg' with hsame | hchange
  · exact .inl (by rw [ControlPlane.view_of_group hsame, hview])
  · exact hchange.view hview

end RoboGuide.Control
