import RoboGuide.Control.View

/-!
# `RoboGuide.Control.Planned`: what a Group keeps of its plan

A Group is created from an accepted plan, and no call changes what the plan says about it:
its Mission, its Tasks with their Roles and Contexts, and its capacity declarations. So in
every reachable state a Group has the shape of the Group of some plan (`Effect.planned`).
-/

namespace RoboGuide.Control

open Domain Lib Fallible ExecutionGroup List Option OrdMap

variable {task : TaskRef} {c c' : ControlPlane} {t : TaskExecution} {call : Call}
  {first p : PlannedTask} {g : ExecutionGroup} {id : ExecutionGroupId} {plan : MissionPlan}

/-! ### Shapes -/

def taskShape (t : TaskExecution) : TaskExecution := (t.withLifecycle .pending).withAssignments []

def ExecutionGroup.shape (g : ExecutionGroup) : ExecutionGroup :=
  { g with
    supersededBy := none
    membershipVersion := none
    assignments := []
    unboundRoles := ∅
    taskUnboundRoles := ∅
    lifecycle := .bound
    contextBindings := ∅
    taskExecutions := g.taskExecutions.mapValues fun _ => taskShape }

@[simp] lemma taskShape_withLifecycle (t : TaskExecution) (l : TaskExecutionLifecycle) :
    taskShape (t.withLifecycle l) = taskShape t := rfl

@[simp] lemma taskShape_withAssignments (t : TaskExecution) (as : List RoleAssignment) :
    taskShape (t.withAssignments as) = taskShape t := rfl

lemma shape_taskExecution (g : ExecutionGroup) (task : TaskRef) :
    g.shape.taskExecution task = (g.taskExecution task).map taskShape :=
  get?_mapValues _ _ _

lemma setTask_shape {t' : TaskExecution}
    (ht : g.taskExecution task = some t) (h : taskShape t' = taskShape t) :
    (g.setTask task t').shape = g.shape := by
  have htasks : (g.taskExecutions.insert task t').mapValues (fun _ => taskShape) =
      g.taskExecutions.mapValues fun _ => taskShape := by
    rw [mapValues_insert, h]
    refine insert_eq_self ?_
    rw [get?_mapValues]
    exact congrArg (Option.map taskShape) ht
  unfold shape
  simp only [setTask, htasks]

lemma mapTasks_shape (g : ExecutionGroup) {f : TaskRef → TaskExecution → TaskExecution}
    (h : ∀ task t, taskShape (f task t) = taskShape t) :
    ({ g with taskExecutions := g.taskExecutions.mapValues f } : ExecutionGroup).shape =
      g.shape := by
  unfold shape
  simp only [mapValues_mapValues, h]

lemma Stored.shape {g' : ExecutionGroup} (h : Stored g g') : g'.shape = g.shape := by
  obtain ⟨v, rfl⟩ := h.eq
  rfl

lemma cleared_shape (g : ExecutionGroup) : g.cleared.shape = g.shape :=
  mapTasks_shape g fun _ _ => rfl

lemma carryCompleted_shape (completed : List TaskId) (g : ExecutionGroup) :
    (carryCompleted completed g).shape = g.shape := by
  refine mapTasks_shape g fun task t => ?_
  split <;> rfl

lemma withoutContext_shape (g : ExecutionGroup) (context : CoordinationContextId) :
    (g.withoutContext context).shape = g.shape :=
  mapTasks_shape g fun _ t => by
    unfold withoutContextResources
    split <;> rfl

/-- The plan a call brings a Group of. -/
def Call.acceptsPlan : Call → Option MissionPlan
  | .createMissionGroup _ plan | .supersedeMissionGroup _ _ _ plan => some plan
  | _ => none

lemma GroupChange.shape {g' : ExecutionGroup} (h : GroupChange c call id g') :
    (∃ g, c.group id = some g ∧ g'.shape = g.shape) ∨
      c.group id = none ∧ ∃ plan first, call.acceptsPlan = some plan ∧
        plan.tasks.head? = some first ∧ g'.shape = (missionGroup id plan first).shape := by
  induction h with
  | created new head => exact .inr ⟨new, _, _, rfl, head, rfl⟩
  | carried revision head =>
    obtain ⟨_, -, -, -, -, hnew, -⟩ := validateRevision_source revision
    exact .inr ⟨hnew, _, _, rfl, head, carryCompleted_shape _ _⟩
  | superseded revision group stored =>
    refine .inl ⟨_, group, ?_⟩
    rw [Stored.shape (.inl stored), cleared_shape]
    rfl
  | moved move group | activated group | completed group => exact .inl ⟨_, group, rfl⟩
  | recoveryBlocked valid group => exact .inl ⟨_, group, rfl⟩
  | taskMoved move group execution => exact .inl ⟨_, group, setTask_shape execution rfl⟩
  | taskActivated group execution =>
    exact .inl ⟨_, group, setTask_shape execution (taskShape_withLifecycle _ _)⟩
  | bound evidence valid stored =>
    have hv := validateBind_ok valid
    refine .inl ⟨_, hv.group, ?_⟩
    rw [stored.shape]
    exact setTask_shape hv.execution (taskShape_withAssignments _ _)
  | taskReleased valid stored =>
    have hv := validateTaskRelease_ok valid
    refine .inl ⟨_, hv.group, ?_⟩
    rw [stored.shape]
    exact setTask_shape hv.execution (taskShape_withAssignments _ _)
  | contextReleased valid stored =>
    refine .inl ⟨_, validateContextRelease_group valid, ?_⟩
    rw [stored.shape, withoutContext_shape]
  | roleReleased group blocked found owned stored =>
    refine .inl ⟨_, group, ?_⟩
    rw [stored.shape]
    rfl
  | taskRoleReleased group blocked execution found owned stored =>
    refine .inl ⟨_, group, ?_⟩
    rw [stored.shape]
    exact setTask_shape execution (taskShape_withAssignments _ _)
  | taskRecoveryReleased valid group task release ih
  | legacyRecoveryReleased valid group task release ih =>
    rcases ih with ⟨g₁, hg₁, hshape⟩ | ⟨hnew, -⟩
    · rw [setGroup_group, if_pos rfl] at hg₁
      cases hg₁
      exact .inl ⟨_, group, hshape⟩
    · rw [setGroup_group, if_pos rfl] at hnew
      cases hnew
  | executionRecovery begun ih => exact ih
  | rebound evidence valid stored =>
    obtain ⟨_, hv⟩ := validateRebind_ok valid
    refine .inl ⟨_, hv.group, ?_⟩
    rw [stored.shape]
    rcases reboundGroup_ok hv.rebound with ⟨t, ht, -, rfl⟩ | ⟨-, -, rfl⟩
    · exact setTask_shape ht (taskShape_withAssignments _ _)
    · rfl
  | released valid stored =>
    refine .inl ⟨_, (validateGroupRelease_group valid).1, ?_⟩
    rw [stored.shape, cleared_shape]

/-! ### Planned Groups -/

def Planned (id : ExecutionGroupId) (g : ExecutionGroup) : Prop :=
  ∃ plan first, plan.tasks.head? = some first ∧ g.shape = (missionGroup id plan first).shape

def ControlPlane.GroupsPlanned (c : ControlPlane) : Prop :=
  ∀ id g, c.group id = some g → Planned id g

lemma Effect.planned (h : Effect c call c') (hc : c.GroupsPlanned) : c'.GroupsPlanned := by
  intro id g' hg'
  rcases h.group_cases id g' hg' with hsame | hchange
  · exact hc id g' hsame
  · rcases hchange.shape with ⟨g, hg, hshape⟩ | ⟨-, plan, first, -, hplan⟩
    · obtain ⟨plan, first, hhead, hplan⟩ := hc id g hg
      exact ⟨plan, first, hhead, hshape.trans hplan⟩
    · exact ⟨plan, first, hplan⟩

lemma ControlPlane.Idle.groupsPlanned (h : c.Idle) : c.GroupsPlanned := by
  intro id g hg
  rw [ControlPlane.group, h.groups] at hg
  cases hg

lemma Effect.shape_kept (h : Effect c call c') (hg : c.group id = some g) :
    ∃ g', c'.group id = some g' ∧ g'.shape = g.shape := by
  obtain ⟨g', hg'⟩ := h.group_kept id g hg
  refine ⟨g', hg', ?_⟩
  rcases h.group_cases id g' hg' with hsame | hchange
  · rw [some.inj (hsame.symm.trans hg)]
  · rcases hchange.shape with ⟨g₀, hg₀, hshape⟩ | ⟨hnew, -⟩
    · rw [hshape, some.inj (hg₀.symm.trans hg)]
    · cases hnew.symm.trans hg

lemma Effect.view_kept (h : Effect c call c') {v : TaskView} (hv : c.view id task = some v) :
    ∃ v', c'.view id task = some v' := by
  obtain ⟨g, hg, hview⟩ := ControlPlane.view_eq_some.mp hv
  obtain ⟨t, ht, -⟩ := view_eq_some.mp hview
  obtain ⟨g', hg', hshape⟩ := h.shape_kept hg
  have hmap : g'.shape.taskExecution task = some (taskShape t) := by
    rw [hshape, shape_taskExecution, ht, map_some]
  rw [shape_taskExecution] at hmap
  obtain ⟨t', ht', -⟩ := map_eq_some_iff.mp hmap
  exact ⟨_, ControlPlane.view_of_execution hg' ht'⟩

/-- A Group stays, and so does everything about it that its plan fixed. -/
theorem groups_keep_shape (calls : List Call) (w : World) (id : ExecutionGroupId) :
    let shape (w : World) := (w.control.group id).map ExecutionGroup.shape
    shape w = none ∨ shape (calls.foldl World.step w) = shape w := by
  intro shape
  refine foldl_settles shape (fun w call _ _ h => ?_) w
  obtain ⟨g, hg, rfl⟩ := map_eq_some_iff.mp h
  exact map_eq_some_iff.mpr ((call.effect w).shape_kept hg)

/-! ### What the plan's checks give -/

section

variable (plan : MissionPlan)

lemma MissionPlan.graph_valid : taskGraphValid plan.missionId plan.tasks = true := by
  have h := plan.valid
  simp only [missionPlanValid, Bool.and_eq_true] at h
  exact h.1.1.1.1.1

lemma MissionPlan.task_mission (hp : p ∈ plan.tasks) : p.taskRef.missionId = plan.missionId := by
  have h := MissionPlan.graph_valid plan
  simp only [taskGraphValid, Bool.and_eq_true, List.all_eq_true, beq_iff_eq] at h
  exact h.1.1.1.2 p hp

lemma MissionPlan.taskRefs_nodup : (plan.tasks.map PlannedTask.taskRef).Nodup := by
  have h := MissionPlan.graph_valid plan
  simp only [taskGraphValid, Bool.and_eq_true, decide_eq_true_eq] at h
  have hids : ((plan.tasks.map PlannedTask.taskRef).map TaskRef.taskId).Nodup := by
    rw [List.map_map]
    exact h.1.1.2
  exact List.Nodup.of_map _ hids

lemma MissionPlan.task_unique {q : PlannedTask} (hp : p ∈ plan.tasks) (hq : q ∈ plan.tasks)
    (h : p.taskRef = q.taskRef) : p = q := by
  have hnodup := MissionPlan.taskRefs_nodup plan
  rw [nodup_map_iff_inj_on (List.Nodup.of_map _ hnodup)] at hnodup
  exact hnodup p hp q hq h

variable (id : ExecutionGroupId) (first : PlannedTask)

lemma missionGroup_taskExecution (task : TaskRef) (t : TaskExecution) :
    (missionGroup id plan first).taskExecution task = some t ↔
      ∃ p ∈ plan.tasks, p.taskRef = task ∧ t = plannedExecution plan p := by
  have hkeys : ((plan.tasks.map fun p => (p.taskRef, plannedExecution plan p)).map
      (·.1)).Nodup := by
    rw [List.map_map]
    exact MissionPlan.taskRefs_nodup plan
  show (ofList _).get? task = some t ↔ _
  rw [get?_ofList hkeys, List.mem_map]
  constructor
  · rintro ⟨p, hp, heq⟩
    obtain ⟨htask, ht⟩ := Prod.mk.inj heq
    exact ⟨p, hp, htask, ht.symm⟩
  · rintro ⟨p, hp, htask, ht⟩
    exact ⟨p, hp, Prod.ext htask ht.symm⟩

def plannedRoles : List ((TaskRef ×ₗ RoleId) × RoleRequirement) :=
  plan.tasks.flatMap fun p => p.requirement.roles.map fun r => (toLex (p.taskRef, r.roleId), r)

lemma plannedRoles_nodup : ((plannedRoles plan).map (·.1)).Nodup := by
  have hmap : (plannedRoles plan).map (·.1) =
      plan.tasks.flatMap fun p => p.requirement.roles.map fun r => toLex (p.taskRef, r.roleId) := by
    simp [plannedRoles, map_flatMap, Function.comp_def]
  rw [hmap, nodup_flatMap]
  constructor
  · intro p hp
    have hroles := p.requirement.roles_distinct
    have hfst : (p.requirement.roles.map fun r => toLex (p.taskRef, r.roleId)) =
        (p.requirement.roles.map (·.roleId)).map fun r => toLex (p.taskRef, r) := by
      rw [List.map_map]
      rfl
    rw [hfst]
    exact hroles.map fun a b hab => (Prod.mk.inj (toLex_inj.mp hab)).2
  · refine (pairwise_map.mp (MissionPlan.taskRefs_nodup plan)).imp fun hne => ?_
    rw [Function.onFun, disjoint_left]
    intro key hkey hkey'
    obtain ⟨r, -, rfl⟩ := mem_map.mp hkey
    obtain ⟨r', -, heq⟩ := mem_map.mp hkey'
    exact hne (Prod.mk.inj (toLex_inj.mp heq)).1.symm

lemma missionGroup_roleRequirement (task : TaskRef) (role : RoleId) (r : RoleRequirement) :
    (missionGroup id plan first).roleRequirement task role = some r ↔
      ∃ p ∈ plan.tasks, p.taskRef = task ∧ r ∈ p.requirement.roles ∧ r.roleId = role := by
  show (ofList (plannedRoles plan)).get? (toLex (task, role)) = some r ↔ _
  rw [get?_ofList (plannedRoles_nodup plan), plannedRoles, List.mem_flatMap]
  refine exists_congr fun p => and_congr_right fun _ => ?_
  rw [List.mem_map]
  constructor
  · rintro ⟨r', hr', heq⟩
    obtain ⟨hkey, rfl⟩ := Prod.mk.inj heq
    obtain ⟨htask, hrole⟩ := Prod.mk.inj (toLex_inj.mp hkey)
    exact ⟨htask, hr', hrole⟩
  · rintro ⟨rfl, hr, rfl⟩
    exact ⟨r, hr, rfl⟩

end

/-! ### What a planned Group knows -/

lemma shape_roleRequirements
    (g : ExecutionGroup) : g.shape.roleRequirements = g.roleRequirements :=
  rfl

namespace Planned

variable {role : RoleId}

lemma groupId (h : Planned id g) : g.groupId = id := by
  obtain ⟨_, _, -, hshape⟩ := h
  exact congrArg ExecutionGroup.groupId hshape

lemma mission (h : Planned id g) : g.taskRef.missionId = g.missionId := by
  obtain ⟨plan, first, hhead, hshape⟩ := h
  have htask : g.taskRef = first.taskRef := congrArg taskRef hshape
  have hmission : g.missionId = plan.missionId := congrArg missionId hshape
  rw [htask, hmission]
  exact MissionPlan.task_mission plan (mem_of_mem_head? hhead)

section

variable (hshape : g.shape = (missionGroup id plan first).shape)
include hshape

lemma execution (ht : g.taskExecution task = some t) :
    ∃ p ∈ plan.tasks, p.taskRef = task ∧ taskShape t = taskShape (plannedExecution plan p) := by
  have hmap : (missionGroup id plan first).shape.taskExecution task = some (taskShape t) := by
    rw [← hshape, shape_taskExecution, ht, map_some]
  rw [shape_taskExecution] at hmap
  obtain ⟨t₀, ht₀, hshape₀⟩ := map_eq_some_iff.mp hmap
  obtain ⟨p, hp, htask, rfl⟩ := (missionGroup_taskExecution plan id first task t₀).mp ht₀
  exact ⟨p, hp, htask, hshape₀.symm⟩

lemma execution_exists (hp : p ∈ plan.tasks) : ∃ t, g.taskExecution p.taskRef = some t := by
  have hget := (missionGroup_taskExecution plan id first p.taskRef _).mpr ⟨p, hp, rfl, rfl⟩
  have hmap : g.shape.taskExecution p.taskRef = some (taskShape (plannedExecution plan p)) := by
    rw [hshape, shape_taskExecution, hget, map_some]
  rw [shape_taskExecution] at hmap
  obtain ⟨t, ht, -⟩ := map_eq_some_iff.mp hmap
  exact ⟨t, ht⟩

lemma roleRequirement (task : TaskRef) (role : RoleId) :
    g.roleRequirement task role = (missionGroup id plan first).roleRequirement task role := by
  have hroles : g.roleRequirements = (missionGroup id plan first).roleRequirements := by
    rw [← shape_roleRequirements, hshape, shape_roleRequirements]
  rw [ExecutionGroup.roleRequirement, hroles, ExecutionGroup.roleRequirement]

end

variable (h : Planned id g)
include h

lemma tasks_ne_empty : g.taskExecutions ≠ ∅ := by
  obtain ⟨_, _, hhead, hshape⟩ := h
  obtain ⟨t, ht⟩ := execution_exists hshape (mem_of_mem_head? hhead)
  intro hempty
  rw [taskExecution, hempty] at ht
  cases ht

lemma requirement {r : RoleRequirement} (hr : g.roleRequirement task role = some r) :
    r.roleId = role ∧ task.missionId = g.missionId ∧ ∃ t, g.taskExecution task = some t := by
  obtain ⟨plan, first, -, hshape⟩ := h
  have hmission : g.missionId = plan.missionId := congrArg missionId hshape
  rw [roleRequirement hshape] at hr
  obtain ⟨p, hp, rfl, -, hrole⟩ := (missionGroup_roleRequirement plan id first task role r).mp hr
  rw [hmission]
  exact ⟨hrole, MissionPlan.task_mission plan hp, execution_exists hshape hp⟩

variable (ht : g.taskExecution task = some t)
include ht

lemma task_ref : t.taskRef = task ∧ task.missionId = g.missionId := by
  obtain ⟨plan, _, -, hshape⟩ := h
  have hmission : g.missionId = plan.missionId := congrArg missionId hshape
  obtain ⟨p, hp, rfl, hp'⟩ := execution hshape ht
  rw [hmission]
  exact ⟨congrArg TaskExecution.taskRef hp', MissionPlan.task_mission plan hp⟩

lemma role_known (role : RoleId) :
    t.roleScopes.contains role = true ↔ ∃ r, g.roleRequirement task role = some r := by
  obtain ⟨plan, _, -, hshape⟩ := h
  obtain ⟨p, hp, rfl, hp'⟩ := execution hshape ht
  have hscopes : t.roleScopes = ofList (p.requirement.roles.map fun r =>
      (r.roleId, p.continuity.resourceScope r.roleId)) := congrArg TaskExecution.roleScopes hp'
  simp only [roleRequirement hshape, missionGroup_roleRequirement]
  rw [hscopes, contains_eq_true_iff]
  constructor
  · rintro ⟨_, hscope⟩
    obtain ⟨r, hr, heq⟩ := mem_map.mp (mem_of_get?_ofList hscope)
    exact ⟨r, p, hp, rfl, hr, congrArg Prod.fst heq⟩
  · rintro ⟨r, q, hq, hqp, hr, rfl⟩
    obtain rfl := MissionPlan.task_unique plan hq hp hqp
    refine get?_ofList_isSome ?_
    rw [List.map_map]
    exact List.mem_map_of_mem hr

lemma contextRole_known (hrole : role ∈ t.contextRoles.keys) :
    t.roleScopes.contains role = true := by
  rw [role_known h ht]
  obtain ⟨_, _, -, hshape⟩ := h
  obtain ⟨p, hp, rfl, hp'⟩ := execution hshape ht
  have hroles : t.contextRoles = p.continuity.contextRoles :=
      congrArg TaskExecution.contextRoles hp'
  rw [hroles] at hrole
  obtain ⟨r, hr, hid⟩ := mem_map.mp (p.continuity_valid role (mem_append_left _ hrole))
  refine ⟨r, ?_⟩
  rw [roleRequirement hshape, missionGroup_roleRequirement]
  exact ⟨p, hp, rfl, hr, hid⟩

end Planned

end RoboGuide.Control
