import RoboGuide.Control.Supersession
import RoboGuide.Control.Backing
import RoboGuide.Control.Actors

/-!
# `RoboGuide.Proofs.GroupRevision`: replacing a Group by one of a revised plan

`supersede_mission_group` builds the new Group and releases the old one on a copy of the plane.
A refused revision therefore leaves the plane and the events as they were. An accepted one
leaves the old Group released, without a reservation, allocation, quota claim or pending
recovery of its own, and the new Group with exactly the satisfied Tasks of the old one
satisfied and no Task bound (`RevisionOutcome`).

Over a run the links from a Group to its successor never change once they are set, and they
never lead back to a Group: each one goes to a Group that is younger (`Successions`).
-/

namespace RoboGuide.Control

open Domain Lib Fallible List Option MissionPlan OrdMap

variable {task : TaskRef} {id : ExecutionGroupId} {p : PlannedTask} {plan : MissionPlan}
  {t : TaskExecution}

/-! ### The property -/

/-- The claim is charged for something of the Group. -/
def ControlPlane.ClaimOf (c : ControlPlane) (id : ExecutionGroupId) (claim : QuotaClaim) : Prop :=
  (∃ a record, claim.allocationId = some a ∧ c.capacityLedger.allocations.get? a = some record ∧
    record.original.groupId = id) ∨
  (claim.allocationId = none ∧ ∃ r res, claim.resourceId = some r ∧
    c.reservations.get? r = some res ∧ res.groupId = some id)

/-- The Group holds nothing in `c'` of what it may have held in `c`. -/
structure GivesAllBack (c c' : ControlPlane) (id : ExecutionGroupId) : Prop where
  reservations : ∀ r res, c'.reservations.get? r = some res → res.groupId ≠ some id
  allocations : ∀ a record, c'.capacityLedger.allocations.get? a = some record →
    record.original.groupId ≠ id
  claims : ∀ key claim, c'.quotaLedger.claims.get? key = some claim →
    ¬ c.ClaimOf id claim ∧ ¬ c'.ClaimOf id claim
  commitments : ∀ key r, c'.pendingRecoveryCommitments.get? key = some r → r.groupId ≠ id

/-- The Task is completed in the Group. -/
def ControlPlane.Satisfied (c : ControlPlane) (id : ExecutionGroupId) (task : TaskRef) : Prop :=
  ∃ g t, c.group id = some g ∧ g.taskExecution task = some t ∧ t.lifecycle = .completed

/-- The Task is the same in both plans and both Groups. -/
structure SameTask (sourcePlan targetPlan : MissionPlan) (g g' : ExecutionGroup) (task : TaskRef) :
    Prop where
  planned : ∃ p, sourcePlan.task task = some p ∧ targetPlan.task task = some p
  roles : ∀ role, g'.roleRequirement task role = g.roleRequirement task role
  execution : ∀ t t', g.taskExecution task = some t → g'.taskExecution task = some t' →
    t'.taskRef = t.taskRef ∧ t'.contextId = t.contextId ∧ t'.roleScopes = t.roleScopes ∧
      t'.contextRoles = t.contextRoles ∧ t'.lifecycle = t.lifecycle

/-- What a revision should do: release the source, carry what it satisfied, start the rest anew. -/
structure Revised (c c' : ControlPlane) (source target : ExecutionGroupId)
    (sourcePlan targetPlan : MissionPlan) : Prop where
  released : ∃ g, c'.group source = some g ∧ g.lifecycle = .released ∧
    g.supersededBy = some target
  owns : GivesAllBack c c' source
  carried : ∀ g task, c.group source = some g → c.Satisfied source task →
    ∃ g', c'.group target = some g' ∧ c'.Satisfied target task ∧
      SameTask sourcePlan targetPlan g g' task
  fresh : ∃ g', c'.group target = some g' ∧ ∀ task t', g'.taskExecution task = some t' →
    t'.assignments = [] ∧ (t'.lifecycle = .completed → c.Satisfied source task)

/-- Either outcome of `supersede_mission_group`. -/
def RevisionOutcome (k : Kernel) (source target : ExecutionGroupId)
    (sourcePlan targetPlan : MissionPlan) :
    EStateM.Result ControlError Kernel (List TaskId) → Prop
  | .error _ k' => k' = k
  | .ok _ k' => Revised k.control k'.control source target sourcePlan targetPlan

/-! ### What the checks establish -/

section

variable {c : ControlPlane} {source target : ExecutionGroupId}
  {sourcePlan targetPlan : MissionPlan} {completed : List TaskId} {g : ExecutionGroup}

lemma taskRef_eq {task' : TaskRef} (hmission : task.missionId = task'.missionId)
    (hid : task.taskId = task'.taskId) : task = task' := by
  cases task
  cases task'
  cases hmission
  cases hid
  rfl

lemma mem_completedTasks (hplanned : Planned source g) (ht : g.taskExecution task = some t) :
    task.taskId ∈ completedTasks g ↔ t.lifecycle = .completed := by
  have hval : ∀ t', t' ∈ g.taskExecutions.values ↔ ∃ task', g.taskExecution task' = some t' :=
    fun t' => mem_values_iff
  simp only [completedTasks, List.mem_map, List.mem_filter, hval, beq_iff_eq]
  constructor
  · rintro ⟨t', ⟨⟨task', ht'⟩, hl⟩, hid⟩
    -- Tasks of one Group are of one Mission, so the identity names the Task.
    obtain ⟨_, hmission⟩ := hplanned.task_ref ht
    obtain ⟨href', hmission'⟩ := hplanned.task_ref ht'
    have hsame : task' = task := by
      rw [href'] at hid
      exact taskRef_eq (hmission'.trans hmission.symm) hid
    subst hsame
    cases ht.symm.trans ht'
    exact hl
  · intro hl
    exact ⟨t, ⟨⟨task, ht⟩, hl⟩, by rw [(hplanned.task_ref ht).1]⟩

lemma plannedTask_eq_some {id : TaskId}
    (h : plannedTask plan id = some p) : p ∈ plan.tasks ∧ p.taskId = id :=
  ⟨mem_of_find?_eq_some h, by simpa using find?_some h⟩

lemma MissionPlan.task_of_mem (hp : p ∈ plan.tasks) : plan.task p.taskRef = some p := by
  have hsome : (plan.task p.taskRef).isSome = true := by
    rw [task, find?_isSome]
    exact ⟨p, hp, by simp⟩
  obtain ⟨q, hq⟩ := isSome_iff_exists.mp hsome
  have hqp : q.taskRef = p.taskRef := by simpa using find?_some hq
  rw [hq, task_unique plan (mem_of_find?_eq_some hq) hp hqp]

lemma validateGroupTaskRequirement_roles {requirement : TaskRequirement}
    (h : validateGroupTaskRequirement g requirement = .ok ()) {role : RoleId}
    {r : RoleRequirement} (hr : g.roleRequirement requirement.taskRef role = some r)
    (role' : RoleId) : g.roleRequirement requirement.taskRef role' =
      (ofList (requirement.roles.map fun r => (r.roleId, r))).get? role' := by
  rw [validateGroupTaskRequirement, refuse_eq_ok] at h
  generalize hexpected : ((g.roleRequirements.entries.filter fun e =>
    (ofLex e.1).1 == requirement.taskRef).map fun e => ((ofLex e.1).2, e.2)) = expected at h
  have hmem : ∀ role r, (role, r) ∈ expected ↔
      g.roleRequirement requirement.taskRef role = some r := by
    intro role r
    rw [← hexpected, List.mem_map]
    constructor
    · rintro ⟨e, he, heq⟩
      obtain ⟨hentry, htask⟩ := List.mem_filter.mp he
      cases heq
      rw [← beq_iff_eq.mp htask]
      exact mem_entries_iff.mp hentry
    · intro hget
      exact ⟨(toLex (requirement.taskRef, role), r),
        mem_filter.mpr ⟨mem_entries_iff.mpr hget, beq_self_eq_true _⟩, rfl⟩
  have hmaps : ofList expected =
      ofList (requirement.roles.map fun r => (r.roleId, r)) := by
    have hne : expected.isEmpty = false := by
      rw [isEmpty_eq_false_iff_exists_mem]
      exact ⟨(role, r), (hmem role r).mpr hr⟩
    rw [hne, Bool.not_false, Bool.true_and, bne_eq_false_iff_eq] at h
    exact h
  rw [← hmaps]
  ext r'
  rw [← hmem]
  constructor
  · intro hin
    obtain ⟨v, hv⟩ := get?_ofList_isSome (mem_map_of_mem hin)
    have hv' := (hmem _ _).mp (mem_of_get?_ofList hv)
    rw [(hmem _ _).mp hin] at hv'
    rw [hv, hv']
  · exact mem_of_get?_ofList

lemma requirementRoles_get? (requirement : TaskRequirement) (role : RoleId)
    (r : RoleRequirement) :
    (ofList (requirement.roles.map fun r => (r.roleId, r))).get? role = some r ↔
      r ∈ requirement.roles ∧ r.roleId = role := by
  have hkeys : ((requirement.roles.map fun r => (r.roleId, r)).map (·.1)).Nodup := by
    rw [List.map_map]
    exact requirement.roles_distinct
  rw [get?_ofList hkeys, List.mem_map]
  constructor
  · rintro ⟨r', hr', heq⟩
    cases heq
    exact ⟨hr', rfl⟩
  · rintro ⟨hr, rfl⟩
    exact ⟨r, hr, rfl⟩

lemma validateMissionGroupPlan_task
    (h : validateMissionGroupPlan c id plan = .ok ()) (hg : c.group id = some g)
    (hp : p ∈ plan.tasks) :
    validateGroupTaskRequirement g p.requirement = .ok () ∧
      ∃ t, g.taskExecution p.taskRef = some t ∧ t.contextId = (plannedExecution plan p).contextId ∧
        t.roleScopes = (plannedExecution plan p).roleScopes ∧
          t.contextRoles = (plannedExecution plan p).contextRoles := by
  simp only [validateMissionGroupPlan, lookupGroup, bind_eq_ok, okOr_eq_ok] at h
  obtain ⟨g₀, hg₀, _, -, _, -, _, -, _, htasks, -⟩ := h
  cases hg₀.symm.trans hg
  have htask := forM_eq_ok.mp htasks p hp
  simp only [validatePlannedTask, bind_eq_ok, okOr_eq_ok, refuse_eq_ok, Bool.or_eq_false_iff,
    bne_eq_false_iff_eq] at htask
  obtain ⟨_, hroles, t, ht, ⟨⟨hcontext, hscopes⟩, hcontextRoles⟩, -⟩ := htask
  exact ⟨hroles, t, ht, hcontext, hscopes, hcontextRoles⟩

lemma validateRevision_completed
    (h : validateRevision c source target sourcePlan targetPlan = .ok completed) {task : TaskId}
    (htask : task ∈ completed) :
    ∃ p, plannedTask sourcePlan task = some p ∧ plannedTask targetPlan task = some p := by
  simp only [validateRevision, lookupGroup, bind_eq_ok, okOr_eq_ok, pure_eq_ok] at h
  obtain ⟨_, -, g, -, _, -, _, hsame, rfl⟩ := h
  have hcheck := forM_eq_ok.mp hsame task htask
  rw [refuse_eq_ok, Bool.or_eq_false_iff, bne_eq_false_iff_eq, isNone_eq_false_iff,
    isSome_iff_exists] at hcheck
  obtain ⟨⟨p, hp⟩, hplans⟩ := hcheck
  exact ⟨p, hp, hplans ▸ hp⟩

lemma carryCompleted_taskExecution (completed : List TaskId) (g : ExecutionGroup)
    (task : TaskRef) :
    (carryCompleted completed g).taskExecution task = (g.taskExecution task).map fun t =>
      if completed.contains t.taskRef.taskId then t.withLifecycle .completed else t :=
  get?_mapValues _ _ _

end

/-! ### Giving everything back -/

section

variable {c : ControlPlane} {g : ExecutionGroup} {resources : List ResourceId}

lemma releaseGroupOwnership_claims {key : ClaimId} {claim : QuotaClaim}
    (h : (c.releaseGroupOwnership id resources).quotaLedger.claims.get? key = some claim) :
    (claim.allocationId = none → ∀ r ∈ resources, claim.resourceId ≠ some r) ∧
      ∀ a record, c.capacityLedger.allocations.get? a = some record →
        record.original.groupId = id → claim.allocationId ≠ some a := by
  obtain ⟨hold, hresources⟩ := (releaseResources_claims (c.releaseCapacityGroup id) resources key
    claim).mp h
  refine ⟨hresources, fun a record ha hid => ?_⟩
  obtain ⟨-, hallocations⟩ := (retainCapacity_claims c _ key claim).mp hold
  exact hallocations a record ha (by rw [hid]; exact bne_self_eq_false _)

lemma givesAllBack_of_release (g' : ExecutionGroup)
    (h : validateGroupRelease c id = .ok (g, resources)) (hkeyed : c.CommitmentsKeyed) :
    GivesAllBack c ((c.releaseGroupOwnership id resources).setGroup id g') id := by
  have hholds := holdsNothing_of_release h g'
  refine ⟨hholds.reservations, hholds.allocations, ?_, ?_⟩
  · intro key claim hclaim
    obtain ⟨hresources, halloc⟩ := releaseGroupOwnership_claims hclaim
    constructor
    · rintro (⟨a, record, ha, hrecord, hid⟩ | ⟨hnone, r, res, hr, hres, hid⟩)
      · exact halloc a record hrecord hid ha
      · exact hresources hnone r (validateGroupRelease_held h hres hid) hr
    · rintro (⟨a, record, ha, hrecord, hid⟩ | ⟨_, r, res, hr, hres, hid⟩)
      · exact hholds.allocations a record hrecord hid
      · exact hholds.reservations r res hres hid
  · intro key r hr hid
    obtain ⟨hold, hne⟩ := releaseGroupOwnership_pending_get? hr
    obtain ⟨hkey, -⟩ := hkeyed key r hold
    rw [hkey, hid] at hne
    exact hne rfl

end

/-! ### The accepted revision -/

section

variable {c : ControlPlane} {source target : ExecutionGroupId}
  {sourcePlan targetPlan : MissionPlan} {completed : List TaskId} {first : PlannedTask}
  {g : ExecutionGroup}

lemma carried_execution {t' : TaskExecution}
    (ht' : (carryCompleted completed (missionGroup target targetPlan first)).taskExecution task =
      some t') : ∃ p ∈ targetPlan.tasks, p.taskRef = task ∧
      t' = if completed.contains task.taskId then
          (plannedExecution targetPlan p).withLifecycle .completed
        else plannedExecution targetPlan p := by
  rw [carryCompleted_taskExecution] at ht'
  obtain ⟨t, ht, rfl⟩ := map_eq_some_iff.mp ht'
  obtain ⟨p, hp, rfl, rfl⟩ := (missionGroup_taskExecution targetPlan target first task t).mp ht
  exact ⟨p, hp, rfl, rfl⟩

lemma sameTask_of_revision
    (h : validateRevision c source target sourcePlan targetPlan = .ok completed)
    (hplanned : Planned source g) (hg : c.group source = some g)
    (ht : g.taskExecution task = some t) (hl : t.lifecycle = .completed) :
    SameTask sourcePlan targetPlan g
      (carryCompleted completed (missionGroup target targetPlan first)) task := by
  obtain ⟨g₀, hg₀, -, -, -, -, rfl⟩ := validateRevision_source h
  obtain rfl := some.inj (hg₀.symm.trans hg)
  obtain ⟨href, hmission⟩ := hplanned.task_ref ht
  have hmem : task.taskId ∈ completedTasks g₀ := (mem_completedTasks hplanned ht).mpr hl
  obtain ⟨p, hp, hp'⟩ := validateRevision_completed h hmem
  obtain ⟨hmemSource, hid⟩ := plannedTask_eq_some hp
  obtain ⟨hmemTarget, -⟩ := plannedTask_eq_some hp'
  have htask : p.taskRef = task := by
    refine taskRef_eq ?_ hid
    rw [task_mission targetPlan hmemTarget, hmission, validateRevision_mission h hg]
  subst htask
  simp only [validateRevision, bind_eq_ok] at h
  obtain ⟨_, hplan, -⟩ := h
  obtain ⟨hroles, t₀, ht₀, hcontext, hscopes, hcontextRoles⟩ :=
    validateMissionGroupPlan_task hplan hg hmemSource
  obtain rfl := some.inj (ht₀.symm.trans ht)
  refine ⟨⟨p, task_of_mem hmemSource, task_of_mem hmemTarget⟩, ?_, ?_⟩
  · -- Both Role tables are that of the Task's requirement.
    intro role
    obtain ⟨r, hr⟩ := exists_mem_of_ne_nil _ p.requirement.roles_nonempty
    have hknown : t₀.roleScopes.contains r.roleId = true := by
      rw [hscopes, contains_eq_true_iff]
      refine get?_ofList_isSome ?_
      rw [List.map_map]
      exact List.mem_map_of_mem hr
    obtain ⟨r₀, hr₀⟩ := (hplanned.role_known ht r.roleId).mp hknown
    have hold : g₀.roleRequirement p.taskRef role = _ :=
      validateGroupTaskRequirement_roles hroles hr₀ role
    rw [hold]
    ext r'
    show (missionGroup target targetPlan first).roleRequirement p.taskRef role = some r' ↔ _
    rw [missionGroup_roleRequirement, requirementRoles_get?]
    constructor
    · rintro ⟨q, hq, hqp, hr', hrole⟩
      obtain rfl := task_unique targetPlan hq hmemTarget hqp
      exact ⟨hr', hrole⟩
    · rintro ⟨hr', hrole⟩
      exact ⟨p, hmemTarget, rfl, hr', hrole⟩
  · intro t t' hget hget'
    cases hget.symm.trans ht
    obtain ⟨q, hq, hqp, rfl⟩ := carried_execution hget'
    obtain rfl := task_unique targetPlan hq hmemTarget hqp
    rw [if_pos (contains_iff_mem.mpr hmem)]
    exact ⟨href.symm, hcontext.symm, hscopes.symm, hcontextRoles.symm, hl.symm⟩

lemma revised_of_revision
    (h : validateRevision c source target sourcePlan targetPlan = .ok completed)
    {g' : ExecutionGroup} {resources : List ResourceId}
    (hrelease : validateGroupRelease (c.revised source target targetPlan first completed) source =
      .ok (g, resources))
    (hstored : g.cleared.refreshMembership = .ok g') (hplanned : c.GroupsPlanned)
    (hkeyed : c.CommitmentsKeyed) :
    Revised c (((c.revised source target targetPlan first completed).releaseGroupOwnership source
      resources).setGroup source g') source target sourcePlan targetPlan := by
  obtain ⟨g₀, hg₀, -, -, hne, _, hcompleted⟩ := validateRevision_source h
  have hsource : (c.revised source target targetPlan first completed).group source =
      some { g₀ with supersededBy := some target, lifecycle := .superseded } := by
    rw [revised_group _ _ _ _ _ hne, if_neg hne, if_pos rfl, hg₀]
    rfl
  have hfresh := hplanned source g₀ hg₀
  refine ⟨?_, ?_, ?_, _, revised_target hne, ?_⟩
  · obtain ⟨v, rfl⟩ := refreshMembership_cases hstored
    cases (validateGroupRelease_group hrelease).1.symm.trans hsource
    exact ⟨_, by rw [setGroup_group, if_pos rfl], rfl, rfl⟩
  · -- The copy differs from the plane in its Groups only, and none was lost.
    have hcopy : (c.revised source target targetPlan first completed).CommitmentsKeyed := by
      intro key r hr
      obtain ⟨hkey, gr, hgr⟩ := hkeyed key r hr
      refine ⟨hkey, ?_⟩
      rw [revised_group _ _ _ _ _ hne]
      split
      · exact ⟨_, rfl⟩
      · split
        · exact ⟨_, by rw [hg₀]; rfl⟩
        · exact ⟨gr, hgr⟩
    obtain ⟨hreservations, hallocations, hclaims, hcommitments⟩ :=
      givesAllBack_of_release g' hrelease hcopy
    exact ⟨hreservations, hallocations, hclaims, hcommitments⟩
  · rintro g₁ task hg₁ ⟨g₂, t, hg₂, ht, hl⟩
    cases hg₁.symm.trans hg₂
    have hsame : SameTask sourcePlan targetPlan g₁
        (carryCompleted completed (missionGroup target targetPlan first)) task :=
      sameTask_of_revision h (hplanned source g₁ hg₁) hg₁ ht hl
    refine ⟨_, revised_target hne, ?_, hsame⟩
    obtain ⟨p, -, hp⟩ := hsame.planned
    have hmem : p ∈ targetPlan.tasks := mem_of_find?_eq_some hp
    have htask : p.taskRef = task := by simpa using find?_some hp
    have hexec := (missionGroup_taskExecution targetPlan target first task _).mpr
      ⟨p, hmem, htask, rfl⟩
    have hget := carryCompleted_taskExecution completed (missionGroup target targetPlan first) task
    rw [hexec, map_some] at hget
    exact ⟨_, _, revised_target hne, hget, (hsame.execution t _ ht hget).2.2.2.2.trans hl⟩
  · intro task t' ht'
    obtain ⟨p, hp, rfl, rfl⟩ := carried_execution ht'
    by_cases hmem : completed.contains p.taskRef.taskId = true
    · rw [if_pos hmem]
      refine ⟨rfl, fun _ => ?_⟩
      -- The identity was collected from a satisfied Task of the old Group.
      subst hcompleted
      obtain ⟨t, ht, hid⟩ := mem_map.mp (contains_iff_mem.mp hmem)
      obtain ⟨hval, hl⟩ := mem_filter.mp ht
      obtain ⟨task, hget⟩ := mem_values_iff.mp hval
      obtain ⟨href, hmission⟩ := hfresh.task_ref hget
      have hsame : task = p.taskRef := by
        refine taskRef_eq ?_ (href ▸ hid)
        rw [hmission, validateRevision_mission h hg₀, task_mission targetPlan hp]
      exact ⟨g₀, t, hg₀, hsame ▸ hget, beq_iff_eq.mp hl⟩
    · rw [if_neg hmem]
      exact ⟨rfl, fun hl => by cases hl⟩

end

/-! ### Runs -/

structure RevisionInv (c : ControlPlane) : Prop where
  planned : c.GroupsPlanned
  keyed : c.CommitmentsKeyed
  successions : c.Successions

lemma revisionInv_run {w₀ w : World} (hidle : w₀.Idle)
    (hrun : World.Run (fun _ _ => True) w₀ w) : RevisionInv w.control := by
  refine hrun.invariant (P := fun w => RevisionInv w.control) ?_ ?_
  · exact ⟨hidle.control.groupsPlanned, hidle.control.commitmentsKeyed, hidle.control.successions⟩
  · intro w call hinv _
    have heffect := call.effect w
    exact ⟨heffect.planned hinv.planned, heffect.commitmentsKeyed hinv.keyed,
      heffect.successions hinv.successions⟩

lemma revision_outcome {k : Kernel} (hinv : RevisionInv k.control)
    (source target : ExecutionGroupId) (sourcePlan targetPlan : MissionPlan) :
    RevisionOutcome k source target sourcePlan targetPlan
      (supersedeMissionGroup source target sourcePlan targetPlan k) := by
  rcases supersedeMissionGroup_cases k source target sourcePlan targetPlan with
    ⟨e, h⟩ | ⟨completed, first, g, resources, g', k', h, hrevision, -, -, hrelease, hstored, hc⟩
  · rw [h]
    rfl
  · rw [h]
    show Revised k.control k'.control source target sourcePlan targetPlan
    rw [hc]
    exact revised_of_revision hrevision hrelease hstored hinv.planned hinv.keyed

lemma ControlPlane.Successions.acyclic {c : ControlPlane} (hc : c.Successions)
    (id : ExecutionGroupId) : ¬ Relation.TransGen c.SucceededBy id id := by
  obtain ⟨rank, hrank⟩ := hc
  have hlt : ∀ {a b}, Relation.TransGen c.SucceededBy a b → rank a < rank b := by
    intro a b hab
    induction hab with
    | single hstep =>
      obtain ⟨g, hg, hnext⟩ := hstep
      exact (hrank _ g _ hg hnext).2.1
    | tail _ hstep ih =>
      obtain ⟨g, hg, hnext⟩ := hstep
      exact ih.trans (hrank _ g _ hg hnext).2.1
  exact fun hcycle => Nat.lt_irrefl _ (hlt hcycle)

lemma ControlPlane.SucceededBy.unique {c : ControlPlane} {a b : ExecutionGroupId}
    (ha : c.SucceededBy id a) (hb : c.SucceededBy id b) : a = b := by
  obtain ⟨g, hg, hnext⟩ := ha
  obtain ⟨g', hg', hnext'⟩ := hb
  cases hg.symm.trans hg'
  exact some.inj (hnext.symm.trans hnext')

/-- In every reachable state a revision is all or nothing and sound; the links it leaves have no
cycle, and no Group ever gets a second successor. -/
theorem mission_revision_sound {w₀ w : World} (hidle : w₀.Idle)
    (hrun : World.Run (fun _ _ => True) w₀ w) : (∀ source target sourcePlan targetPlan,
      RevisionOutcome w.kernel source target sourcePlan targetPlan
        (supersedeMissionGroup source target sourcePlan targetPlan w.kernel)) ∧
    (∀ id, ¬ Relation.TransGen w.control.SucceededBy id id) ∧
    ∀ w' id a b, World.Run (fun _ _ => True) w w' → w.control.SucceededBy id a →
      w'.control.SucceededBy id b → a = b := by
  have hinv := revisionInv_run hidle hrun
  refine ⟨revision_outcome hinv, hinv.successions.acyclic, ?_⟩
  intro w' id a b hlater ha hb
  have hkept : w'.control.SucceededBy id a :=
    hlater.invariant (P := fun w => w.control.SucceededBy id a) ha
      fun w call hs _ => (call.effect w).successor_kept hs
  exact hkept.unique hb

namespace Replanned

/-- Two Tasks, of which the first is done when the Group is blocked; the revised plan drops the
second one and adds another. -/
def mission : MissionId := ⟨"mission", .refl false⟩
def role : RoleId := ⟨"role", .refl false⟩
def node : NodeId := ⟨"node", .refl false⟩
def context : CoordinationContextId := ⟨"context", .refl false⟩
def group : ExecutionGroupId := ⟨"group", .refl false⟩
def revision : ExecutionGroupId := ⟨"revision", .refl false⟩

def fetch : TaskRef := ⟨mission, ⟨"fetch", .refl false⟩⟩
def store : TaskRef := ⟨mission, ⟨"store", .refl false⟩⟩
def hand : TaskRef := ⟨mission, ⟨"hand", .refl false⟩⟩

def roleRequirement : RoleRequirement := ⟨role, none, [], [], List.nodup_nil⟩

def requirement (task : TaskRef) : TaskRequirement where
  taskRef := task
  roles := [roleRequirement]
  timing := ⟨0, none, none, none⟩
  roles_nonempty := by simp
  roles_distinct := by simp

def planned (task : TaskRef) : PlannedTask where
  declaration := "task"
  requirement := requirement task
  dependencies := []
  continuity := ⟨context, ∅, ∅, none⟩
  satisfactionBasis := .executionReport
  dependencies_valid := by simp
  continuity_valid := by intro r hr; cases hr

def sourcePlan : MissionPlan where
  missionId := mission
  objective := "deliver"
  actors := []
  tasks := [planned fetch, planned store]
  contexts := [⟨context, [], [], .independent⟩]
  valid := by decide

def targetPlan : MissionPlan where
  missionId := mission
  objective := "deliver"
  actors := []
  tasks := [planned fetch, planned hand]
  contexts := [⟨context, [], [], .independent⟩]
  valid := by decide

def evidence : Evidence := .granting 0 [(node, [])]

def calls : List Call :=
  [.createMissionGroup group sourcePlan, .readyTaskExecution group fetch,
    .propose evidence (requirement fetch)
      ⟨fetch, OrdMap.ofList [(role, [node])], ∅, ∅, [], ∅⟩ [⟨role, node, []⟩],
    .commitForGroupWithState evidence group
      ⟨fetch, [⟨role, node, []⟩], ∅, OrdMap.ofList [(role, roleRequirement)], ∅⟩,
    .bindTaskExecutionWithState evidence group ⟨fetch, [⟨role, node, []⟩], ∅, ∅, none⟩,
    .activateTaskExecution group fetch 0, .recordTaskExecutionCompleted group fetch,
    .satisfyTaskExecution group fetch .executionReport, .blockGroup group "replanned"]

def start : World := World.start [(mission, "tenant")]

def blocked : World := calls.foldl World.step start

end Replanned

/-- The revised Group takes the satisfied Task over. -/
theorem replanned_group_sound :
    ∃ k', supersedeMissionGroup Replanned.group Replanned.revision Replanned.sourcePlan
        Replanned.targetPlan Replanned.blocked.kernel = .ok [Replanned.fetch.taskId] k' ∧
      Revised Replanned.blocked.control k'.control Replanned.group Replanned.revision
        Replanned.sourcePlan Replanned.targetPlan := by
  have hrun : World.Run (fun _ _ => True) Replanned.start Replanned.blocked :=
    Reaches.of_list Replanned.calls .refl (by decide +kernel)
  have houtcome := (mission_revision_sound (World.start_idle _) hrun).1 Replanned.group
    Replanned.revision Replanned.sourcePlan Replanned.targetPlan
  have hok : (match supersedeMissionGroup Replanned.group Replanned.revision Replanned.sourcePlan
      Replanned.targetPlan Replanned.blocked.kernel with
    | .ok completed _ => some completed
    | .error _ _ => none) = some [Replanned.fetch.taskId] := by decide +kernel
  cases hresult : supersedeMissionGroup Replanned.group Replanned.revision Replanned.sourcePlan
      Replanned.targetPlan Replanned.blocked.kernel with
  | ok completed k' =>
    rw [hresult] at hok houtcome
    cases hok
    exact ⟨k', rfl, houtcome⟩
  | error e k' =>
    rw [hresult] at hok
    cases hok

end RoboGuide.Control
