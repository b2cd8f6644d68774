import RoboGuide.Control.Membership
import RoboGuide.Control.Checkpoint

/-!
# `RoboGuide.Control.Supersession`: Groups and their successors

A plan revision replaces a Group by a new one and releases the old one in the same call. So
no Group is ever seen `Superseded`, successors are released Groups of the same Mission, and
following them ends: a successor is always younger (`Effect.successions`). No Group ever has
the bindings of single-Task callers either.
-/

namespace RoboGuide.Control

open Domain Lib Fallible List GroupLifecycle

variable {source target : ExecutionGroupId}
  {c c' : ControlPlane} {id : ExecutionGroupId} {g g' : ExecutionGroup} {call : Call}
  {sourcePlan targetPlan : MissionPlan} {completed : List TaskId} {next : ExecutionGroupId}

/-! ### Mission Groups -/

structure MissionGroup (id : ExecutionGroupId) (g : ExecutionGroup) : Prop where
  planned : Planned id g
  assignments : g.assignments = []
  unboundRoles : g.unboundRoles = ∅
  waiting : ∀ key slot, g.taskUnboundRoles.get? key = some slot →
    (g.taskExecution (ofLex key).1).isSome = true
  lifecycle : g.lifecycle ≠ .superseded

lemma MissionGroup.relifecycle
    (h : MissionGroup id g) {l : GroupLifecycle} (hl : l ≠ .superseded) :
    MissionGroup id { g with lifecycle := l } :=
  ⟨h.planned, h.assignments, h.unboundRoles, h.waiting, hl⟩

lemma Stored.missionGroup (h : Stored g g') (hg : MissionGroup id g) : MissionGroup id g' := by
  obtain ⟨v, rfl⟩ := h.eq
  exact ⟨hg.planned, hg.assignments, hg.unboundRoles, hg.waiting, hg.lifecycle⟩

lemma MissionGroup.setTask {task : TaskRef}
    {t t' : TaskExecution} (h : MissionGroup id g) (ht : g.taskExecution task = some t)
    (hshape : taskShape t' = taskShape t) : MissionGroup id (g.setTask task t') := by
  obtain ⟨plan, first, hhead, hplan⟩ := h.planned
  refine ⟨⟨plan, first, hhead, (setTask_shape ht hshape).trans hplan⟩, h.assignments,
    h.unboundRoles, fun key slot hslot => ?_, h.lifecycle⟩
  rw [setTask_taskExecution]
  split
  · rfl
  · exact h.waiting key slot hslot

lemma MissionGroup.cleared (hplanned : Planned id g) : MissionGroup id g.cleared := by
  obtain ⟨plan, first, hhead, hplan⟩ := hplanned
  refine ⟨⟨plan, first, hhead, (cleared_shape g).trans hplan⟩, rfl, rfl, nofun, ?_⟩
  show released ≠ .superseded
  decide

lemma GroupChange.missionGroup (h : GroupChange c call id g')
    (hc : ∀ g, c.group id = some g → MissionGroup id g) : MissionGroup id g' := by
  induction h with
  | created new head => exact ⟨⟨_, _, head, rfl⟩, rfl, rfl, nofun, nofun⟩
  | carried revision head => exact ⟨⟨_, _, head, carryCompleted_shape _ _⟩, rfl, rfl, nofun, nofun⟩
  | superseded revision group stored =>
    have hplanned := (hc _ group).planned
    exact Stored.missionGroup (.inl stored) (.cleared hplanned)
  | moved move group => exact (hc _ group).relifecycle (groupMove_live move).2
  | activated group | completed group | recoveryBlocked valid group =>
    exact (hc _ group).relifecycle (by decide)
  | taskMoved move group execution => exact (hc _ group).setTask execution rfl
  | @taskActivated c id task now g t group execution =>
    have hset := (hc _ group).setTask execution (taskShape_withLifecycle t .active)
    refine hset.relifecycle ?_
    split
    · decide
    · exact (hc _ group).lifecycle
  | @bound c e id plan g g' t actors evidence valid stored =>
    have hv := validateBind_ok valid
    have hset := (hc _ hv.group).setTask hv.execution (taskShape_withAssignments t plan.assignments)
    exact stored.missionGroup
      ⟨hset.planned, hset.assignments, hset.unboundRoles, hset.waiting, hset.lifecycle⟩
  | taskReleased valid stored =>
    have hv := validateTaskRelease_ok valid
    exact stored.missionGroup
      ((hc _ hv.group).setTask hv.execution (taskShape_withAssignments _ _))
  | contextReleased valid stored =>
    have hg := hc _ (validateContextRelease_group valid)
    obtain ⟨plan, first, hhead, hplan⟩ := hg.planned
    refine stored.missionGroup ⟨⟨plan, first, hhead, (withoutContext_shape _ _).trans hplan⟩,
      hg.assignments, hg.unboundRoles, fun key slot hslot => ?_, hg.lifecycle⟩
    rw [withoutContext_taskExecution, Option.isSome_map]
    exact hg.waiting key slot hslot
  | roleReleased group blocked found =>
    -- A Mission Group has no assignment of a single-Task caller to release.
    rw [(hc _ group).assignments] at found
    cases found
  | @taskRoleReleased c id task role g g' t a group blocked execution found owned stored =>
    have hset := (hc _ group).setTask execution (taskShape_withAssignments t
      (t.assignments.eraseIdx (t.assignments.findIdx fun a => a.roleId == role)))
    refine stored.missionGroup
      ⟨hset.planned, hset.assignments, hset.unboundRoles, fun key slot hslot => ?_, hset.lifecycle⟩
    rcases insert_cases hslot with ⟨rfl, -⟩ | ⟨-, hslot⟩
    · show ((g.setTask task _).taskExecution task).isSome = true
      rw [setTask_taskExecution, if_pos rfl]
      rfl
    · exact hset.waiting key slot hslot
  | taskRecoveryReleased valid group task release ih
  | legacyRecoveryReleased valid group task release ih =>
    refine ih fun g₁ hg₁ => ?_
    rw [setGroup_group, if_pos rfl] at hg₁
    cases hg₁
    exact (hc _ group).relifecycle (by decide)
  | executionRecovery begun ih => exact ih hc
  | @rebound c e r g g' slot evidence valid stored =>
    obtain ⟨old, hv⟩ := validateRebind_ok valid
    have hold := hc _ hv.group
    rcases reboundGroup_ok hv.rebound with ⟨t, ht, -, rfl⟩ | ⟨ht, -, rfl⟩
    · have hset := hold.setTask ht (taskShape_withAssignments t
        (insertAssignment t.assignments slot.assignmentIndex r.assignment))
      refine stored.missionGroup
        ⟨hset.planned, hset.assignments, hset.unboundRoles, fun key slot hslot => ?_, ?_⟩
      · change (old.taskUnboundRoles.erase _).get? key = some slot at hslot
        rw [get?_erase] at hslot
        split at hslot
        · cases hslot
        · exact hset.waiting key slot hslot
      · show adapted ≠ .superseded
        decide
    · -- The slot of a Mission Group belongs to one of its Tasks.
      have hslot := hv.slotFound
      rw [ExecutionGroup.recoveryUnboundRole, ht] at hslot
      split at hslot
      · next hsome => cases hsome
      · split at hslot
        · next hlegacy => exact absurd hlegacy.1 hold.planned.tasks_ne_empty
        · cases hslot
  | released valid stored =>
    exact stored.missionGroup (.cleared (hc _ (validateGroupRelease_group valid).1).planned)

def ControlPlane.MissionGroups (c : ControlPlane) : Prop :=
  ∀ id g, c.group id = some g → MissionGroup id g

lemma Effect.missionGroups (h : Effect c call c') (hc : c.MissionGroups) : c'.MissionGroups := by
  intro id g' hg'
  rcases h.group_cases id g' hg' with hsame | hchange
  · exact hc id g' hsame
  · exact hchange.missionGroup (hc id)

lemma ControlPlane.Idle.missionGroups (h : c.Idle) : c.MissionGroups := by
  intro id g hg
  rw [ControlPlane.group, h.groups] at hg
  cases hg

/-! ### Successors -/

structure Continues (g g' : ExecutionGroup) : Prop where
  successor : g'.supersededBy = g.supersededBy
  released : g.lifecycle = .released → g'.lifecycle = .released

lemma Stored.continues {g₁ : ExecutionGroup} (h : Stored g₁ g') (hg : Continues g g₁) :
    Continues g g' := by
  obtain ⟨v, rfl⟩ := h.eq
  exact ⟨hg.successor, hg.released⟩

lemma Continues.of_live (hs : g'.supersededBy = g.supersededBy)
    (hl : g.lifecycle ≠ .released) : Continues g g' :=
  ⟨hs, fun hr => absurd hr hl⟩

lemma GroupChange.succession (h : GroupChange c call id g') :
    (∃ g, c.group id = some g ∧ Continues g g') ∨ (c.group id = none ∧ g'.supersededBy = none) ∨
      ∃ next sourcePlan targetPlan, call = .supersedeMissionGroup id next sourcePlan targetPlan ∧
        (∃ g, c.group id = some g ∧ g.supersededBy = none) ∧ g'.supersededBy = some next ∧
          g'.lifecycle = .released := by
  induction h with
  | created new => exact .inr (.inl ⟨new, rfl⟩)
  | carried revision =>
    obtain ⟨_, -, -, -, -, hnew, -⟩ := validateRevision_source revision
    exact .inr (.inl ⟨hnew, rfl⟩)
  | superseded revision group stored =>
    obtain ⟨g, hg, -, hnone, -⟩ := validateRevision_source revision
    obtain ⟨v, rfl⟩ := refreshMembership_cases stored
    exact .inr (.inr ⟨_, _, _, rfl, ⟨g, hg, hnone⟩, rfl, rfl⟩)
  | moved move group guard =>
    refine .inl ⟨_, group, .of_live rfl fun hl => ?_⟩
    cases hl ▸ groupMove_unfinished move guard
  | activated group guard | completed group guard =>
    refine .inl ⟨_, group, .of_live rfl ?_⟩
    rcases guard with hl | hl <;> rw [hl] <;> decide
  | taskMoved move group => exact .inl ⟨_, group, rfl, fun h => h⟩
  | @taskActivated c id task now g t group =>
    refine .inl ⟨g, group, rfl, fun hl => ?_⟩
    show (if g.lifecycle = .bound ∨ g.lifecycle = .adapted then active
      else g.lifecycle) = .released
    rw [hl]
    rfl
  | bound evidence valid stored =>
    exact .inl ⟨_, (validateBind_ok valid).group, stored.continues ⟨rfl, fun h => h⟩⟩
  | taskReleased valid stored =>
    exact .inl ⟨_, (validateTaskRelease_ok valid).group, stored.continues ⟨rfl, fun h => h⟩⟩
  | contextReleased valid stored =>
    exact .inl ⟨_, validateContextRelease_group valid, stored.continues ⟨rfl, fun h => h⟩⟩
  | roleReleased group blocked found owned stored
  | taskRoleReleased group blocked execution found owned stored =>
    exact .inl ⟨_, group, stored.continues ⟨rfl, fun h => h⟩⟩
  | recoveryBlocked valid group => exact .inl ⟨_, group, .of_live rfl (recovery_live valid group)⟩
  | taskRecoveryReleased valid group task release ih
  | legacyRecoveryReleased valid group task release ih =>
    rcases ih with ⟨g₁, hg₁, hcont⟩ | ⟨hnew, -⟩ | ⟨_, _, _, hcall, -⟩
    · rw [setGroup_group, if_pos rfl] at hg₁
      cases hg₁
      exact .inl ⟨_, group, .of_live hcont.successor (recovery_live valid group)⟩
    · rw [setGroup_group, if_pos rfl] at hnew
      cases hnew
    · cases hcall
  | executionRecovery begun ih =>
    rcases ih with hcont | hnone | ⟨_, _, _, hcall, -⟩
    · exact .inl hcont
    · exact .inr (.inl hnone)
    · cases hcall
  | rebound evidence valid stored =>
    obtain ⟨old, hv⟩ := validateRebind_ok valid
    refine .inl ⟨old, hv.group, stored.continues (.of_live ?_ ?_)⟩
    · rcases reboundGroup_ok hv.rebound with ⟨t, -, -, rfl⟩ | ⟨-, -, rfl⟩ <;> rfl
    · rw [hv.blocked]
      decide
  | released valid stored =>
    exact .inl ⟨_, (validateGroupRelease_group valid).1, stored.continues ⟨rfl, fun _ => rfl⟩⟩

lemma validateRevision_mission
    (h : validateRevision c source target sourcePlan targetPlan = .ok completed)
    (hg : c.group source = some g) : g.missionId = targetPlan.missionId := by
  simp only [validateRevision, validateMissionGroupPlan, lookupGroup, bind_eq_ok, okOr_eq_ok,
    refuse_eq_ok, pure_eq_ok] at h
  obtain ⟨-, ⟨g₀, hg₀, -, hplan, -⟩, g₁, _, -, hrefuse, -⟩ := h
  simp only [Bool.or_eq_false_iff, bne_eq_false_iff_eq] at hplan hrefuse
  obtain ⟨⟨⟨⟨-, hmission⟩, -⟩, -⟩, -⟩ := hrefuse
  cases hg₀.symm.trans hg
  exact hplan.1.trans hmission

lemma revised_target {plan : MissionPlan} {first : PlannedTask} {resources : List ResourceId}
    (hne : source ≠ target) :
    (((c.revised source target plan first completed).releaseGroupOwnership source
      resources).setGroup source g').group target =
        some (carryCompleted completed (missionGroup target plan first)) := by
  rw [setGroup_group, if_neg hne.symm, group_of_groups (releaseGroupOwnership_groups _ _ _),
    revised_group _ _ _ _ _ hne, if_pos rfl]

lemma Effect.supersede_cases
    (h : Effect c (.supersedeMissionGroup source target sourcePlan targetPlan) c') :
    c' = c ∨ c.group target = none ∧ ∃ g g', c.group source = some g ∧
      c'.group target = some g' ∧ g'.missionId = g.missionId := by
  cases h with
  | unchanged => exact .inl rfl
  | groupMoved move | taskMoved move => cases move
  | @groupSuperseded _ _ _ _ _ completed first g₁ g' resources revision semantics head release
      stored =>
    obtain ⟨g, hg, -, -, hne, hnew, -⟩ := validateRevision_source revision
    exact .inr ⟨hnew, g, _, hg, revised_target hne, (validateRevision_mission revision hg).symm⟩

/-- Successors are younger Groups of the same Mission. -/
def ControlPlane.Successions (c : ControlPlane) : Prop :=
  ∃ rank : ExecutionGroupId → Nat, ∀ id g next, c.group id = some g →
    g.supersededBy = some next → g.lifecycle = .released ∧ rank id < rank next ∧
      ∃ successor, c.group next = some successor ∧ successor.missionId = g.missionId

lemma Effect.successor_cases (h : Effect c call c')
    (hg' : c'.group id = some g') (hnext : g'.supersededBy = some next) :
    (∃ g, c.group id = some g ∧ g.supersededBy = some next ∧ Continues g g') ∨
      ∃ sourcePlan targetPlan, call = .supersedeMissionGroup id next sourcePlan targetPlan ∧
        g'.lifecycle = .released := by
  rcases h.group_cases id g' hg' with hsame | hchange
  · exact .inl ⟨g', hsame, hnext, rfl, fun h => h⟩
  · rcases hchange.succession with ⟨g, hg, hcont⟩ | ⟨-, hnone⟩ | ⟨_, sp, tp, rfl, -, hs, hl⟩
    · exact .inl ⟨g, hg, hcont.successor.symm.trans hnext, hcont⟩
    · cases hnone.symm.trans hnext
    · cases hs.symm.trans hnext
      exact .inr ⟨sp, tp, rfl, hl⟩

/-- The Group `id` was replaced by the Group `next`. -/
def ControlPlane.SucceededBy (c : ControlPlane) (id next : ExecutionGroupId) : Prop :=
  ∃ g, c.group id = some g ∧ g.supersededBy = some next

lemma Effect.successor_kept (h : Effect c call c')
    (hs : c.SucceededBy id next) : c'.SucceededBy id next := by
  obtain ⟨g, hg, hnext⟩ := hs
  obtain ⟨g', hg'⟩ := h.group_kept id g hg
  refine ⟨g', hg', ?_⟩
  rcases h.group_cases id g' hg' with hsame | hchange
  · cases hsame.symm.trans hg
    exact hnext
  · rcases hchange.succession with ⟨g₁, hg₁, hcont⟩ | ⟨hnew, -⟩ | ⟨_, _, _, -, ⟨g₁, hg₁, hnone⟩, -⟩
    · cases hg₁.symm.trans hg
      exact hcont.successor.trans hnext
    · cases hnew.symm.trans hg
    · cases hg₁.symm.trans hg
      cases hnone.symm.trans hnext

lemma Effect.mission_kept (h : Effect c call c') (hg : c.group id = some g)
    (hg' : c'.group id = some g') : g'.missionId = g.missionId := by
  obtain ⟨g₁, hg₁, hshape⟩ := h.shape_kept hg
  obtain rfl := Option.some.inj (hg₁.symm.trans hg')
  have hmission : g₁.shape.missionId = g.shape.missionId := by rw [hshape]
  exact hmission

lemma Effect.successions (h : Effect c call c') (hc : c.Successions) : c'.Successions := by
  obtain ⟨rank, hrank⟩ := hc
  -- A Group that keeps its successor, under any rank that agrees on the two.
  have hkept : ∀ id g g' next, c.group id = some g → c'.group id = some g' →
      g.supersededBy = some next → Continues g g' → g'.lifecycle = .released ∧
        rank id < rank next ∧
          ∃ successor, c'.group next = some successor ∧ successor.missionId = g'.missionId := by
    intro id g g' next hg hg' hnext hcont
    obtain ⟨hl, hlt, s, hs, hmission⟩ := hrank id g next hg hnext
    obtain ⟨s', hs'⟩ := h.group_kept next s hs
    refine ⟨hcont.released hl, hlt, s', hs', ?_⟩
    rw [h.mission_kept hs hs', hmission, h.mission_kept hg hg']
  by_cases hrevision : ∃ source target sourcePlan targetPlan,
      call = .supersedeMissionGroup source target sourcePlan targetPlan ∧ c' ≠ c
  · obtain ⟨source, target, _, _, rfl, hne⟩ := hrevision
    obtain ⟨hnew, g₀, s, hg₀, hs, hmission⟩ := h.supersede_cases.resolve_left hne
    have hst : source ≠ target := by
      rintro rfl
      cases hnew.symm.trans hg₀
    -- The new Group is younger than the one it replaces; nothing led to it before.
    refine ⟨fun id => if id = target then rank source + 1 else rank id, ?_⟩
    intro id g' next hg' hnext
    rcases h.successor_cases hg' hnext with ⟨g, hg, hg_next, hcont⟩ | ⟨_, _, hcall, hl⟩
    · obtain ⟨hl, hlt, hsucc⟩ := hkept id g g' next hg hg' hg_next hcont
      obtain ⟨-, -, s₀, hs₀, -⟩ := hrank id g next hg hg_next
      have hid : id ≠ target := by
        rintro rfl
        cases hnew.symm.trans hg
      have hnext' : next ≠ target := by
        rintro rfl
        cases hnew.symm.trans hs₀
      simp only [if_neg hid, if_neg hnext']
      exact ⟨hl, hlt, hsucc⟩
    · cases hcall
      simp only [if_neg hst, if_pos]
      exact ⟨hl, Nat.lt_succ_self _, s, hs, hmission.trans (h.mission_kept hg₀ hg').symm⟩
  · refine ⟨rank, fun id g' next hg' hnext => ?_⟩
    rcases h.successor_cases hg' hnext with ⟨g, hg, hg_next, hcont⟩ | ⟨sp, tp, hcall, hl⟩
    · exact hkept id g g' next hg hg' hg_next hcont
    · have hsame : c' = c := by
        by_contra hne
        exact hrevision ⟨id, next, sp, tp, hcall, hne⟩
      subst hsame
      exact hrank id g' next hg' hnext

lemma ControlPlane.Idle.successions (h : c.Idle) : c.Successions := by
  refine ⟨fun _ => 0, fun id g next hg => ?_⟩
  rw [ControlPlane.group, h.groups] at hg
  cases hg

/-! ### The walk of the checkpoint -/

lemma followSuccessors_ok (hgroups : c.MissionGroups)
    {rank : ExecutionGroupId → Nat} (hrank : ∀ id g next, c.group id = some g →
      g.supersededBy = some next → g.lifecycle = .released ∧ rank id < rank next ∧
        ∃ successor, c.group next = some successor ∧ successor.missionId = g.missionId)
    {fuel : Nat} {visited : List ExecutionGroupId} {current : ExecutionGroup}
    (hcurrent : c.group current.groupId = some current) (hnodup : visited.Nodup)
    (hvisited : ∀ id ∈ visited, (∃ g, c.group id = some g) ∧ rank id < rank current.groupId)
    (hfuel : c.groups.entries.length < fuel + visited.length) :
    followSuccessors c fuel visited current = .ok () := by
  induction fuel generalizing visited current with
  | zero =>
    -- More distinct Groups than there are.
    have hsub : visited ⊆ c.groups.keys := fun id hid =>
      mem_keys_iff.mpr (hvisited id hid).1
    have hle := (subperm_of_subset hnodup hsub).length_le
    rw [OrdMap.keys, length_map] at hle
    omega
  | succ fuel ih =>
    have hnew : visited.contains current.groupId = false := by
      rw [contains_eq_mem, decide_eq_false_iff_not]
      intro hmem
      exact Nat.lt_irrefl _ (hvisited _ hmem).2
    rw [followSuccessors, hnew, refuse_false]
    cases hnext : current.supersededBy with
    | none => rfl
    | some next =>
      obtain ⟨-, hlt, successor, hs, -⟩ := hrank _ current next hcurrent hnext
      have hid : successor.groupId = next := (hgroups next successor hs).planned.groupId
      show (okOr (c.group next) _ >>= fun successor => followSuccessors c fuel
        (current.groupId :: visited) successor) = .ok ()
      rw [hs, okOr_some]
      refine ih (by rw [hid]; exact hs) ?_ ?_ ?_
      · exact nodup_cons.mpr ⟨by simpa using hnew, hnodup⟩
      · intro id hmem
        rw [hid]
        rcases mem_cons.mp hmem with rfl | hmem
        · exact ⟨⟨current, hcurrent⟩, hlt⟩
        · exact ⟨(hvisited id hmem).1, (hvisited id hmem).2.trans hlt⟩
      · rw [length_cons]
        omega

lemma validateSupersession_ok (hgroups : c.MissionGroups) (hsucc : c.Successions)
    (hg : c.group id = some g) : validateSupersession c g = .ok () := by
  obtain ⟨_, hrank⟩ := hsucc
  have hmission := hgroups id g hg
  have hid : g.groupId = id := hmission.planned.groupId
  have hlive : (g.lifecycle == .superseded) = false := by simpa using hmission.lifecycle
  rw [validateSupersession, hlive, refuse_false]
  cases hnext : g.supersededBy with
  | none => rfl
  | some next =>
    obtain ⟨hl, hlt, successor, hs, hsm⟩ := hrank id g next hg hnext
    have hne : next ≠ id := by
      rintro rfl
      exact Nat.lt_irrefl _ hlt
    have hsid : successor.groupId = next := (hgroups next successor hs).planned.groupId
    have hvalid : (next == g.groupId || successor.missionId != g.missionId ||
        g.lifecycle != .released) = false := by
      rw [hid, hsm, hl]
      simpa using hne
    show (okOr (c.group next) _ >>= fun target => do
      refuse (next == g.groupId || target.missionId != g.missionId || g.lifecycle != .released) _
      followSuccessors c (c.groups.entries.length + 1) [g.groupId] target) = .ok ()
    rw [hs, okOr_some]
    show (refuse (next == g.groupId || successor.missionId != g.missionId ||
      g.lifecycle != .released) _ >>= fun _ =>
        followSuccessors c (c.groups.entries.length + 1) [g.groupId] successor) = .ok ()
    rw [hvalid, refuse_false]
    refine followSuccessors_ok hgroups hrank (by rw [hsid]; exact hs) (nodup_singleton _) ?_ ?_
    · intro id' hmem
      obtain rfl := mem_singleton.mp hmem
      rw [hid, hsid]
      exact ⟨⟨g, hg⟩, hlt⟩
    · rw [length_singleton]
      omega

end RoboGuide.Control
