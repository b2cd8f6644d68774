import RoboGuide.Control.Step

/-!
# `RoboGuide.Control.Frame`: what each change does to each table

`Effect` builds the plane a call leaves out of a few updates. For every update this module
says which tables it leaves alone and how it changes the entries of the others, so that an
invariant over one table is proved without unfolding an update.
-/

namespace RoboGuide.Control

open Domain Lib Fallible ControlPlane

variable {c c' : ControlPlane} {g g' : ExecutionGroup} {id id' : ExecutionGroupId}
  {charged c₁ : ControlPlane} {call : Call} {source target : ExecutionGroupId} {role : RoleId}

/-! ### Which tables a change leaves alone -/

section

variable (c : ControlPlane)

lemma reserveAssignments_frame (e : Evidence) (t : TaskExecution) (p : AssignmentProposal)
    (as : List RoleAssignment) : as.foldl (reserveAssignment e t p) c =
      { c with reservations := (as.foldl (reserveAssignment e t p) c).reservations } := by
  refine foldl_keeps (P := fun c' : ControlPlane => c' = { c with reservations := c'.reservations })
    (fun c₁ a _ h₁ => ?_) rfl
  unfold reserveAssignment
  split
  · exact h₁
  · refine foldl_keeps (P := fun c' : ControlPlane =>
        c' = { c with reservations := c'.reservations })
      (fun c₂ id _ h₂ => ?_) h₁
    unfold reserve
    split
    · exact h₂
    · rw [h₂]

lemma updateBindingReservation_frame (resource : ResourceId) (group : ExecutionGroupId)
    (task : TaskRef) (role : RoleId) (f : Reservation → Reservation) :
    c.updateBindingReservation resource group task role f = { c with
        reservations := (c.updateBindingReservation resource group task role f).reservations
        capacityLedger :=
          (c.updateBindingReservation resource group task role f).capacityLedger } := by
  unfold updateBindingReservation
  repeat' split
  all_goals rfl

lemma bindReservations_frame (group : ExecutionGroupId) (plan : CommittedPlan) :
    bindReservations group plan c = { c with
        reservations := (bindReservations group plan c).reservations
        capacityLedger := (bindReservations group plan c).capacityLedger } := by
  unfold bindReservations
  refine foldl_keeps (P := fun c' : ControlPlane => c' =
    { c with reservations := c'.reservations, capacityLedger := c'.capacityLedger })
    (fun c₁ a _ h₁ => ?_) rfl
  refine foldl_keeps (P := fun c' : ControlPlane => c' =
    { c with reservations := c'.reservations, capacityLedger := c'.capacityLedger })
    (fun c₂ id _ h₂ => ?_) h₁
  rw [updateBindingReservation_frame, h₂]

lemma reserveReplacements_frame (e : Evidence) (p : RecoveryAssignmentProposal)
    (ids : List ResourceId) : ids.foldl (reserveReplacement e p) c = { c with
        reservations := (ids.foldl (reserveReplacement e p) c).reservations
        capacityLedger := (ids.foldl (reserveReplacement e p) c).capacityLedger } := by
  refine foldl_keeps (P := fun c' : ControlPlane => c' =
    { c with reservations := c'.reservations, capacityLedger := c'.capacityLedger })
    (fun c₁ id _ h₁ => ?_) rfl
  unfold reserveReplacement
  split
  · rw [updateBindingReservation_frame, h₁]
  · rw [h₁]

lemma withActors_frame (mission : MissionId) (actors : List (ActorId × ActorBinding)) :
    c.withActors mission actors =
      { c with actorBindings := (c.withActors mission actors).actorBindings } := by
  unfold withActors
  refine foldl_keeps (P := fun c' : ControlPlane =>
      c' = { c with actorBindings := c'.actorBindings })
    (fun c₁ a _ h₁ => ?_) rfl
  split
  · exact h₁
  · rw [h₁]

lemma activateScheduledTask_frame (task : TaskRef) : c.activateScheduledTask task = { c with
      scheduledTasks := (c.activateScheduledTask task).scheduledTasks
      calendarVersion := (c.activateScheduledTask task).calendarVersion } := by
  unfold activateScheduledTask
  repeat' split
  all_goals rfl

lemma consumeScheduledTask_frame (task : TaskRef) : c.consumeScheduledTask task = { c with
      scheduledTasks := (c.consumeScheduledTask task).scheduledTasks
      calendarVersion := (c.consumeScheduledTask task).calendarVersion } := by
  unfold consumeScheduledTask
  split <;> rfl

lemma invalidateScheduledTask_frame (task : TaskRef) (reason : String) :
    c.invalidateScheduledTask task reason = { c with
      scheduledTasks := (c.invalidateScheduledTask task reason).scheduledTasks
      calendarVersion := (c.invalidateScheduledTask task reason).calendarVersion } := by
  unfold invalidateScheduledTask
  repeat' split
  all_goals rfl

lemma cancelScheduledMission_frame (mission : MissionId) :
    c.cancelScheduledMission mission = { c with
      scheduledTasks := (c.cancelScheduledMission mission).scheduledTasks
      calendarVersion := (c.cancelScheduledMission mission).calendarVersion } := by
  unfold cancelScheduledMission
  dsimp only
  split <;> rfl

end

/-! ### Groups -/

section

variable (c : ControlPlane) (group : ExecutionGroupId) (task : TaskRef)

@[simp] lemma retainCapacity_groups (keep : CapacityAllocation → Bool) :
    (c.retainCapacity keep).groups = c.groups := rfl

@[simp] lemma releaseCapacityTask_groups (role : Option RoleId) :
    (c.releaseCapacityTask group task role).groups = c.groups := rfl

@[simp] lemma releaseCapacityContext_groups (context : CoordinationContextId) :
    (c.releaseCapacityContext group context).groups = c.groups := rfl

@[simp] lemma releaseCapacityGroup_groups : (c.releaseCapacityGroup group).groups = c.groups :=
  rfl

@[simp] lemma releaseGroupOwnership_groups (resources : List ResourceId) :
    (c.releaseGroupOwnership group resources).groups = c.groups := by
  simp [releaseGroupOwnership]

@[simp] lemma activateScheduledTask_groups :
    (c.activateScheduledTask task).groups = c.groups := by
  rw [activateScheduledTask_frame]

@[simp] lemma consumeScheduledTask_groups : (c.consumeScheduledTask task).groups = c.groups := by
  rw [consumeScheduledTask_frame]

@[simp] lemma invalidateScheduledTask_groups (reason : String) :
    (c.invalidateScheduledTask task reason).groups = c.groups := by
  rw [invalidateScheduledTask_frame]

@[simp] lemma cancelScheduledMission_groups (mission : MissionId) :
    (c.cancelScheduledMission mission).groups = c.groups := by
  rw [cancelScheduledMission_frame]

@[simp] lemma bindReservations_groups (plan : CommittedPlan) :
    (bindReservations group plan c).groups = c.groups := by
  rw [bindReservations_frame]

@[simp] lemma withActors_groups (mission : MissionId) (actors : List (ActorId × ActorBinding)) :
    (c.withActors mission actors).groups = c.groups := by
  rw [withActors_frame]

@[simp] lemma reserveAssignments_groups (e : Evidence) (t : TaskExecution)
    (p : AssignmentProposal) (as : List RoleAssignment) :
    (as.foldl (reserveAssignment e t p) c).groups = c.groups := by
  rw [reserveAssignments_frame]

@[simp] lemma withCommitment_groups (e : Evidence) (p : RecoveryAssignmentProposal) :
    (c.withCommitment e p).groups = c.groups := by
  rw [withCommitment, reserveReplacements_frame]

@[simp] lemma withoutCommitment_groups (r : CommittedRecoveryAssignment) :
    (c.withoutCommitment r).groups = c.groups := by
  simp [withoutCommitment]

@[simp] lemma finishRebind_groups (r : CommittedRecoveryAssignment) :
    (c.finishRebind r).groups = c.groups := rfl

end

lemma commitLedgers_frame {p : AssignmentProposal}
    {capacity : Option (CapacityLedger × QuotaLedger)}
    (h : commitLedgers c p capacity = .ok charged) : charged = { c with
      capacityLedger := charged.capacityLedger
      quotaLedger := charged.quotaLedger
      quotaUnaccountedResources := charged.quotaUnaccountedResources
      calendarVersion := charged.calendarVersion } := by
  unfold commitLedgers at h
  split at h
  · simp only [bind_eq_ok, pure_eq_ok] at h
    obtain ⟨_, -, rfl⟩ := h
    rfl
  · simp only [bind_eq_ok, pure_eq_ok] at h
    obtain ⟨_, -, _, -, rfl⟩ := h
    split <;> rfl

lemma recoveryLedgers_frame {e : Evidence} {mission : MissionId}
    {role : RoleRequirement} {p : RecoveryAssignmentProposal}
    (h : recoveryLedgers c e mission role p = .ok charged) : charged = { c with
      capacityLedger := charged.capacityLedger
      quotaLedger := charged.quotaLedger
      quotaUnaccountedResources := charged.quotaUnaccountedResources
      calendarVersion := charged.calendarVersion } := by
  unfold recoveryLedgers at h
  simp only [bind_eq_ok, refuse_eq_ok] at h
  obtain ⟨_, -, _, -, _, -, h⟩ := h
  split at h
  · cases h
    rfl
  · obtain rfl := pure_eq_ok.mp h
    split <;> rfl

/-! ### Changes of one Group -/

/-- The Groups a call writes, each with the checks that passed before. -/
inductive GroupChange : ControlPlane → Call → ExecutionGroupId → ExecutionGroup → Prop where
  | created {c : ControlPlane} {id : ExecutionGroupId} {plan : MissionPlan} {first : PlannedTask}
      (new : c.group id = none) (head : plan.tasks.head? = some first) :
      GroupChange c (.createMissionGroup id plan) id (missionGroup id plan first)
  | carried {c : ControlPlane} {source target : ExecutionGroupId}
      {sourcePlan targetPlan : MissionPlan}
      {completed : List TaskId} {first : PlannedTask}
      (revision : validateRevision c source target sourcePlan targetPlan = .ok completed)
      (head : targetPlan.tasks.head? = some first) :
      GroupChange c (.supersedeMissionGroup source target sourcePlan targetPlan) target
        (carryCompleted completed (missionGroup target targetPlan first))
  | superseded {c : ControlPlane} {source target : ExecutionGroupId}
      {sourcePlan targetPlan : MissionPlan}
      {completed : List TaskId} {g g' : ExecutionGroup}
      (revision : validateRevision c source target sourcePlan targetPlan = .ok completed)
      (group : c.group source = some g)
      (stored : { g with supersededBy := some target }.cleared.refreshMembership = .ok g') :
      GroupChange c (.supersedeMissionGroup source target sourcePlan targetPlan) source g'
  | moved {c : ControlPlane} {call : Call} {id : ExecutionGroupId} {allowed : GroupLifecycle → Bool}
      {next : GroupLifecycle} {g : ExecutionGroup}
      (move : call.groupMove = some (id, allowed, next)) (group : c.group id = some g)
      (guard : allowed g.lifecycle = true) :
      GroupChange c call id { g with lifecycle := next }
  | activated {c : ControlPlane} {id : ExecutionGroupId} {g : ExecutionGroup}
      (group : c.group id = some g)
      (guard : g.lifecycle = .bound ∨ g.lifecycle = .adapted) :
      GroupChange c (.activateGroup id) id { g with lifecycle := .active }
  | completed {c : ControlPlane} {id : ExecutionGroupId} {g : ExecutionGroup}
      (group : c.group id = some g)
      (guard : g.lifecycle = .active ∨ g.lifecycle = .adapted)
      (bound : g.unboundRoles = ∅ ∧ g.taskUnboundRoles = ∅)
      (completed : ∀ t ∈ g.taskExecutions.values, t.lifecycle = .completed) :
      GroupChange c (.completeGroup id) id { g with lifecycle := .completed }
  | taskMoved {c : ControlPlane} {call : Call} {id : ExecutionGroupId} {task : TaskRef}
      {allowed : TaskExecutionLifecycle → Bool} {next : TaskExecutionLifecycle}
      {g : ExecutionGroup} {t : TaskExecution}
      (move : call.taskMove = some (id, task, allowed, next)) (group : c.group id = some g)
      (execution : g.taskExecution task = some t) (guard : allowed t.lifecycle = true) :
      GroupChange c call id (g.setTask task (t.withLifecycle next))
  | taskActivated {c : ControlPlane} {id : ExecutionGroupId} {task : TaskRef} {now : TimestampMs}
      {g : ExecutionGroup} {t : TaskExecution} (group : c.group id = some g)
      (execution : g.taskExecution task = some t)
      (assigned : exactlyAssigned t t.assignments = true) (ready : t.lifecycle = .ready) :
      GroupChange c (.activateTaskExecution id task now) id (g.withActive task t)
  | bound {c : ControlPlane} {e : Evidence} {id : ExecutionGroupId} {plan : CommittedPlan}
      {g g' : ExecutionGroup}
      {t : TaskExecution} {actors : OrdMap ActorId ActorBinding}
      (evidence : validateBindEvidence c e id plan = .ok ())
      (valid : validateBind c e id plan = .ok (g, t, actors))
      (stored : Stored (boundGroup g t plan) g') :
      GroupChange c (.bindTaskExecutionWithState e id plan) id g'
  | taskReleased {c : ControlPlane} {id : ExecutionGroupId} {task : TaskRef}
      {resources : List ResourceId}
      {g g' : ExecutionGroup} {t : TaskExecution}
      (valid : validateTaskRelease c id task resources = .ok (g, t))
      (stored : Stored (g.setTask task (t.withAssignments (scopedAssignments t .context))) g') :
      GroupChange c (.releaseTaskBindings id task resources) id g'
  | contextReleased {c : ControlPlane} {id : ExecutionGroupId} {context : CoordinationContextId}
      {g g' : ExecutionGroup} (valid : validateContextRelease c id context = .ok g)
      (stored : Stored (g.withoutContext context) g') :
      GroupChange c (.releaseContextBindings id context) id g'
  | roleReleased {c : ControlPlane} {id : ExecutionGroupId} {role : RoleId} {g g' : ExecutionGroup}
      {a : RoleAssignment} (group : c.group id = some g) (blocked : g.lifecycle = .blocked)
      (found : g.assignments.find? (fun a => a.roleId == role) = some a)
      (owned : ∀ r ∈ a.resourceIds, validateRoleRelease c id g.taskRef role r = .ok ())
      (stored : Stored (g.withoutLegacyRole role a) g') :
      GroupChange c (.releaseRoleBinding id role) id g'
  | taskRoleReleased {c : ControlPlane} {id : ExecutionGroupId} {task : TaskRef} {role : RoleId}
      {g g' : ExecutionGroup} {t : TaskExecution} {a : RoleAssignment}
      (group : c.group id = some g) (blocked : g.lifecycle = .blocked)
      (execution : g.taskExecution task = some t)
      (found : t.assignments.find? (fun a => a.roleId == role) = some a)
      (owned : ∀ r ∈ a.resourceIds, validateTaskRoleRelease c id task role r = .ok ())
      (stored : Stored (g.withoutTaskRole t task role a) g') :
      GroupChange c (.releaseTaskRoleBinding id task role) id g'
  | recoveryBlocked {c : ControlPlane} {need : RoleRecoveryNeed} {g : ExecutionGroup}
      (valid : validateRoleRecoveryRelease c need = .ok ())
      (group : c.group need.groupId = some g) :
      GroupChange c (.beginRoleRecovery need) need.groupId { g with lifecycle := .blocked }
  | taskRecoveryReleased {c : ControlPlane} {need : RoleRecoveryNeed} {g g' : ExecutionGroup}
      (valid : validateRoleRecoveryRelease c need = .ok ())
      (group : c.group need.groupId = some g)
      (task : (g.taskExecution need.taskRef).isSome = true)
      (release : GroupChange (c.setGroup need.groupId { g with lifecycle := .blocked })
        (.releaseTaskRoleBinding need.groupId need.taskRef need.roleId) need.groupId g') :
      GroupChange c (.beginRoleRecovery need) need.groupId g'
  | legacyRecoveryReleased {c : ControlPlane} {need : RoleRecoveryNeed} {g g' : ExecutionGroup}
      (valid : validateRoleRecoveryRelease c need = .ok ())
      (group : c.group need.groupId = some g)
      (task : g.taskExecution need.taskRef = none)
      (release : GroupChange (c.setGroup need.groupId { g with lifecycle := .blocked })
        (.releaseRoleBinding need.groupId need.roleId) need.groupId g') :
      GroupChange c (.beginRoleRecovery need) need.groupId g'
  | executionRecovery {c : ControlPlane} {need : RoleRecoveryNeed} {id : ExecutionGroupId}
      {g' : ExecutionGroup}
      (begun : GroupChange c (.beginRoleRecovery need) id g') :
      GroupChange c (.beginExecutionRecovery need) id g'
  | rebound {c : ControlPlane} {e : Evidence} {r : CommittedRecoveryAssignment}
      {g g' : ExecutionGroup}
      {slot : UnboundRole} (evidence : validateRebindEvidence c e r = .ok ())
      (valid : validateRebind c e r = .ok (g, slot)) (stored : Stored g g') :
      GroupChange c (.rebindRoleWithState e r) r.groupId g'
  | released {c : ControlPlane} {id : ExecutionGroupId} {g g' : ExecutionGroup}
      {resources : List ResourceId}
      (valid : validateGroupRelease c id = .ok (g, resources)) (stored : Stored g.cleared g') :
      GroupChange c (.releaseGroup id) id g'

lemma GroupChange.of_setGroup (hframe : c₁.groups = c.groups)
    (hchange : GroupChange c call id g) (h : (c₁.setGroup id g).group id' = some g') :
    c.group id' = some g' ∨ GroupChange c call id' g' := by
  rw [setGroup_group] at h
  split at h
  · next hid =>
    subst hid
    cases h
    exact .inr hchange
  · exact .inl (by rw [group, ← hframe]; exact h)

lemma validateGroupRelease_group {resources : List ResourceId}
    (h : validateGroupRelease c id = .ok (g, resources)) : c.group id = some g ∧
      (g.lifecycle = .completed ∨ g.lifecycle = .failed ∨ g.lifecycle = .superseded) := by
  simp only [validateGroupRelease, lookupGroup, bind_eq_ok, okOr_eq_ok, refuse_eq_ok, pure_eq_ok,
    Prod.mk.injEq] at h
  obtain ⟨g', hg, -, hl, -, -, -, -, -, -, -, -, rfl, -⟩ := h
  refine ⟨hg, ?_⟩
  cases hlife : g'.lifecycle <;> simp_all

lemma validateRevision_source {sourcePlan targetPlan : MissionPlan} {completed : List TaskId}
    (h : validateRevision c source target sourcePlan targetPlan = .ok completed) :
    ∃ g, c.group source = some g ∧ g.lifecycle = .blocked ∧ g.supersededBy = none ∧
      source ≠ target ∧ c.group target = none ∧ completed = completedTasks g := by
  simp only [validateRevision, lookupGroup, bind_eq_ok, okOr_eq_ok, refuse_eq_ok, pure_eq_ok] at h
  obtain ⟨-, -, g, hg, -, hrefuse, -, -, hc⟩ := h
  simp only [Bool.or_eq_false_iff, bne_eq_false_iff_eq, beq_eq_false_iff_ne] at hrefuse
  obtain ⟨⟨⟨⟨⟨⟨⟨hblocked, hnone⟩, hne⟩, hnew⟩, -⟩, -⟩, -⟩, -⟩ := hrefuse
  refine ⟨g, hg, hblocked, ?_, hne, ?_, hc.symm⟩
  · simpa using hnone
  · simpa [OrdMap.contains, group] using hnew

lemma group_of_groups (h : c'.groups = c.groups) (id : ExecutionGroupId) :
    c'.group id = c.group id := by
  rw [group, h, group]

lemma revised_group (c : ControlPlane) (plan : MissionPlan)
    (first : PlannedTask) (completed : List TaskId) (id : ExecutionGroupId)
    (hne : source ≠ target) : (c.revised source target plan first completed).group id =
      if id = target then some (carryCompleted completed (missionGroup target plan first))
      else if id = source then (c.group source).map fun g =>
        { g with supersededBy := some target, lifecycle := .superseded } else c.group id := by
  by_cases ht : id = target
  · subst ht
    simp [revised, group, setGroup, get?_modify, hne.symm]
  · by_cases hs : id = source
    · subst hs
      simp [revised, group, setGroup, get?_modify, get?_insert, ht, withSemantics]
    · simp [revised, group, setGroup, get?_modify, get?_insert, ht, hs, withSemantics]

lemma GroupChange.taskRoleReleased_id {task : TaskRef}
    (h : GroupChange c (.releaseTaskRoleBinding id task role) id' g) : id' = id := by
  cases h with
  | moved move | taskMoved move => cases move
  | taskRoleReleased => rfl

lemma GroupChange.roleReleased_id
    (h : GroupChange c (.releaseRoleBinding id role) id' g) : id' = id := by
  cases h with
  | moved move | taskMoved move => cases move
  | roleReleased => rfl

lemma Effect.group_cases (h : Effect c call c') :
    ∀ id g', c'.group id = some g' → c.group id = some g' ∨ GroupChange c call id g' := by
  intro id g' hg
  induction h with
  | unchanged | tenant | registry | topology | limits | nodeConstraint | candidateRestriction
  | reserved | preempted => exact .inl hg
  | consumed | invalidated | missionCancelled | recoveryAborted =>
    exact .inl (by simpa [group] using hg)
  | groupCreated new semantics head => exact GroupChange.of_setGroup (by rfl) (.created new head) hg
  | @groupSuperseded c source target sourcePlan targetPlan completed first g g₁ resources revision
      semantics head release stored =>
    obtain ⟨g₀, hg₀, -, -, hne, -, -⟩ := validateRevision_source revision
    have hsource := (validateGroupRelease_group release).1
    rw [revised_group _ _ _ _ _ hne, if_neg hne, if_pos rfl, hg₀] at hsource
    cases hsource
    rw [setGroup_group] at hg
    split at hg
    · next hid =>
      subst hid
      cases hg
      exact .inr (.superseded revision hg₀ stored)
    · next hid =>
      rw [group_of_groups (releaseGroupOwnership_groups _ _ _), revised_group _ _ _ _ _ hne] at hg
      split at hg
      · next ht =>
        subst ht
        cases hg
        exact .inr (.carried revision head)
      · exact .inl hg
  | groupMoved move group guard =>
    exact GroupChange.of_setGroup (by rfl) (.moved move group guard) hg
  | groupActivated group guard => exact GroupChange.of_setGroup (by rfl) (.activated group guard) hg
  | groupCompleted group guard bound completed =>
    exact GroupChange.of_setGroup (by rfl) (.completed group guard bound completed) hg
  | taskMoved move group execution guard =>
    exact GroupChange.of_setGroup (by rfl) (.taskMoved move group execution guard) hg
  | @taskActivated c id₀ task now g t scheduled window group execution assigned ready =>
    have hg : (c.setGroup id₀ (g.withActive task t)).group id = some g' := by
      cases scheduled with
      | true => simpa [ControlPlane.group] using hg
      | false => simpa using hg
    exact GroupChange.of_setGroup (by rfl) (.taskActivated group execution assigned ready) hg
  | committed support valid ledgers =>
    rw [group_of_groups (reserveAssignments_groups _ _ _ _ _), commitLedgers_frame ledgers] at hg
    exact .inl hg
  | bound evidence valid stored =>
    rw [group_of_groups (withActors_groups _ _ _)] at hg
    exact GroupChange.of_setGroup (bindReservations_groups _ _ _)
      (.bound evidence valid (.inl stored)) hg
  | boundPartly evidence valid exhausted =>
    exact GroupChange.of_setGroup (bindReservations_groups _ _ _)
      (.bound evidence valid (.inr ⟨⟨_, exhausted⟩, rfl⟩)) hg
  | taskReleased valid stored =>
    exact GroupChange.of_setGroup (by simp) (.taskReleased valid stored) hg
  | contextReleased valid stored =>
    exact GroupChange.of_setGroup (by simp) (.contextReleased valid stored) hg
  | roleReleased group blocked found owned stored =>
    exact GroupChange.of_setGroup (by simp) (.roleReleased group blocked found owned stored) hg
  | taskRoleReleased group blocked execution found owned stored =>
    exact GroupChange.of_setGroup (by simp)
      (.taskRoleReleased group blocked execution found owned stored) hg
  | taskRecoveryBegun valid group task release ih =>
    rcases ih hg with hold | hnew
    · exact GroupChange.of_setGroup rfl (.recoveryBlocked valid group) hold
    · obtain rfl : id = _ := GroupChange.taskRoleReleased_id hnew
      exact .inr (.taskRecoveryReleased valid group task hnew)
  | legacyRecoveryBegun valid group task release ih =>
    rcases ih hg with hold | hnew
    · exact GroupChange.of_setGroup rfl (.recoveryBlocked valid group) hold
    · obtain rfl : id = _ := GroupChange.roleReleased_id hnew
      exact .inr (.legacyRecoveryReleased valid group task hnew)
  | executionRecoveryBegun begun ih => exact (ih hg).imp_right .executionRecovery
  | recoveryCommitted valid ledgers =>
    rw [group_of_groups (withCommitment_groups _ _ _), recoveryLedgers_frame ledgers] at hg
    exact .inl hg
  | rebound evidence valid stored =>
    rw [group_of_groups (finishRebind_groups _ _)] at hg
    exact GroupChange.of_setGroup rfl (.rebound evidence valid (.inl stored)) hg
  | reboundPartly evidence valid exhausted =>
    exact GroupChange.of_setGroup rfl (.rebound evidence valid (.inr ⟨⟨_, exhausted⟩, rfl⟩)) hg
  | groupReleased valid stored =>
    exact GroupChange.of_setGroup (by simp) (.released valid stored) hg

/-! ### What stays -/

lemma Stored.eq (h : Stored g g') : ∃ v, g' = { g with membershipVersion := v } := by
  rcases h with h | ⟨-, rfl⟩
  · exact refreshMembership_cases h
  · exact ⟨g'.membershipVersion, rfl⟩

@[simp] lemma setTask_taskExecution (g : ExecutionGroup) (task task' : TaskRef)
    (t : TaskExecution) : (g.setTask task t).taskExecution task' = if task' = task then some t
      else g.taskExecution task' :=
  get?_insert _ _ _ _

lemma cleared_taskExecution (g : ExecutionGroup) (task : TaskRef) :
    g.cleared.taskExecution task = (g.taskExecution task).map (·.withAssignments []) :=
  get?_mapValues _ _ _

lemma withoutContext_taskExecution (g : ExecutionGroup) (context : CoordinationContextId)
    (task : TaskRef) : (g.withoutContext context).taskExecution task =
      (g.taskExecution task).map (withoutContextResources context (contextResources g context)) :=
  get?_mapValues _ _ _

lemma setGroup_keeps {c : ControlPlane} {id id' : ExecutionGroupId} {g g' : ExecutionGroup}
    (hframe : c₁.groups = c.groups) (hg : c.group id' = some g) :
    ∃ g₁, (c₁.setGroup id g').group id' = some g₁ := by
  rw [setGroup_group]
  split
  · exact ⟨g', rfl⟩
  · exact ⟨g, by rw [group_of_groups hframe]; exact hg⟩

lemma Effect.group_kept (h : Effect c call c') :
    ∀ id g, c.group id = some g → ∃ g', c'.group id = some g' := by
  induction h with
  | unchanged | tenant | registry | topology | limits | nodeConstraint | candidateRestriction
  | reserved | preempted => exact fun id g hg => ⟨g, hg⟩
  | consumed | invalidated | missionCancelled | recoveryAborted =>
    exact fun id g hg => ⟨g, by simpa [group] using hg⟩
  | groupCreated | groupMoved | groupActivated | groupCompleted | taskMoved | reboundPartly =>
    exact fun id g hg => setGroup_keeps rfl hg
  | taskReleased | contextReleased | roleReleased | taskRoleReleased | boundPartly
  | groupReleased => exact fun id g hg => setGroup_keeps (by simp) hg
  | groupSuperseded revision =>
    intro id g hg
    obtain ⟨_, -, -, -, hne, -, -⟩ := validateRevision_source revision
    rw [setGroup_group, group_of_groups (releaseGroupOwnership_groups _ _ _),
      revised_group _ _ _ _ _ hne]
    split
    · exact ⟨_, rfl⟩
    · split
      · exact ⟨_, rfl⟩
      · exact ⟨g, hg⟩
  | @taskActivated c id₀ task now g t scheduled =>
    intro id g₀ hg
    obtain ⟨g₁, hg₁⟩ := @setGroup_keeps c c id₀ id g₀ (g.withActive task t) rfl hg
    refine ⟨g₁, ?_⟩
    cases scheduled with
    | true => simpa [group] using hg₁
    | false => simpa using hg₁
  | committed support valid ledgers =>
    intro id g hg
    rw [group_of_groups (reserveAssignments_groups _ _ _ _ _), commitLedgers_frame ledgers]
    exact ⟨g, hg⟩
  | bound =>
    intro id g hg
    rw [group_of_groups (withActors_groups _ _ _)]
    exact setGroup_keeps (bindReservations_groups _ _ _) hg
  | taskRecoveryBegun valid group task release ih
  | legacyRecoveryBegun valid group task release ih =>
    intro id g hg
    obtain ⟨g₁, hg₁⟩ := setGroup_keeps rfl hg
    exact ih id g₁ hg₁
  | executionRecoveryBegun begun ih => exact ih
  | recoveryCommitted valid ledgers =>
    intro id g hg
    rw [group_of_groups (withCommitment_groups _ _ _), recoveryLedgers_frame ledgers]
    exact ⟨g, hg⟩
  | rebound =>
    intro id g hg
    rw [group_of_groups (finishRebind_groups _ _)]
    exact setGroup_keeps rfl hg

end RoboGuide.Control
