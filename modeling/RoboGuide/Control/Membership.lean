import RoboGuide.Control.Planned

/-!
# `RoboGuide.Control.Membership`: the version of a Group's bindings

A Group keeps a digest of its bindings and counts their changes. The count is a `u64`: a call
whose change needs a generation past the last one fails after the change is stored, and the
digest no longer matches. While generations are left (`Call.HasGeneration`) every Group's
version describes its bindings (`Effect.membershipsCurrent`).
-/

namespace RoboGuide.Control

open Domain Lib Fallible List

variable {g g' : ExecutionGroup} {t t' : TaskExecution} {task : TaskRef} {c : ControlPlane}
  {l : GroupLifecycle}

/-! ### Generations -/

def Call.refreshes : Call → Option ExecutionGroupId
  | .bindTaskExecutionWithState _ id _ | .releaseTaskBindings id _ _
  | .releaseContextBindings id _ | .releaseTaskRoleBinding id _ _ | .releaseRoleBinding id _
  | .releaseGroup id => some id
  | .beginRoleRecovery need | .beginExecutionRecovery need => some need.groupId
  | .rebindRoleWithState _ r => some r.groupId
  | _ => none

/-- The Group can count one more change. -/
def ExecutionGroup.HasGeneration (g : ExecutionGroup) : Prop :=
  ∀ v ∈ g.membershipVersion, v.generation < u64Max

instance (g : ExecutionGroup) : Decidable g.HasGeneration :=
  inferInstanceAs (Decidable (∀ v ∈ g.membershipVersion, v.generation < u64Max))

/-- The Group a call refreshes can count one more change. -/
def Call.HasGeneration (c : ControlPlane) (call : Call) : Prop :=
  ∀ id ∈ call.refreshes, ∀ g ∈ c.group id, g.HasGeneration

instance (c : ControlPlane) (call : Call) : Decidable (call.HasGeneration c) :=
  inferInstanceAs (Decidable (∀ id ∈ call.refreshes, ∀ g ∈ c.group id, g.HasGeneration))

lemma refreshMembership_of_generation (h : g.HasGeneration) :
    ∃ g', g.refreshMembership = .ok g' :=
  (refreshMembership_ok_iff g).mpr fun v hv => .inl (h v hv)

lemma Stored.refreshed (h : Stored g g') (hgen : g.HasGeneration) :
    g.refreshMembership = .ok g' := by
  rcases h with h | ⟨⟨e, he⟩, -⟩
  · exact h
  · obtain ⟨g₁, hg₁⟩ := refreshMembership_of_generation hgen
    cases he.symm.trans hg₁

/-! ### Current versions -/

/-- The Group's version describes its bindings. -/
def ExecutionGroup.MembershipCurrent (g : ExecutionGroup) : Prop :=
  ∃ v, g.membershipVersion = some v ∧ v.generation ≠ 0 ∧ v.bindingsDigest = g.membershipDigest

lemma refreshMembership_current {v : MembershipVersion}
    (h : g.refreshMembership = .ok g') (hv : g.membershipVersion = some v)
    (hgen : v.generation ≠ 0) : g'.MembershipCurrent := by
  unfold ExecutionGroup.refreshMembership at h
  rw [hv] at h
  dsimp only at h
  split at h
  · next hsame =>
    cases h
    exact ⟨v, hv, hgen, hsame.symm⟩
  · simp only [bind_eq_ok, okOr_eq_ok, pure_eq_ok] at h
    obtain ⟨n, hn, rfl⟩ := h
    refine ⟨_, rfl, ?_, rfl⟩
    have hsucc : n = v.generation + 1 := by
      unfold checkedSucc at hn
      split at hn
      · exact (Option.some.inj hn).symm
      · cases hn
    simp [hsucc]

variable {g₁ : ExecutionGroup} {call : Call}

lemma ExecutionGroup.MembershipCurrent.refreshed
    (h : g.MembershipCurrent) (hr : g₁.refreshMembership = .ok g')
    (hversion : g₁.membershipVersion = g.membershipVersion) : g'.MembershipCurrent := by
  obtain ⟨v, hv, hgen, -⟩ := h
  exact refreshMembership_current hr (hversion.trans hv) hgen

lemma ExecutionGroup.MembershipCurrent.stored
    (h : g.MembershipCurrent) (hgen : g.HasGeneration) (hs : Stored g₁ g')
    (hversion : g₁.membershipVersion = g.membershipVersion) : g'.MembershipCurrent := by
  refine h.refreshed (hs.refreshed ?_) hversion
  rw [ExecutionGroup.HasGeneration, hversion]
  exact hgen

lemma ExecutionGroup.MembershipCurrent.same (h : g.MembershipCurrent)
    (hversion : g'.membershipVersion = g.membershipVersion)
    (hdigest : g'.membershipDigest = g.membershipDigest) : g'.MembershipCurrent := by
  obtain ⟨v, hv, hgen, hd⟩ := h
  exact ⟨v, hversion.trans hv, hgen, hd.trans hdigest.symm⟩

/-! ### What the digest sees -/

def taskDigest (t : TaskExecution) : List (TaskRef ×ₗ CanonicalAssignment) :=
  t.assignments.map fun a => toLex (t.taskRef, ExecutionGroup.canonical a)

lemma membershipDigest_congr (hid : g'.groupId = g.groupId)
    (hmission : g'.missionId = g.missionId) (hlegacy : g'.assignments = g.assignments)
    (hcontexts : g'.contextBindings = g.contextBindings)
    (hreleased : g'.lifecycle = .released ↔ g.lifecycle = .released)
    (htasks : g'.taskExecutions.values.flatMap taskDigest =
      g.taskExecutions.values.flatMap taskDigest) : g'.membershipDigest = g.membershipDigest := by
  have hr : (g'.lifecycle == .released) = (g.lifecycle == .released) := by
    rw [Bool.eq_iff_iff, beq_iff_eq, beq_iff_eq]
    exact hreleased
  unfold ExecutionGroup.membershipDigest
  rw [hid, hmission, hlegacy, hcontexts, hr]
  have htasks' := congrArg (insertionSort (· ≤ ·)) htasks
  unfold taskDigest at htasks'
  rw [htasks']

lemma tasksDigest_mapValues (m : OrdMap TaskRef TaskExecution)
    {f : TaskRef → TaskExecution → TaskExecution}
    (h : ∀ task t, m.get? task = some t → taskDigest (f task t) = taskDigest t) :
    (m.mapValues f).values.flatMap taskDigest = m.values.flatMap taskDigest := by
  rw [OrdMap.values_mapValues, flatMap_map, OrdMap.values, flatMap_map]
  refine flatMap_congr fun e he => ?_
  exact h e.1 e.2 (mem_entries_iff.mp he)

lemma tasksDigest_insert {m : OrdMap TaskRef TaskExecution} (ht : m.get? task = some t)
    (h : taskDigest t' = taskDigest t) :
    (m.insert task t').values.flatMap taskDigest = m.values.flatMap taskDigest := by
  -- Rewriting one Task is rewriting every Task, the others to themselves.
  have hmap : m.insert task t' = m.mapValues fun task' t₀ => if task' = task then t' else t₀ := by
    ext task' : 1
    rw [get?_insert, get?_mapValues]
    by_cases htask : task' = task
    · subst htask
      simp [ht]
    · simp [htask]
  rw [hmap]
  refine tasksDigest_mapValues m fun task' t₀ ht₀ => ?_
  split
  · next htask =>
    subst htask
    rw [Option.some.inj (ht₀.symm.trans ht)]
    exact h
  · rfl

lemma missionGroup_current (id : ExecutionGroupId) (plan : MissionPlan) (first : PlannedTask) :
    (missionGroup id plan first).MembershipCurrent := by
  refine ⟨_, rfl, Nat.one_ne_zero, ?_⟩
  refine membershipDigest_congr rfl rfl rfl rfl Iff.rfl ?_
  refine (List.flatMap_eq_nil_iff.mpr fun t ht => ?_).symm
  obtain ⟨task, hget⟩ := mem_values_iff.mp ht
  obtain ⟨p, -, -, rfl⟩ := (missionGroup_taskExecution plan id first task t).mp hget
  rfl

lemma carryCompleted_current {completed : List TaskId}
    (h : g.MembershipCurrent) : (carryCompleted completed g).MembershipCurrent := by
  refine h.same rfl (membershipDigest_congr rfl rfl rfl rfl Iff.rfl ?_)
  refine tasksDigest_mapValues _ fun task t _ => ?_
  split <;> rfl

lemma regrouped_digest (hold : g.lifecycle ≠ .released) (hnew : l ≠ .released) :
    ({ g with lifecycle := l } : ExecutionGroup).membershipDigest = g.membershipDigest := by
  refine membershipDigest_congr rfl rfl rfl rfl ?_ rfl
  exact ⟨fun hl => absurd hl hnew, fun hl => absurd hl hold⟩

lemma regrouped_current (h : g.MembershipCurrent)
    (hold : g.lifecycle ≠ .released) (hnew : l ≠ .released) :
    ({ g with lifecycle := l } : ExecutionGroup).MembershipCurrent :=
  h.same rfl (regrouped_digest hold hnew)

lemma setTask_digest
    (ht : g.taskExecution task = some t) (hdigest : taskDigest t' = taskDigest t) :
    (g.setTask task t').membershipDigest = g.membershipDigest :=
  membershipDigest_congr rfl rfl rfl rfl Iff.rfl (tasksDigest_insert ht hdigest)

lemma withActive_digest (ht : g.taskExecution task = some t) :
    (g.withActive task t).membershipDigest = g.membershipDigest := by
  have hset : (g.setTask task (t.withLifecycle .active)).membershipDigest = g.membershipDigest :=
    setTask_digest ht rfl
  rw [← hset]
  refine membershipDigest_congr rfl rfl rfl rfl ?_ rfl
  show (if g.lifecycle = .bound ∨ g.lifecycle = .adapted then GroupLifecycle.active
    else g.lifecycle) = .released ↔ g.lifecycle = .released
  split
  · next hl => rcases hl with hl | hl <;> rw [hl] <;> decide
  · exact Iff.rfl

/-! ### One step -/

lemma reboundGroup_version {r : CommittedRecoveryAssignment}
    {slot : UnboundRole} (h : reboundGroup g r slot = .ok g') :
    g'.membershipVersion = g.membershipVersion := by
  rcases reboundGroup_ok h with ⟨t, -, -, rfl⟩ | ⟨-, -, rfl⟩ <;> rfl

lemma recovery_live {need : RoleRecoveryNeed}
    (valid : validateRoleRecoveryRelease c need = .ok ()) (hg : c.group need.groupId = some g) :
    g.lifecycle ≠ .released := by
  obtain ⟨g₀, hg₀, hworking⟩ := validateRoleRecoveryRelease_working valid
  cases hg₀.symm.trans hg
  intro hl
  rw [hl] at hworking
  cases hworking

lemma GroupChange.membershipCurrent {id : ExecutionGroupId}
    (h : GroupChange c call id g') (hgen : call.HasGeneration c)
    (hc : ∀ g, c.group id = some g → g.MembershipCurrent) : g'.MembershipCurrent := by
  induction h with
  | created => exact missionGroup_current _ _ _
  | carried => exact carryCompleted_current (missionGroup_current _ _ _)
  | superseded revision group stored => exact (hc _ group).refreshed stored rfl
  | moved move group guard =>
    exact regrouped_current (hc _ group)
      (fun hl => by cases hl ▸ groupMove_unfinished move guard) (groupMove_live move).1
  | activated group guard | completed group guard =>
    refine regrouped_current (hc _ group) ?_ (by decide)
    rcases guard with hl | hl <;> rw [hl] <;> decide
  | taskMoved move group execution => exact (hc _ group).same rfl (setTask_digest execution rfl)
  | taskActivated group execution => exact (hc _ group).same rfl (withActive_digest execution)
  | bound evidence valid stored =>
    have hv := validateBind_ok valid
    exact (hc _ hv.group).stored (hgen _ rfl _ hv.group) stored rfl
  | taskReleased valid stored =>
    have hv := validateTaskRelease_ok valid
    exact (hc _ hv.group).stored (hgen _ rfl _ hv.group) stored rfl
  | contextReleased valid stored =>
    have hg := validateContextRelease_group valid
    exact (hc _ hg).stored (hgen _ rfl _ hg) stored rfl
  | roleReleased group blocked found owned stored
  | taskRoleReleased group blocked execution found owned stored =>
    exact (hc _ group).stored (hgen _ rfl _ group) stored rfl
  | recoveryBlocked valid group =>
    exact regrouped_current (hc _ group) (recovery_live valid group) (by decide)
  | taskRecoveryReleased valid group task release ih
  | legacyRecoveryReleased valid group task release ih =>
    have hblocked := regrouped_current (l := .blocked) (hc _ group) (recovery_live valid group)
      (by decide)
    refine ih ?_ ?_
    · intro id hid g₁ hg₁
      cases hid
      rw [Option.mem_def, setGroup_group, if_pos rfl] at hg₁
      cases hg₁
      have hleft := hgen _ rfl _ group
      exact hleft
    · intro g₁ hg₁
      rw [setGroup_group, if_pos rfl] at hg₁
      cases hg₁
      exact hblocked
  | executionRecovery begun ih => exact ih hgen hc
  | rebound evidence valid stored =>
    obtain ⟨_, hv⟩ := validateRebind_ok valid
    exact (hc _ hv.group).stored (hgen _ rfl _ hv.group) stored (reboundGroup_version hv.rebound)
  | released valid stored =>
    have hg := (validateGroupRelease_group valid).1
    exact (hc _ hg).stored (hgen _ rfl _ hg) stored rfl

/-- Every Group's version describes its bindings. -/
def ControlPlane.MembershipsCurrent (c : ControlPlane) : Prop :=
  ∀ id g, c.group id = some g → g.MembershipCurrent

lemma Effect.membershipsCurrent {c' : ControlPlane} (h : Effect c call c')
    (hgen : call.HasGeneration c) (hc : c.MembershipsCurrent) : c'.MembershipsCurrent := by
  intro id g' hg'
  rcases h.group_cases id g' hg' with hsame | hchange
  · exact hc id g' hsame
  · exact hchange.membershipCurrent hgen (hc id)

lemma ControlPlane.Idle.membershipsCurrent (h : c.Idle) : c.MembershipsCurrent := by
  intro id g hg
  rw [ControlPlane.group, h.groups] at hg
  cases hg

end RoboGuide.Control
