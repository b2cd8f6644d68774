import RoboGuide.Control.Supersession
import RoboGuide.Proofs.FinishedGroups

/-!
# `RoboGuide.Proofs.MembershipHistory`: the generation of a Group counts its binding changes

A Group's `MembershipVersion` names a digest of its bindings and a generation. Over a run:

* the digest is the digest of the current bindings (`ExecutionGroup.VersionCurrent`);
* a call moves the generation by one if it changes the bindings and by nothing otherwise
  (`CountsChange`);
* two states of one Group with equal generations have equal bindings (`SameMembership`).

`refresh_membership` runs after the changed Group is stored, and fails when the generation is
the last `u64`. Such a call returns an error and leaves the new bindings under the old version,
so the three facts hold while every Group that a call refreshes can be counted
(`Call.Countable`).
-/

namespace RoboGuide.Control

open Domain Lib Fallible Option

variable {g g' g₁ : ExecutionGroup} {c : ControlPlane} {call : Call} {id : ExecutionGroupId}

/-! ### Membership -/

def ExecutionGroup.taskBindings (g : ExecutionGroup) : List (TaskRef ×ₗ CanonicalAssignment) :=
  g.taskExecutions.values.flatMap taskDigest

def ExecutionGroup.keptBindings (g : ExecutionGroup) :
    List (CoordinationContextId ×ₗ ContextRoleId ×ₗ NodeId ×ₗ List ResourceId) :=
  g.contextBindings.values.map fun b =>
    toLex (b.contextId, toLex (b.contextRoleId, toLex (b.assignment.nodeId,
      b.assignment.resourceIds.insertionSort (· ≤ ·))))

/-- The same bindings, in any order. -/
structure SameMembership (g g' : ExecutionGroup) : Prop where
  released : g'.lifecycle = .released ↔ g.lifecycle = .released
  legacy : (g'.assignments.map ExecutionGroup.canonical).Perm
    (g.assignments.map ExecutionGroup.canonical)
  tasks : g'.taskBindings.Perm g.taskBindings
  contexts : g'.keptBindings.Perm g.keptBindings

lemma membershipDigest_eq_iff (hid : g'.groupId = g.groupId)
    (hmission : g'.missionId = g.missionId) :
    g'.membershipDigest = g.membershipDigest ↔ SameMembership g g' := by
  have hreleased : ((g'.lifecycle == .released) = (g.lifecycle == .released)) ↔
      (g'.lifecycle = .released ↔ g.lifecycle = .released) := by
    rw [Bool.eq_iff_iff, beq_iff_eq, beq_iff_eq]
  have htasks := insertionSort_eq_iff g'.taskBindings g.taskBindings
  have hcontexts := insertionSort_eq_iff g'.keptBindings g.keptBindings
  unfold ExecutionGroup.membershipDigest
  rw [MembershipDigest.mk.injEq, hreleased, insertionSort_eq_iff]
  constructor
  · rintro ⟨-, -, hr, hl, ht, hc⟩
    exact ⟨hr, hl, htasks.mp ht, hcontexts.mp hc⟩
  · intro h
    exact ⟨hid, hmission, h.released, h.legacy, htasks.mpr h.tasks, hcontexts.mpr h.contexts⟩

/-! ### The Group a call refreshes -/

/-- The refresh of a changed Group finds a generation. -/
def ExecutionGroup.Countable (g : ExecutionGroup) : Prop :=
  ∀ v ∈ g.membershipVersion, v.generation < u64Max ∨ g.membershipDigest = v.bindingsDigest

instance (g : ExecutionGroup) : Decidable g.Countable :=
  inferInstanceAs (Decidable (∀ v ∈ g.membershipVersion, _ ∨ _))

/-- What `release_role_binding` hands to the refresh. -/
def roleReleaseRefreshed (c : ControlPlane) (id : ExecutionGroupId) (role : RoleId) :
    Except ControlError ExecutionGroup := do
  let g ← lookupGroup c id
  refuse (g.lifecycle != .blocked) (.invalidLifecycle g.lifecycle)
  let a ← okOr (g.assignments.find? fun a => a.roleId == role)
    (.invalidProposal s!"group has no active binding for role {role}")
  a.resourceIds.forM (validateRoleRelease c id g.taskRef role)
  pure (g.withoutLegacyRole role a)

/-- What `release_task_role_binding` hands to the refresh. -/
def taskRoleReleaseRefreshed (c : ControlPlane) (id : ExecutionGroupId) (task : TaskRef)
    (role : RoleId) : Except ControlError ExecutionGroup := do
  let g ← lookupGroup c id
  refuse (g.lifecycle != .blocked) (.invalidLifecycle g.lifecycle)
  let t ← okOr (g.taskExecution task) (.invalidProposal "Task execution is not registered")
  let a ← okOr (t.assignments.find? fun a => a.roleId == role)
    (.invalidProposal s!"Task has no role {role}")
  a.resourceIds.forM (validateTaskRoleRelease c id task role)
  pure (g.withoutTaskRole t task role a)

def recoveryRefreshed (c : ControlPlane) (need : RoleRecoveryNeed) :
    Except ControlError ExecutionGroup := do
  validateRoleRecoveryRelease c need
  let g ← lookupGroup c need.groupId
  let blocked := c.setGroup need.groupId { g with lifecycle := .blocked }
  if (g.taskExecution need.taskRef).isSome then
    taskRoleReleaseRefreshed blocked need.groupId need.taskRef need.roleId
  else roleReleaseRefreshed blocked need.groupId need.roleId

/-- The Group a call hands to `refresh_membership` once its checks passed. A Plan revision
refreshes a copy, which it drops when that fails. -/
def Call.refreshed (c : ControlPlane) : Call → Except ControlError ExecutionGroup
  | .bindTaskExecutionWithState e id plan => do
    validateBindEvidence c e id plan
    let (g, t, _) ← validateBind c e id plan
    pure (boundGroup g t plan)
  | .releaseTaskBindings id task resources => do
    let (g, t) ← validateTaskRelease c id task resources
    pure (g.setTask task (t.withAssignments (scopedAssignments t .context)))
  | .releaseContextBindings id context => do
    let g ← validateContextRelease c id context
    pure (g.withoutContext context)
  | .releaseRoleBinding id role => roleReleaseRefreshed c id role
  | .releaseTaskRoleBinding id task role => taskRoleReleaseRefreshed c id task role
  | .beginRoleRecovery need | .beginExecutionRecovery need => recoveryRefreshed c need
  | .rebindRoleWithState e r => do
    validateRebindEvidence c e r
    let (g, _) ← validateRebind c e r
    pure g
  | .releaseGroup id => do
    let (g, _) ← validateGroupRelease c id
    pure g.cleared
  | _ => .error (.invalidProposal "no Group is refreshed")

def Call.Countable (c : ControlPlane) (call : Call) : Prop :=
  ∀ g, call.refreshed c = .ok g → g.Countable

instance (c : ControlPlane) (call : Call) : Decidable (call.Countable c) :=
  match h : call.refreshed c with
  | .ok g => decidable_of_iff g.Countable (by simp [Call.Countable, h])
  | .error e => isTrue (by simp [Call.Countable, h])

/-! ### One change -/

def ExecutionGroup.VersionCurrent (g : ExecutionGroup) : Prop :=
  ∀ v, g.membershipVersion = some v → v.bindingsDigest = g.membershipDigest

/-- From `g` to `g'` the version follows the bindings. -/
structure Follows (g g' : ExecutionGroup) : Prop where
  groupId : g'.groupId = g.groupId
  missionId : g'.missionId = g.missionId
  unversioned : g.membershipVersion = none → g'.membershipVersion = none
  counted : ∀ v, g.membershipVersion = some v → ∃ v', g'.membershipVersion = some v' ∧
    v'.bindingsDigest = g'.membershipDigest ∧
    v'.generation = v.generation + if g'.membershipDigest = g.membershipDigest then 0 else 1

namespace Follows

lemma same (hg : g.VersionCurrent) (hid : g'.groupId = g.groupId)
    (hmission : g'.missionId = g.missionId) (hversion : g'.membershipVersion = g.membershipVersion)
    (hdigest : g'.membershipDigest = g.membershipDigest) : Follows g g' where
  groupId := hid
  missionId := hmission
  unversioned h := hversion.trans h
  counted v hv := by
    refine ⟨v, hversion.trans hv, (hg v hv).trans hdigest.symm, ?_⟩
    rw [if_pos hdigest, Nat.add_zero]

lemma refreshed (hg : g.VersionCurrent)
    (h : g₁.refreshMembership = .ok g') (hid : g₁.groupId = g.groupId)
    (hmission : g₁.missionId = g.missionId)
    (hversion : g₁.membershipVersion = g.membershipVersion) : Follows g g' := by
  have hsame : ∃ v, g' = { g₁ with membershipVersion := v } := refreshMembership_cases h
  have hdigest : g'.membershipDigest = g₁.membershipDigest := by
    obtain ⟨v, rfl⟩ := hsame
    rfl
  unfold ExecutionGroup.refreshMembership at h
  refine ⟨?_, ?_, ?_, ?_⟩
  · obtain ⟨v, rfl⟩ := hsame
    exact hid
  · obtain ⟨v, rfl⟩ := hsame
    exact hmission
  · intro hnone
    rw [hversion, hnone] at h
    cases h
    exact hversion.trans hnone
  · intro v hv
    rw [hversion, hv] at h
    dsimp only at h
    split at h
    · next hold =>
      cases h
      refine ⟨v, hversion.trans hv, hold.symm, ?_⟩
      rw [if_pos (hold.trans (hg v hv)), Nat.add_zero]
    · next hnew =>
      simp only [bind_eq_ok, okOr_eq_ok, pure_eq_ok] at h
      obtain ⟨n, hn, rfl⟩ := h
      have hsucc : n = v.generation + 1 := by
        unfold checkedSucc at hn
        split at hn
        · exact (some.inj hn).symm
        · cases hn
      refine ⟨_, rfl, rfl, ?_⟩
      have hchanged : g₁.membershipDigest ≠ g.membershipDigest := by
        rw [← hg v hv]
        exact hnew
      show n = _
      rw [hdigest, if_neg hchanged, hsucc]

lemma stored (hg : g.VersionCurrent) (h : Stored g₁ g')
    (hcount : g₁.Countable) (hid : g₁.groupId = g.groupId) (hmission : g₁.missionId = g.missionId)
    (hversion : g₁.membershipVersion = g.membershipVersion) : Follows g g' := by
  rcases h with h | ⟨⟨e, he⟩, -⟩
  · exact refreshed hg h hid hmission hversion
  · obtain ⟨g₂, hg₂⟩ := (refreshMembership_ok_iff g₁).mpr hcount
    cases he.symm.trans hg₂

lemma current (h : Follows g g') : g'.VersionCurrent := by
  intro v' hv'
  cases hv : g.membershipVersion with
  | none => cases (h.unversioned hv).symm.trans hv'
  | some v =>
    obtain ⟨v₁, hv₁, hdigest, -⟩ := h.counted v hv
    cases hv₁.symm.trans hv'
    exact hdigest

end Follows

lemma ExecutionGroup.VersionCurrent.regrouped {l : GroupLifecycle}
    (hg : g.VersionCurrent) (hold : g.lifecycle ≠ .released) (hnew : l ≠ .released) :
    Follows g { g with lifecycle := l } :=
  .same hg rfl rfl rfl (regrouped_digest hold hnew)

lemma ExecutionGroup.VersionCurrent.through_blocked
    (hg : g.VersionCurrent) (hlive : g.lifecycle ≠ .released)
    (h : ({ g with lifecycle := .blocked } : ExecutionGroup).VersionCurrent →
      Follows { g with lifecycle := .blocked } g') : Follows g g' := by
  have hdigest := regrouped_digest (l := .blocked) hlive (by decide)
  have hf := h (hg.regrouped hlive (by decide)).current
  refine ⟨hf.groupId, hf.missionId, hf.unversioned, fun v hv => ?_⟩
  rw [← hdigest]
  exact hf.counted v hv

lemma reboundGroup_ids {r : CommittedRecoveryAssignment}
    {slot : UnboundRole} (h : reboundGroup g r slot = .ok g') :
    g'.groupId = g.groupId ∧ g'.missionId = g.missionId := by
  rcases reboundGroup_ok h with ⟨t, -, -, rfl⟩ | ⟨-, -, rfl⟩ <;> exact ⟨rfl, rfl⟩

lemma GroupChange.follows (h : GroupChange c call id g') (hcount : call.Countable c)
    (hc : ∀ g, c.group id = some g → g.VersionCurrent) :
    (∃ g, c.group id = some g ∧ Follows g g') ∨ c.group id = none ∧ g'.MembershipCurrent := by
  induction h with
  | created new => exact .inr ⟨new, missionGroup_current _ _ _⟩
  | carried revision =>
    obtain ⟨_, -, -, -, -, hnew, -⟩ := validateRevision_source revision
    exact .inr ⟨hnew, carryCompleted_current (missionGroup_current _ _ _)⟩
  | superseded revision group stored =>
    exact .inl ⟨_, group, .refreshed (hc _ group) stored rfl rfl rfl⟩
  | moved move group guard =>
    refine .inl ⟨_, group, (hc _ group).regrouped (fun hl => ?_) (groupMove_live move).1⟩
    cases hl ▸ groupMove_unfinished move guard
  | activated group guard | completed group guard =>
    refine .inl ⟨_, group, (hc _ group).regrouped ?_ (by decide)⟩
    rcases guard with hl | hl <;> rw [hl] <;> decide
  | taskMoved move group execution =>
    exact .inl ⟨_, group, .same (hc _ group) rfl rfl rfl (setTask_digest execution rfl)⟩
  | taskActivated group execution =>
    exact .inl ⟨_, group, .same (hc _ group) rfl rfl rfl (withActive_digest execution)⟩
  | bound evidence valid stored =>
    have group := (validateBind_ok valid).group
    refine .inl ⟨_, group, .stored (hc _ group) stored (hcount _ ?_) rfl rfl rfl⟩
    simp [Call.refreshed, evidence, valid]
  | taskReleased valid stored =>
    have group := (validateTaskRelease_ok valid).group
    refine .inl ⟨_, group, .stored (hc _ group) stored (hcount _ ?_) rfl rfl rfl⟩
    simp [Call.refreshed, valid]
  | contextReleased valid stored =>
    have group := validateContextRelease_group valid
    refine .inl ⟨_, group, .stored (hc _ group) stored (hcount _ ?_) rfl rfl rfl⟩
    simp [Call.refreshed, valid]
  | roleReleased group blocked found owned stored =>
    refine .inl ⟨_, group, .stored (hc _ group) stored (hcount _ ?_) rfl rfl rfl⟩
    simp [Call.refreshed, roleReleaseRefreshed, lookupGroup, group, blocked, found]
    exact ⟨(), forM_eq_ok.mpr owned⟩
  | taskRoleReleased group blocked execution found owned stored =>
    refine .inl ⟨_, group, .stored (hc _ group) stored (hcount _ ?_) rfl rfl rfl⟩
    simp [Call.refreshed, taskRoleReleaseRefreshed, lookupGroup, group, blocked, execution, found]
    exact ⟨(), forM_eq_ok.mpr owned⟩
  | recoveryBlocked valid group =>
    exact .inl ⟨_, group, (hc _ group).regrouped (recovery_live valid group) (by decide)⟩
  | taskRecoveryReleased valid group task release ih
  | legacyRecoveryReleased valid group task release ih =>
    -- the release runs on the plane with the blocked Group
    have hlive := recovery_live valid group
    refine .inl ⟨_, group, (hc _ group).through_blocked hlive fun hblocked => ?_⟩
    simp only [setGroup_group, if_true, some.injEq, forall_eq', exists_eq_left',
      reduceCtorEq, false_and, or_false] at ih
    refine ih (fun g₁ hg₁ => hcount g₁ ?_) hblocked
    simpa [Call.refreshed, recoveryRefreshed, lookupGroup, valid, group, task] using hg₁
  | executionRecovery begun ih => exact ih hcount hc
  | rebound evidence valid stored =>
    obtain ⟨_, hv⟩ := validateRebind_ok valid
    obtain ⟨hid, hmission⟩ := reboundGroup_ids hv.rebound
    refine .inl ⟨_, hv.group, .stored (hc _ hv.group) stored (hcount _ ?_) hid hmission
      (reboundGroup_version hv.rebound)⟩
    simp [Call.refreshed, evidence, valid]
  | released valid stored =>
    have group := (validateGroupRelease_group valid).1
    refine .inl ⟨_, group, .stored (hc _ group) stored (hcount _ ?_) rfl rfl rfl⟩
    simp [Call.refreshed, valid]

/-! ### Runs -/

/-- Every Group's version names the digest of its bindings: what a restore demands. -/
def ControlPlane.VersionsCurrent (c : ControlPlane) : Prop :=
  ∀ id g, c.group id = some g → g.VersionCurrent

lemma Effect.follows {c' : ControlPlane} (h : Effect c call c')
    (hcount : call.Countable c) (hc : c.VersionsCurrent) (hg : c.group id = some g) :
    ∃ g', c'.group id = some g' ∧ Follows g g' := by
  obtain ⟨g', hg'⟩ := h.group_kept id g hg
  refine ⟨g', hg', ?_⟩
  rcases h.group_cases id g' hg' with hsame | hchange
  · cases hsame.symm.trans hg
    exact .same (hc id _ hg) rfl rfl rfl rfl
  · rcases hchange.follows hcount (hc id) with ⟨g₁, hg₁, hf⟩ | ⟨hnew, -⟩
    · cases hg₁.symm.trans hg
      exact hf
    · cases hnew.symm.trans hg

lemma Effect.versionsCurrent {c' : ControlPlane} (h : Effect c call c')
    (hcount : call.Countable c) (hc : c.VersionsCurrent) : c'.VersionsCurrent := by
  intro id g' hg'
  rcases h.group_cases id g' hg' with hsame | hchange
  · exact hc id g' hsame
  · rcases hchange.follows hcount (hc id) with ⟨g, -, hf⟩ | ⟨-, v, hv, -, hdigest⟩
    · exact hf.current
    · intro v' hv'
      cases hv.symm.trans hv'
      exact hdigest

abbrev World.CountedRun : World → World → Prop :=
  World.Run fun w call => call.Countable w.control

lemma World.CountedRun.versionsCurrent {w w' : World} (hrun : World.CountedRun w w')
    (hw : w.control.VersionsCurrent) : w'.control.VersionsCurrent :=
  hrun.invariant (P := fun w => w.control.VersionsCurrent) hw fun w call hcurrent hcall =>
    (call.effect w).versionsCurrent hcall.2 hcurrent

/-- The generation moves with the bindings from `g` to `g'`. -/
structure CountsChange (g g' : ExecutionGroup) : Prop where
  unchanged : SameMembership g g' →
    g'.membershipVersion.map (·.generation) = g.membershipVersion.map (·.generation)
  changed : ¬ SameMembership g g' →
    g'.membershipVersion.map (·.generation) = g.membershipVersion.map (·.generation + 1)

lemma Follows.countsChange (h : Follows g g') : CountsChange g g' := by
  have hiff := membershipDigest_eq_iff h.groupId h.missionId
  constructor
  · intro hsame
    cases hv : g.membershipVersion with
    | none => rw [h.unversioned hv, map_none]
    | some v =>
      obtain ⟨v', hv', -, hgen⟩ := h.counted v hv
      rw [if_pos (hiff.mpr hsame), Nat.add_zero] at hgen
      rw [hv', map_some, map_some, hgen]
  · intro hchanged
    cases hv : g.membershipVersion with
    | none => rw [h.unversioned hv, map_none, map_none]
    | some v =>
      obtain ⟨v', hv', -, hgen⟩ := h.counted v hv
      rw [if_neg (hiff.not.mpr hchanged)] at hgen
      rw [hv', map_some, map_some, hgen]

/-- `g'` is a later state of `g`: a later generation, or the same one and the same digest. -/
structure Later (g g' : ExecutionGroup) : Prop where
  groupId : g'.groupId = g.groupId
  missionId : g'.missionId = g.missionId
  version : ∀ v, g.membershipVersion = some v → ∃ v', g'.membershipVersion = some v' ∧
    (g'.membershipDigest = g.membershipDigest ∧ v'.generation = v.generation ∨
      v.generation < v'.generation)

lemma Later.refl (g : ExecutionGroup) : Later g g :=
  ⟨rfl, rfl, fun v hv => ⟨v, hv, .inl ⟨rfl, rfl⟩⟩⟩

lemma Later.step (h : Later g g₁) (hstep : Follows g₁ g') : Later g g' := by
  refine ⟨hstep.groupId.trans h.groupId, hstep.missionId.trans h.missionId, fun v hv => ?_⟩
  obtain ⟨v₁, hv₁, hlater⟩ := h.version v hv
  obtain ⟨v', hv', -, hgen⟩ := hstep.counted v₁ hv₁
  refine ⟨v', hv', ?_⟩
  by_cases hsame : g'.membershipDigest = g₁.membershipDigest
  · rw [if_pos hsame, Nat.add_zero] at hgen
    rw [hsame, hgen]
    exact hlater
  · rw [if_neg hsame] at hgen
    refine .inr ?_
    rcases hlater with ⟨-, _⟩ | _ <;> omega

lemma World.CountedRun.later {w w' : World} (hrun : World.CountedRun w w')
    (hw : w.control.VersionsCurrent)
    (hg : w.control.group id = some g) : ∃ g', w'.control.group id = some g' ∧ Later g g' := by
  induction hrun with
  | refl => exact ⟨g, hg, .refl g⟩
  | tail call hbefore hcall ih =>
    obtain ⟨g₁, hg₁, hlater⟩ := ih
    have hcurrent := World.CountedRun.versionsCurrent hbefore hw
    obtain ⟨g', hg', hstep⟩ := (call.effect _).follows hcall.2 hcurrent hg₁
    exact ⟨g', hg', hlater.step hstep⟩

/-- In `w`: versions name the digests of the current bindings, a call that meets `condition`
moves a generation with the bindings, and after calls that do, equal generations of one Group
mean equal bindings. -/
structure FollowsBindings (condition : World → Call → Prop) (w : World) : Prop where
  current : w.control.VersionsCurrent
  counts : ∀ call id g, call.Possible w → condition w call → w.control.group id = some g →
    ∃ g', (w.step call).control.group id = some g' ∧ CountsChange g g'
  identifies : ∀ w' id g g' v v', World.Run condition w w' → w.control.group id = some g →
    w'.control.group id = some g' → g.membershipVersion = some v →
    g'.membershipVersion = some v' → v'.generation = v.generation → SameMembership g g'

/-- A Group's version follows its bindings in every state of a run whose refreshed Groups can
be counted. -/
theorem membership_version_follows_bindings {w₀ w : World} (hstart : w₀.control.VersionsCurrent)
    (hrun : World.Run (fun w call => call.Countable w.control) w₀ w) :
    FollowsBindings (fun w call => call.Countable w.control) w := by
  have hcurrent := World.CountedRun.versionsCurrent hrun hstart
  refine ⟨hcurrent, fun call id g _ hcount hg => ?_, ?_⟩
  · obtain ⟨g', hg', hf⟩ := (call.effect w).follows hcount hcurrent hg
    exact ⟨g', hg', hf.countsChange⟩
  · intro w' id g g' v v' hlater hg hg' hv hv' hgen
    obtain ⟨g₁, hg₁, hl⟩ := World.CountedRun.later hlater hcurrent hg
    cases hg₁.symm.trans hg'
    obtain ⟨v₁, hv₁, hcases⟩ := hl.version v hv
    cases hv₁.symm.trans hv'
    rcases hcases with ⟨hdigest, -⟩ | _
    · exact (membershipDigest_eq_iff hl.groupId hl.missionId).mp hdigest
    · omega

namespace LastGeneration

open ReadySurvivor

/-- The failed Group of `ReadySurvivor` before its release, restored at some generation. -/
def failed (generation : Nat) : World :=
  let w := [Call.createMissionGroup group plan, .blockGroup group "lost",
    .failGroup group "lost"].foldl World.step start
  { w with kernel := { w.kernel with control := { w.control with
      groups := w.control.groups.mapValues fun _ g =>
        { g with membershipVersion := some ⟨generation, g.membershipDigest⟩ } } } }

lemma failed_current (generation : Nat) : (failed generation).control.VersionsCurrent := by
  intro id g hg v hv
  obtain ⟨g₀, -, rfl⟩ : ∃ g₀ : ExecutionGroup, _ ∧
      { g₀ with membershipVersion := some ⟨generation, g₀.membershipDigest⟩ } = g := by
    simpa [failed, World.control, ControlPlane.group, get?_mapValues] using hg
  cases hv
  rfl

end LastGeneration

/-- With generations left, the release of the failed Group is counted. -/
theorem counted_release_follows_bindings : FollowsBindings (fun w call => call.Countable w.control)
      ((LastGeneration.failed 7).step (.releaseGroup ReadySurvivor.group)) := by
  refine membership_version_follows_bindings (LastGeneration.failed_current 7) ?_
  exact .tail _ .refl (by decide +kernel)

/-- The release of a Group at the last generation fails after the Group is stored. -/
theorem exhausted_release_leaves_old_digest :
    ¬ ∀ w₀ w : World, w₀.control.VersionsCurrent → World.Run (fun _ _ => True) w₀ w →
      FollowsBindings (fun _ _ => True) w := by
  intro h
  have hrun : World.Run (fun _ _ => True) (LastGeneration.failed u64Max)
      ((LastGeneration.failed u64Max).step (.releaseGroup ReadySurvivor.group)) :=
    .tail _ .refl ⟨trivial, trivial⟩
  have hcurrent := (h _ _ (LastGeneration.failed_current u64Max) hrun).current
  have hstale : ((LastGeneration.failed u64Max).step
      (.releaseGroup ReadySurvivor.group)).control.groups.entries.all (fun e =>
        e.2.membershipVersion.all fun v => v.bindingsDigest == e.2.membershipDigest) = false := by
    decide +kernel
  refine Bool.false_ne_true (hstale.symm.trans (List.all_eq_true.mpr fun e he => ?_))
  rw [all_eq_true]
  intro v hv
  exact beq_iff_eq.mpr (hcurrent e.1 e.2 (mem_entries_iff.mp he) v hv)

end RoboGuide.Control
