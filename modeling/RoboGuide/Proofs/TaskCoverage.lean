import RoboGuide.Control.Actors
import RoboGuide.Lib.Position

/-!
# `RoboGuide.Proofs.TaskCoverage`: which Roles of a Task are accounted for

`validate_task_checkpoint_coverage` asks, by the lifecycle of a Task, whether all of its
Roles are bound or waiting for recovery. `release_task_bindings` and Role recovery do not ask
the same. Coverage is kept by every call that meets `Call.KeepsCoverage`
(`Effect.tasksCovered`).
-/

namespace RoboGuide.Control

open Domain Lib Fallible List ControlPlane ExecutionGroup OrdSet

variable {v : TaskView} {c : ControlPlane} {as : List RoleAssignment} {call : Call}
  {id : ExecutionGroupId} {task : TaskRef}

/-! ### Coverage -/

namespace TaskView

/-- The Role is bound or waits for recovery. -/
def Represented (v : TaskView) (role : RoleId) : Prop :=
  (∃ a ∈ v.execution.assignments, a.roleId = role) ∨ ∃ slot, v.slots role = some slot

/-- Every Role is represented. -/
def Exact (v : TaskView) : Prop :=
  ∀ role, v.execution.roleScopes.contains role = true → v.Represented role

/-- No Role waits for recovery. -/
def Settled (v : TaskView) : Prop := ∀ role, v.slots role = none

/-- No Role is represented. -/
def Bare (v : TaskView) : Prop := v.execution.assignments = [] ∧ v.Settled

def Coverage (v : TaskView) : TaskExecutionLifecycle → Prop
  | .pending => v.Bare
  | .ready => v.Settled ∧ (v.execution.assignments = [] ∨ v.Exact)
  | .awaitingSatisfaction => v.Settled ∧ v.Exact
  | .completed => v.Settled
  | .active | .blocked | .failed | .satisfactionRejected | .cancelled => v.Exact

end TaskView

/-- The Roles of the Task are assigned or waiting, as its lifecycle asks. -/
structure Covered (v : TaskView) : Prop where
  distinct : (v.execution.assignments.map (·.roleId)).Nodup
  known : ∀ a ∈ v.execution.assignments, v.execution.roleScopes.contains a.roleId = true
  waiting : ∀ role slot, v.slots role = some slot →
    v.execution.roleScopes.contains role = true ∧ ∀ a ∈ v.execution.assignments, a.roleId ≠ role
  released : v.group = .released → v.Bare
  coverage : v.group ≠ .released → v.Coverage v.execution.lifecycle

/-- A Task that ended without success. -/
def unsuccessful : TaskExecutionLifecycle → Bool
  | .failed | .satisfactionRejected | .cancelled => true
  | _ => false

/-- A Role of the Task may be given up for recovery: if it is bound, the lifecycle of the Task
admits a Role that waits. -/
def mayWait (t : TaskExecution) (role : RoleId) : Prop :=
  (t.assignments.any fun a => a.roleId == role) = true →
    t.lifecycle ∉ [.ready, .awaitingSatisfaction, .completed]

instance (t : TaskExecution) (role : RoleId) : Decidable (mayWait t role) :=
  inferInstanceAs (Decidable (_ → _))

/-- What a call must respect: an unsuccessful Task gives back no Task-scoped binding, a Task
does not end its execution while a Role of it waits, a Role is given up only where it may wait,
and nothing is bound in a released Group. -/
def Call.KeepsCoverage (c : ControlPlane) : Call → Prop
  | .releaseTaskBindings id task _ => ∀ g ∈ c.group id, ∀ t ∈ g.taskExecution task,
      unsuccessful t.lifecycle = true → scopedAssignments t .task = []
  | .recordTaskExecutionCompleted id task => ∀ g ∈ c.group id,
      ∀ key ∈ g.taskUnboundRoles.keys, (ofLex key).1 ≠ task
  | .bindTaskExecutionWithState _ id _ => ∀ g ∈ c.group id, g.lifecycle ≠ .released
  | .releaseTaskRoleBinding id task role => ∀ g ∈ c.group id, ∀ t ∈ g.taskExecution task,
      mayWait t role
  | .beginRoleRecovery need | .beginExecutionRecovery need => ∀ g ∈ c.group need.groupId,
      ∀ t ∈ g.taskExecution need.taskRef, mayWait t need.roleId
  | _ => True

instance (c : ControlPlane) (call : Call) : Decidable (call.KeepsCoverage c) := by
  apply @Call.casesOn _ call <;> intros <;> unfold Call.KeepsCoverage <;> infer_instance

/-! ### One change -/

/-- A Task without bindings. -/
lemma Covered.of_bare (h : v.Bare)
    (hl : v.execution.lifecycle = .pending ∨ v.execution.lifecycle = .completed ∨
      v.group = .released) : Covered v where
  distinct := by simp [h.1]
  known := by simp [h.1]
  waiting := fun role slot hslot => by simp [h.2 role] at hslot
  released := fun _ => h
  coverage := fun hlive => by
    rcases hl with hl | hl | hl
    · rw [hl]
      exact h
    · rw [hl]
      exact h.2
    · exact absurd hl hlive

lemma Covered.withLifecycle (h : Covered v) {l : TaskExecutionLifecycle}
    (hl : v.group ≠ .released → v.Coverage v.execution.lifecycle → v.Coverage l) :
    Covered (v.withLifecycle l) where
  distinct := h.distinct
  known := h.known
  waiting := h.waiting
  released := h.released
  coverage := fun hlive => hl hlive (h.coverage hlive)

lemma Covered.withGroup (h : Covered v) {l : GroupLifecycle}
    (hl : l = v.group ∨ v.group ≠ .released ∧ l ≠ .released) : Covered (v.withGroup l) where
  distinct := h.distinct
  known := h.known
  waiting := h.waiting
  released := fun hr => by
    rcases hl with rfl | ⟨-, hlive⟩
    · exact h.released hr
    · exact absurd hr hlive
  coverage := fun hlive => by
    rcases hl with rfl | ⟨hv, -⟩
    · exact h.coverage hlive
    · exact h.coverage hv

lemma Covered.mapAssignments (h : Covered v)
    (hroles : as.map (·.roleId) = v.execution.assignments.map (·.roleId)) :
    Covered (v.withAssignments as) := by
  have hmem : ∀ role, (∃ a ∈ as, a.roleId = role) ↔
      ∃ a ∈ v.execution.assignments, a.roleId = role := by
    intro role
    rw [← mem_map, hroles, mem_map]
  have hnil : as = [] ↔ v.execution.assignments = [] := by
    rw [← map_eq_nil_iff, hroles, map_eq_nil_iff]
  have hexact : v.Exact → (v.withAssignments as).Exact := fun he role hrole =>
    (he role hrole).imp_left (hmem role).mpr
  refine ⟨?_, ?_, ?_, ?_, ?_⟩
  · show (as.map (·.roleId)).Nodup
    rw [hroles]
    exact h.distinct
  · intro a ha
    obtain ⟨a', ha', hrole⟩ := (hmem a.roleId).mp ⟨a, ha, rfl⟩
    show v.execution.roleScopes.contains a.roleId = true
    rw [← hrole]
    exact h.known a' ha'
  · intro role slot hslot
    obtain ⟨hknown, hfree⟩ := h.waiting role slot hslot
    refine ⟨hknown, fun a ha hrole => ?_⟩
    obtain ⟨a', ha', hrole'⟩ := (hmem role).mp ⟨a, ha, hrole⟩
    exact hfree a' ha' hrole'
  · exact fun hr => ⟨hnil.mpr (h.released hr).1, (h.released hr).2⟩
  · intro hlive
    have hc := h.coverage hlive
    show (v.withAssignments as).Coverage v.execution.lifecycle
    cases hl : v.execution.lifecycle with
    | pending =>
      rw [hl] at hc
      exact ⟨hnil.mpr hc.1, hc.2⟩
    | ready =>
      rw [hl] at hc
      exact ⟨hc.1, hc.2.imp hnil.mpr hexact⟩
    | awaitingSatisfaction =>
      rw [hl] at hc
      exact ⟨hc.1, hexact hc.2⟩
    | completed =>
      rw [hl] at hc
      exact hc
    | active | blocked | failed | satisfactionRejected | cancelled =>
      rw [hl] at hc
      exact hexact hc

/-! ### Changes of the bindings -/

lemma missionGroup_bare {plan : MissionPlan} {first : PlannedTask}
    (h : (missionGroup id plan first).view task = some v) :
    v.Bare ∧ v.execution.lifecycle = .pending := by
  obtain ⟨t, ht, rfl⟩ := view_eq_some.mp h
  obtain ⟨p, -, -, rfl⟩ := (missionGroup_taskExecution plan id first task t).mp ht
  exact ⟨⟨rfl, fun _ => rfl⟩, rfl⟩

lemma exact_of_roles (h : ofList (as.map (·.roleId)) = ofList v.execution.roleScopes.keys) :
    (v.withAssignments as).Exact ∧ ∀ a ∈ as, v.execution.roleScopes.contains a.roleId = true := by
  have hmem : ∀ role, (∃ a ∈ as, a.roleId = role) ↔
      v.execution.roleScopes.contains role = true := by
    intro role
    rw [← mem_map, ← contains_ofList, h, contains_ofList, mem_keys_iff, contains_eq_true_iff]
  exact ⟨fun role hrole => .inl ((hmem role).mpr hrole),
      fun a ha => (hmem a.roleId).mp ⟨a, ha, rfl⟩⟩

section

variable (h : Covered v)
include h

lemma Covered.bound (hlive : v.group ≠ .released) (hready : v.execution.lifecycle = .ready)
    (has : validateTaskAssignments v.execution as = .ok ()) : Covered (v.withAssignments as) := by
  simp only [validateTaskAssignments, bind_eq_ok, refuse_eq_ok] at has
  obtain ⟨_, hroles, hdistinct⟩ := has
  obtain ⟨hexact, hknown⟩ := exact_of_roles (v := v) (by simpa using hroles : _ = _).symm
  have hsettled : v.Settled := by
    have hc := h.coverage hlive
    rw [hready] at hc
    exact hc.1
  have hnodup : (as.map (·.roleId)).Nodup := by simpa using hdistinct
  refine ⟨hnodup, hknown, ?_, fun hr => absurd hr hlive, fun _ => ?_⟩
  · intro role slot hslot
    cases (hsettled role).symm.trans hslot
  · show (v.withAssignments as).Coverage v.execution.lifecycle
    rw [hready]
    exact ⟨hsettled, .inr hexact⟩

lemma Covered.taskReleased
    (hl : v.execution.lifecycle = .completed ∨ scopedAssignments v.execution .task = []) :
    Covered (v.withAssignments (scopedAssignments v.execution .context)) := by
  have hsub : (scopedAssignments v.execution .context).Sublist v.execution.assignments :=
    filter_sublist
  rcases hl with hdone | hnone
  · refine ⟨h.distinct.sublist (hsub.map _), fun a ha => h.known a (hsub.subset ha), ?_, ?_, ?_⟩
    · intro role slot hslot
      obtain ⟨hknown, hfree⟩ := h.waiting role slot hslot
      exact ⟨hknown, fun a ha => hfree a (hsub.subset ha)⟩
    · intro hr
      obtain ⟨hnil, hsettled⟩ := h.released hr
      refine ⟨?_, hsettled⟩
      show scopedAssignments v.execution .context = []
      rw [scopedAssignments, hnil, filter_nil]
    · intro hlive
      have hc := h.coverage hlive
      show (v.withAssignments _).Coverage v.execution.lifecycle
      rw [hdone] at hc ⊢
      exact hc
  · -- Without a Task-scoped binding nothing is given up.
    have hall : scopedAssignments v.execution .context = v.execution.assignments := by
      refine filter_eq_self.mpr fun a ha => ?_
      have hscope := filter_eq_nil_iff.mp hnone a ha
      cases hs : v.execution.roleScope a.roleId with
      | task =>
        rw [hs] at hscope
        exact absurd rfl hscope
      | context => rfl
    exact h.mapAssignments (by rw [hall])

lemma Covered.withoutContext (context : CoordinationContextId)
    (resources : List ResourceId) : Covered (v.withoutContext context resources) := by
  unfold TaskView.withoutContext withoutContextResources
  split
  · exact h.mapAssignments (by rw [map_map]; rfl)
  · exact h

/-- A binding given up for recovery stays represented. -/
lemma Covered.withoutRole {role : RoleId} {a : RoleAssignment} (hlive : v.group ≠ .released)
    (hl : v.execution.lifecycle ∉ [.ready, .awaitingSatisfaction, .completed])
    (found : v.execution.assignments.find? (fun a => a.roleId == role) = some a) :
    Covered (v.withoutRole role a) := by
  have hrole : a.roleId = role := by simpa using find?_some found
  have hmem : a ∈ v.execution.assignments := mem_of_find?_eq_some found
  have hassignments : (v.withoutRole role a).execution.assignments =
      v.execution.assignments.filter fun a => a.roleId != role :=
    eraseIdx_findIdx_key h.distinct found
  have hslots : ∀ r, (v.withoutRole role a).slots r =
      if r = role then some ⟨a.nodeId, v.execution.assignments.findIdx fun a => a.roleId == role⟩
      else v.slots r := fun _ => rfl
  have hsub : ((v.withoutRole role a).execution.assignments).Sublist v.execution.assignments := by
    rw [hassignments]
    exact filter_sublist
  have hexact : v.Exact → (v.withoutRole role a).Exact := by
    intro he r hr
    by_cases hrr : r = role
    · exact .inr ⟨_, (hslots r).trans (if_pos hrr)⟩
    · rcases he r hr with ⟨b, hb, rfl⟩ | ⟨slot, hslot⟩
      · refine .inl ⟨b, ?_, rfl⟩
        rw [hassignments, mem_filter]
        exact ⟨hb, by simpa using hrr⟩
      · exact .inr ⟨slot, ((hslots r).trans (if_neg hrr)).trans hslot⟩
  refine ⟨h.distinct.sublist (hsub.map _), fun b hb => h.known b (hsub.subset hb), ?_, nofun, ?_⟩
  · intro r slot hslot
    rw [hslots] at hslot
    split at hslot
    · next hrr =>
      have hknown := h.known a hmem
      rw [hrole, ← hrr] at hknown
      refine ⟨hknown, fun b hb => ?_⟩
      rw [hassignments, mem_filter] at hb
      rw [hrr]
      simpa using hb.2
    · obtain ⟨hknown, hfree⟩ := h.waiting r slot hslot
      exact ⟨hknown, fun b hb => hfree b (hsub.subset hb)⟩
  · intro _
    have hc := h.coverage hlive
    show (v.withoutRole role a).Coverage v.execution.lifecycle
    cases hcase : v.execution.lifecycle with
    | pending =>
      rw [hcase] at hc
      rw [hc.1] at hmem
      cases hmem
    | ready | awaitingSatisfaction | completed =>
      rw [hcase] at hl
      exact absurd (by decide) hl
    | active | blocked | failed | satisfactionRejected | cancelled =>
      rw [hcase] at hc
      exact hexact hc

lemma Covered.withRole {r : CommittedRecoveryAssignment}
    {slot : UnboundRole} (hlive : v.group ≠ .released) (hslot : v.slots r.roleId = some slot)
    (hunbound : ∀ a ∈ v.execution.assignments, a.roleId ≠ r.roleId) :
    Covered (v.withRole r slot) := by
  have hmem : ∀ b, b ∈ (v.withRole r slot).execution.assignments ↔
      b = r.assignment ∨ b ∈ v.execution.assignments := by
    intro b
    exact mem_insertIdx (Nat.min_le_right _ _)
  have hslots : ∀ role, (v.withRole r slot).slots role =
      if role = r.roleId then none else v.slots role := fun _ => rfl
  have hknown := (h.waiting r.roleId slot hslot).1
  have hexact : v.Exact → (v.withRole r slot).Exact := by
    intro he role hrole
    by_cases hr : role = r.roleId
    · exact .inl ⟨r.assignment, (hmem _).mpr (.inl rfl), hr.symm⟩
    · rcases he role hrole with ⟨b, hb, hbr⟩ | ⟨s, hs⟩
      · exact .inl ⟨b, (hmem b).mpr (.inr hb), hbr⟩
      · exact .inr ⟨s, ((hslots role).trans (if_neg hr)).trans hs⟩
  refine ⟨?_, ?_, ?_, nofun, ?_⟩
  · have hperm : (v.withRole r slot).execution.assignments.Perm
        (r.assignment :: v.execution.assignments) :=
      perm_insertIdx _ _ (Nat.min_le_right _ _)
    rw [(hperm.map _).nodup_iff, map_cons, nodup_cons]
    refine ⟨fun hin => ?_, h.distinct⟩
    obtain ⟨b, hb, hbr⟩ := mem_map.mp hin
    exact hunbound b hb hbr
  · intro b hb
    rcases (hmem b).mp hb with rfl | hb
    · exact hknown
    · exact h.known b hb
  · intro role s hs
    rw [hslots] at hs
    split at hs
    · cases hs
    · next hne =>
      obtain ⟨hk, hfree⟩ := h.waiting role s hs
      refine ⟨hk, fun b hb => ?_⟩
      rcases (hmem b).mp hb with rfl | hb
      · exact fun heq => hne heq.symm
      · exact hfree b hb
  · intro _
    have hc := h.coverage hlive
    show (v.withRole r slot).Coverage v.execution.lifecycle
    -- A Role waits for recovery, so the Task is not in a lifecycle that excludes it.
    cases hcase : v.execution.lifecycle with
    | pending =>
      rw [hcase] at hc
      cases (hc.2 r.roleId).symm.trans hslot
    | ready | awaitingSatisfaction =>
      rw [hcase] at hc
      cases (hc.1 r.roleId).symm.trans hslot
    | completed =>
      rw [hcase] at hc
      cases (hc r.roleId).symm.trans hslot
    | active | blocked | failed | satisfactionRejected | cancelled =>
      rw [hcase] at hc
      exact hexact hc

end

/-! ### One step -/

lemma taskMove_coverage {allowed : TaskExecutionLifecycle → Bool} {next : TaskExecutionLifecycle}
    (move : call.taskMove = some (id, task, allowed, next)) (hkeeps : call.KeepsCoverage c)
    (hv : c.view id task = some v) (hl : allowed v.execution.lifecycle = true)
    (hc : v.Coverage v.execution.lifecycle) : v.Coverage next := by
  cases call with
  | readyTaskExecution =>
    cases move
    rw [eq_of_beq hl] at hc
    exact ⟨hc.2, .inl hc.1⟩
  | recordTaskExecutionCompleted =>
    cases move
    rw [eq_of_beq hl] at hc
    obtain ⟨g, hg, hview⟩ := view_eq_some.mp hv
    obtain ⟨t, -, rfl⟩ := view_eq_some.mp hview
    refine ⟨fun role => ?_, hc⟩
    -- No key of the Group's recovery slots names the Task.
    cases hslot : g.taskUnboundRoles.get? (toLex (task, role)) with
    | none => exact hslot
    | some slot =>
      have hkey := mem_keys_iff.mpr ⟨slot, hslot⟩
      exact absurd rfl (hkeeps g hg _ hkey)
  | satisfyTaskExecution =>
    cases move
    rw [eq_of_beq hl] at hc
    exact hc.1
  | failTaskExecution =>
    cases move
    simp only [Bool.or_eq_true, beq_iff_eq] at hl
    rcases hl with (hl | hl) | hl
    · rw [hl] at hc
      exact hc
    · rw [hl] at hc
      exact hc
    · rw [hl] at hc
      exact hc.2
  | rejectTaskSatisfaction =>
    cases move
    rw [eq_of_beq hl] at hc
    exact hc.2
  | _ => cases move

lemma ViewChange.covered {v' : TaskView} (h : ViewChange c id task call v')
    (hkeeps : call.KeepsCoverage c) (hc : ∀ v, c.view id task = some v → Covered v) :
    Covered v' := by
  have hgroup : ∀ v, c.view id task = some v → ∃ g, c.group id = some g ∧
      g.lifecycle = v.group ∧ g.taskExecution task = some v.execution := by
    intro v hv
    obtain ⟨g, hg, hview⟩ := view_eq_some.mp hv
    obtain ⟨t, ht, rfl⟩ := view_eq_some.mp hview
    exact ⟨g, hg, rfl, ht⟩
  have hopen : ∀ l : GroupLifecycle, l.terminal = false → l ≠ .released := by
    rintro l hl rfl
    cases hl
  cases h with
  | planned new view =>
    obtain ⟨hbare, hpending⟩ := missionGroup_bare view
    exact .of_bare hbare (.inl hpending)
  | carried new view lifecycle =>
    obtain ⟨hbare, hpending⟩ := missionGroup_bare view
    refine .of_bare hbare ?_
    rcases lifecycle with rfl | rfl
    · exact .inl hpending
    · exact .inr (.inl rfl)
  | cleared => exact .of_bare ⟨rfl, fun _ => rfl⟩ (.inr (.inr rfl))
  | regrouped before unfinished live =>
    exact (hc _ before).withGroup (.inr ⟨hopen _ unfinished, live⟩)
  | moved move before guard =>
    exact (hc _ before).withLifecycle fun _ hcov => taskMove_coverage move hkeeps before guard hcov
  | @activated now v before assigned =>
    simp only [exactlyAssigned, Bool.and_eq_true, decide_eq_true_eq] at assigned
    have hactive : Covered (v.withLifecycle .active) :=
      (hc _ before).withLifecycle fun _ _ => (exact_of_roles assigned.1).1
    refine hactive.withGroup ?_
    show _ = v.group ∨ v.group ≠ _ ∧ _
    split
    · next hl =>
      refine .inr ⟨?_, by decide⟩
      rcases hl with hl | hl <;> rw [hl] <;> decide
    · exact .inl rfl
  | bound own before valid =>
    have hv := validateBind_ok valid
    obtain ⟨g, hg, hlifecycle, -⟩ := hgroup _ before
    exact (hc _ before).bound (hlifecycle ▸ hkeeps g hg) hv.ready hv.covered
  | @taskReleased resources _ v before valid =>
    obtain ⟨g, hg, -, ht⟩ := hgroup _ before
    refine (hc _ before).taskReleased ?_
    have hfinished := (validateTaskRelease_ok valid).finished
    by_cases hdone : v.execution.lifecycle = .completed
    · exact .inl hdone
    · refine .inr (hkeeps g hg _ ht ?_)
      cases hl : v.execution.lifecycle with
      | failed | satisfactionRejected | cancelled => rfl
      | completed => exact absurd hl hdone
      | pending | ready | active | blocked | awaitingSatisfaction =>
        rw [hl] at hfinished
        cases hfinished
  | contextReleased before => exact (hc _ before).withoutContext _ _
  | @roleReleased _ role a v release before unfinished found =>
    obtain ⟨g, hg, -, ht⟩ := hgroup _ before
    refine (hc _ before).withoutRole (hopen _ unfinished) ?_ found
    have hrole := find?_some found
    have hbound : (v.execution.assignments.any fun a => a.roleId == role) = true :=
      any_eq_true.mpr ⟨a, mem_of_find?_eq_some found, hrole⟩
    cases call with
    | releaseTaskRoleBinding | beginRoleRecovery | beginExecutionRecovery =>
      cases release
      exact hkeeps g hg _ ht hbound
    | _ => cases release
  | rebound own before blocked valid slotFound unbound =>
    refine (hc _ before).withRole ?_ slotFound unbound
    rw [blocked]
    decide

def ControlPlane.TasksCovered (c : ControlPlane) : Prop :=
  ∀ id task v, c.view id task = some v → Covered v

lemma Effect.tasksCovered {c' : ControlPlane} (h : Effect c call c')
    (hkeeps : call.KeepsCoverage c) (hc : c.TasksCovered) : c'.TasksCovered := by
  intro id task v' hv'
  rcases h.view_cases hv' with hsame | hchange
  · exact hc id task v' hsame
  · exact hchange.covered hkeeps (hc id task)

lemma ControlPlane.Idle.tasksCovered (h : c.Idle) : c.TasksCovered := by
  intro id task v hv
  obtain ⟨g, hg, -⟩ := view_eq_some.mp hv
  rw [group, h.groups] at hg
  cases hg

end RoboGuide.Control
