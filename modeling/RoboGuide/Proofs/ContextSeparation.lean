import RoboGuide.Control.Planned

/-!
# `RoboGuide.Proofs.ContextSeparation`: whose Context binding a key finds

A Context binding is stored under the text `context::role`. The identifiers may contain `::`
themselves, so two ContextRoles of one plan can share a key: a Role of the one then finds the
binding of the other, and its Bind is refused (`context_key_shared`). When no Role of an accepted
plan shares its key with another ContextRole in which a Role has resources to keep, every run of
Control keeps the bindings apart (`contexts_stay_separate`).
-/

namespace RoboGuide.Control

open Domain Lib Fallible ControlPlane ExecutionGroup Option List

/-- A ContextRole of a Context. -/
abbrev ContextPair := CoordinationContextId × ContextRoleId

/-- The key its binding is stored under. -/
def ContextPair.key (q : ContextPair) : String := contextBindingKey q.1 q.2

/-- The ContextRole that a binding names. -/
def ContextBinding.pair (b : ContextBinding) : ContextPair := (b.contextId, b.contextRoleId)

/-- A Role of the execution keeps its resources in the ContextRole. -/
def BindsRole (t : TaskExecution) (role : RoleId) (q : ContextPair) : Prop :=
  t.roleScope role = .context ∧ t.contextRole role = some q.2 ∧ t.contextId = q.1

instance (t : TaskExecution) (role : RoleId) (q : ContextPair) : Decidable (BindsRole t role q) :=
  inferInstanceAs (Decidable (_ ∧ _))

/-! ### Plans with separate keys -/

/-- The ContextRoles in which the Roles of a plan keep their resources, with the Roles. -/
def contextPairs (p : MissionPlan) : List (ContextPair × RoleRequirement) :=
  p.tasks.flatMap fun task => task.requirement.roles.filterMap fun role =>
    if task.continuity.resourceScope role.roleId = .context then
      (task.continuity.contextRoles.get? role.roleId).map fun r =>
        ((task.continuity.contextId, r), role)
    else none

/-- No Role has the key of another ContextRole in which a Role has resources to keep. -/
def SeparateKeys (p : MissionPlan) : Prop :=
  ∀ x ∈ contextPairs p, ∀ y ∈ contextPairs p, y.2.resources ≠ [] → x.1.key = y.1.key → x.1 = y.1

instance (p : MissionPlan) : Decidable (SeparateKeys p) := by
  unfold SeparateKeys
  infer_instance

/-- A plan that the call brings keeps its keys apart. -/
def Call.SeparatesContexts (call : Call) : Prop := ∀ plan ∈ call.acceptsPlan, SeparateKeys plan

instance (call : Call) : Decidable call.SeparatesContexts := by
  unfold Call.SeparatesContexts
  infer_instance

section

variable {id : ExecutionGroupId} {plan : MissionPlan} {first : PlannedTask} {c c' : ControlPlane}
  {call : Call} {g g' : ExecutionGroup} {role : RoleId} {bindings : OrdMap String ContextBinding}
  {t : TaskExecution} {task : TaskRef} {a : RoleAssignment} {q : ContextPair} {k : String}
  {b : ContextBinding}

/-- The ContextRoles of a Group's Roles are those of its plan. -/
lemma contextPairs_of_bindsRole (hshape : g.shape = (missionGroup id plan first).shape)
    (ht : g.taskExecution task = some t) (hbinds : BindsRole t role q) :
    ∃ r, g.roleRequirement task role = some r ∧ (q, r) ∈ contextPairs plan := by
  obtain ⟨p, hp, rfl, hp'⟩ := Planned.execution hshape ht
  obtain ⟨hscope, hrole, hcontext⟩ := hbinds
  have hscopes : t.roleScopes = OrdMap.ofList (p.requirement.roles.map fun r =>
      (r.roleId, p.continuity.resourceScope r.roleId)) := congrArg TaskExecution.roleScopes hp'
  have hroles : t.contextRoles = p.continuity.contextRoles :=
      congrArg TaskExecution.contextRoles hp'
  have hid : t.contextId = p.continuity.contextId := congrArg TaskExecution.contextId hp'
  rw [TaskExecution.roleScope, hscopes] at hscope
  rw [TaskExecution.contextRole, hroles] at hrole
  -- a Role without a scope of its own is Task-scoped
  obtain ⟨scope, hget⟩ : ∃ scope, (OrdMap.ofList (p.requirement.roles.map fun r =>
      (r.roleId, p.continuity.resourceScope r.roleId))).get? role = some scope := by
    refine ne_none_iff_exists'.mp fun hnone => ?_
    rw [hnone] at hscope
    cases hscope
  obtain ⟨r, hr, heq⟩ := mem_map.mp (OrdMap.mem_of_get?_ofList hget)
  obtain ⟨rfl, rfl⟩ := Prod.mk.inj heq
  rw [hget, getD_some] at hscope
  refine ⟨r, ?_, ?_⟩
  · rw [Planned.roleRequirement hshape, missionGroup_roleRequirement]
    exact ⟨p, hp, rfl, hr, rfl⟩
  · refine mem_flatMap.mpr ⟨p, hp, mem_filterMap.mpr ⟨r, hr, ?_⟩⟩
    rw [if_pos hscope, hrole, map_some, ← hid, hcontext]

/-! ### Bindings of one Group -/

/-- An assignment adds at most the binding of its own ContextRole. -/
lemma bindContext_cases (h : (bindContext t task bindings a).get? k = some b) :
    bindings.get? k = some b ∨
      k = b.pair.key ∧ BindsRole t a.roleId b.pair ∧ a.resourceIds ≠ [] := by
  unfold bindContext at h
  split at h
  · next hscope =>
    split at h
    · exact .inl h
    · next role hrole =>
      simp only at h
      split at h
      · exact .inl h
      · rcases insert_cases h with ⟨rfl, rfl⟩ | ⟨-, h⟩
        · exact .inr ⟨rfl, ⟨hscope.1, hrole, rfl⟩, hscope.2⟩
        · exact .inl h
  · exact .inl h

lemma bindContext_kept (h : bindings.get? k = some b) :
    (bindContext t task bindings a).get? k = some b := by
  unfold bindContext
  split
  · split
    · exact h
    · next role _ =>
      simp only
      split
      · exact h
      · next hnew =>
        rw [get?_insert_of_ne _, h]
        rintro rfl
        exact hnew (contains_eq_true_iff.mpr ⟨b, h⟩)
  · exact h

lemma bindContexts_cases {as : List RoleAssignment}
    (h : (as.foldl (bindContext t task) bindings).get? k = some b) :
    bindings.get? k = some b ∨
      k = b.pair.key ∧ ∃ a ∈ as, BindsRole t a.roleId b.pair ∧ a.resourceIds ≠ [] := by
  induction as generalizing bindings with
  | nil => exact .inl h
  | cons a as ih =>
    rcases ih h with h | ⟨hkey, a', ha', hbinds⟩
    · refine (bindContext_cases h).imp_right ?_
      exact fun ⟨hkey, hbinds⟩ => ⟨hkey, a, mem_cons_self, hbinds⟩
    · exact .inr ⟨hkey, a', mem_cons_of_mem _ ha', hbinds⟩

lemma bindContexts_kept {as : List RoleAssignment} (h : bindings.get? k = some b) :
    (as.foldl (bindContext t task) bindings).get? k = some b := by
  induction as generalizing bindings with
  | nil => exact h
  | cons a as ih => exact ih (bindContext_kept h)

/-- What a call does to the Context bindings of a Group. -/
inductive ContextChange (c : ControlPlane) (id : ExecutionGroupId) :
    Call → OrdMap String ContextBinding → Prop where
  | created {call : Call} (new : c.group id = none) : ContextChange c id call ∅
  | superseded {target : ExecutionGroupId} {p p' : MissionPlan} :
      ContextChange c id (.supersedeMissionGroup id target p p') ∅
  | released : ContextChange c id (.releaseGroup id) ∅
  | kept {call : Call} {g : ExecutionGroup} {bindings : OrdMap String ContextBinding}
      (group : c.group id = some g) (same : bindings = g.contextBindings) :
      ContextChange c id call bindings
  | bound {e : Evidence} {plan : CommittedPlan} {g : ExecutionGroup} {t : TaskExecution}
      {actors : OrdMap ActorId ActorBinding}
      (evidence : validateBindEvidence c e id plan = .ok ())
      (valid : validateBind c e id plan = .ok (g, t, actors)) :
      ContextChange c id (.bindTaskExecutionWithState e id plan)
        (plan.assignments.foldl (bindContext t plan.taskRef) g.contextBindings)
  | contextReleased {context : CoordinationContextId} {g : ExecutionGroup}
      (group : c.group id = some g) : ContextChange c id (.releaseContextBindings id context)
        (g.contextBindings.retain fun _ b => b.contextId != context)

lemma Stored.contextBindings (h : Stored g g') : g'.contextBindings = g.contextBindings := by
  obtain ⟨v, rfl⟩ := h.eq
  rfl

lemma GroupChange.contexts (h : GroupChange c call id g') :
    ContextChange c id call g'.contextBindings := by
  induction h with
  | created new => exact .created new
  | carried revision =>
    obtain ⟨_, -, -, -, -, hnew, -⟩ := validateRevision_source revision
    exact .created hnew
  | superseded revision group stored =>
    rw [Stored.contextBindings (.inl stored)]
    exact .superseded
  | moved move group | activated group | completed group | taskMoved move group
  | taskActivated group | recoveryBlocked valid group => exact .kept group rfl
  | bound evidence valid stored =>
    rw [stored.contextBindings]
    exact .bound evidence valid
  | taskReleased valid stored =>
    rw [stored.contextBindings]
    exact .kept (validateTaskRelease_ok valid).group rfl
  | contextReleased valid stored =>
    rw [stored.contextBindings]
    exact .contextReleased (validateContextRelease_group valid)
  | roleReleased group blocked found owned stored
  | taskRoleReleased group blocked execution found owned stored =>
    rw [stored.contextBindings]
    exact .kept group rfl
  | @taskRecoveryReleased c need g g' valid group task release ih
  | @legacyRecoveryReleased c need g g' valid group task release ih =>
    generalize hbindings : g'.contextBindings = bindings at ih
    cases ih with
    | created new =>
      rw [setGroup_group_self] at new
      cases new
    | kept group' same =>
      rw [setGroup_group_self] at group'
      cases group'
      exact .kept group same
  | executionRecovery begun ih =>
    generalize contextBindings _ = bindings at ih
    cases ih with
    | created new => exact .created new
    | kept group same => exact .kept group same
  | rebound evidence valid stored =>
    obtain ⟨_, hv⟩ := validateRebind_ok valid
    rw [stored.contextBindings]
    rcases reboundGroup_ok hv.rebound with ⟨_, -, -, rfl⟩ | ⟨-, -, rfl⟩
    all_goals exact .kept hv.group rfl
  | released valid stored =>
    rw [stored.contextBindings]
    exact .released

/-! ### The invariant -/

/-- The Group has a plan with separate keys, and its bindings are stored under their own keys, for
Roles of the plan that have resources to keep. -/
structure OwnContexts (id : ExecutionGroupId) (g : ExecutionGroup) (plan : MissionPlan)
    (first : PlannedTask) : Prop where
  separate : SeparateKeys plan
  shape : g.shape = (missionGroup id plan first).shape
  own : ∀ k b, g.contextBindings.get? k = some b → k = b.pair.key ∧
    ∃ r, (b.pair, r) ∈ contextPairs plan ∧ r.resources ≠ []

/-- What Bind looks at has as many resources as the Role demands. -/
lemma validateBindEvidence_demands {e : Evidence} {plan : CommittedPlan} {r : RoleRequirement}
    (h : validateBindEvidence c e id plan = .ok ()) (hg : c.group id = some g)
    (ha : a ∈ plan.assignments) (hr : g.roleRequirement plan.taskRef a.roleId = some r)
    (hresources : a.resourceIds ≠ []) : r.resources ≠ [] := by
  simp only [validateBindEvidence, lookupGroup, bind_eq_ok, okOr_eq_ok, refuse_eq_ok,
    forM_eq_ok] at h
  obtain ⟨_, -, _, -, g', hg', hall⟩ := h
  cases hg.symm.trans hg'
  obtain ⟨r', hr', hrefused⟩ := hall a ha
  cases hr.symm.trans hr'
  simp only [Bool.or_eq_false_iff, Bool.not_eq_false', Option.any_eq_true] at hrefused
  obtain ⟨⟨⟨⟨⟨node, -, hmatch⟩, -⟩, -⟩, -⟩, -⟩ := hrefused
  simp only [selectedResourcesMatchRegistration, Bool.and_eq_true, beq_iff_eq] at hmatch
  intro hnone
  rw [hnone, length_nil] at hmatch
  exact hresources (eq_nil_of_length_eq_zero hmatch.1.1)

/-- A binding that Bind adds is for a Role of the plan that has resources to keep. -/
lemma bound_demanded {e : Evidence} {p : CommittedPlan} {actors : OrdMap ActorId ActorBinding}
    (evidence : validateBindEvidence c e id p = .ok ())
    (valid : validateBind c e id p = .ok (g, t, actors))
    (hshape : g.shape = (missionGroup id plan first).shape) (ha : a ∈ p.assignments)
    (hbinds : BindsRole t a.roleId q) (hresources : a.resourceIds ≠ []) :
    ∃ r, (q, r) ∈ contextPairs plan ∧ r.resources ≠ [] := by
  have hv := validateBind_ok valid
  obtain ⟨r, hr, hmem⟩ := contextPairs_of_bindsRole hshape hv.execution hbinds
  exact ⟨r, hmem, validateBindEvidence_demands evidence hv.group ha hr hresources⟩

lemma ContextChange.own (h : ContextChange c id call bindings)
    (hshape : ∀ g, c.group id = some g → g.shape = (missionGroup id plan first).shape)
    (hown : ∀ g, c.group id = some g → ∀ k b, g.contextBindings.get? k = some b →
      k = b.pair.key ∧ ∃ r, (b.pair, r) ∈ contextPairs plan ∧ r.resources ≠ [])
    (hget : bindings.get? k = some b) :
    k = b.pair.key ∧ ∃ r, (b.pair, r) ∈ contextPairs plan ∧ r.resources ≠ [] := by
  cases h with
  | created | superseded | released => cases hget
  | kept group same => exact hown _ group k b (same ▸ hget)
  | bound evidence valid =>
    have hv := validateBind_ok valid
    rcases bindContexts_cases hget with hold | ⟨hkey, a, ha, hbinds, hresources⟩
    · exact hown _ hv.group k b hold
    · exact ⟨hkey, bound_demanded evidence valid (hshape _ hv.group) ha hbinds hresources⟩
  | contextReleased group => exact hown _ group k b ((get?_eq_some_retain ..).mp hget).1

/-- Every Group keeps its Context bindings apart. -/
def ControlPlane.ContextsOwn (c : ControlPlane) : Prop :=
  ∀ id g, c.group id = some g → ∃ plan first, OwnContexts id g plan first

lemma Effect.contextsOwn (h : Effect c call c') (hkeeps : call.SeparatesContexts)
    (hc : c.ContextsOwn) : c'.ContextsOwn := by
  intro id g' hg'
  rcases h.group_cases id g' hg' with hsame | hchange
  · exact hc id g' hsame
  · rcases hchange.shape with ⟨g, hg, hshape⟩ | ⟨hnew, plan, first, hplan, -, hshape⟩
    · obtain ⟨plan, first, hg₀⟩ := hc id g hg
      have hold : ∀ g₀, c.group id = some g₀ → g₀ = g := fun g₀ hg₀ => some.inj (hg₀.symm.trans hg)
      refine ⟨plan, first, hg₀.separate, hshape.trans hg₀.shape, fun k b hget => ?_⟩
      exact hchange.contexts.own (fun g₀ h => hold g₀ h ▸ hg₀.shape)
        (fun g₀ h => hold g₀ h ▸ hg₀.own) hget
    · refine ⟨plan, first, hkeeps plan hplan, hshape, fun k b hget => ?_⟩
      have hshape₀ : ∀ g, c.group id = some g → g.shape = (missionGroup id plan first).shape :=
        fun g hg => by cases hnew.symm.trans hg
      refine hchange.contexts.own hshape₀ (fun g hg => ?_) hget
      cases hnew.symm.trans hg

lemma ControlPlane.Idle.contextsOwn (h : c.Idle) : c.ContextsOwn := by
  intro id g hg
  rw [group, h.groups] at hg
  cases hg

/-! ### Runs -/

/-- A Role of the Group keeps its resources in the ContextRole. -/
def ExecutionGroup.ReadsContext (g : ExecutionGroup) (q : ContextPair) : Prop :=
  ∃ task t role, g.taskExecution task = some t ∧ BindsRole t role q

/-- The call binds or releases the ContextRole in the Group. -/
def Call.Concerns (id : ExecutionGroupId) (g : ExecutionGroup) (q : ContextPair) : Call → Prop
  | .bindTaskExecutionWithState _ id' plan => id' = id ∧ ∃ t,
      g.taskExecution plan.taskRef = some t ∧ ∃ a ∈ plan.assignments, BindsRole t a.roleId q
  | .releaseContextBindings id' context => id' = id ∧ context = q.1
  | .releaseGroup id' | .supersedeMissionGroup id' _ _ _ => id' = id
  | _ => False

/-- The plane without the Context bindings of a Group that are not for a Role of the plan. -/
def ControlPlane.withoutOtherContexts (c : ControlPlane) (id : ExecutionGroupId)
    (g : ExecutionGroup) (t : TaskExecution) (plan : CommittedPlan) : ControlPlane :=
  c.setGroup id
    { g with
      contextBindings := g.contextBindings.retain fun _ b =>
        plan.assignments.any fun a => decide (BindsRole t a.roleId b.pair) }

/-- The binding found for a ContextRole names it, a call that does not concern the ContextRole
leaves the binding as it is, and Bind validates a plan whatever other ContextRoles hold. -/
structure ContextsSeparate (w : World) (id : ExecutionGroupId) (g : ExecutionGroup) : Prop where
  named : ∀ q, g.ReadsContext q → ∀ b, g.contextBinding q.1 q.2 = some b → b.pair = q
  kept : ∀ q, g.ReadsContext q → ∀ call : Call, ¬ call.Concerns id g q → ∀ g',
    (w.step call).control.group id = some g' →
      g'.contextBinding q.1 q.2 = g.contextBinding q.1 q.2
  unblocked : ∀ e plan t, g.taskExecution plan.taskRef = some t →
    ((∃ r, validateBind (w.control.withoutOtherContexts id g t plan) e id plan = .ok r) ↔
      ∃ r, validateBind w.control e id plan = .ok r)

namespace OwnContexts

variable (h : OwnContexts id g plan first)
include h

lemma named (hq : g.ReadsContext q) (hb : g.contextBinding q.1 q.2 = some b) : b.pair = q := by
  obtain ⟨task, t, role, ht, hbinds⟩ := hq
  obtain ⟨hkey, r, hmem, hresources⟩ := h.own _ b hb
  obtain ⟨r', -, hmem'⟩ := contextPairs_of_bindsRole h.shape ht hbinds
  exact (h.separate _ hmem' _ hmem hresources hkey).symm

lemma kept (hg : c.group id = some g) (hq : g.ReadsContext q) (hother : ¬ call.Concerns id g q)
    (hchange : ContextChange c id call bindings) :
    bindings.get? q.key = g.contextBinding q.1 q.2 := by
  cases hchange with
  | created new => cases new.symm.trans hg
  | superseded | released => exact absurd rfl hother
  | kept group same =>
    rw [same, some.inj (group.symm.trans hg)]
    rfl
  | @bound e plan' g₀ t actors evidence valid =>
    have hv := validateBind_ok valid
    obtain rfl := some.inj (hv.group.symm.trans hg)
    refine Option.ext fun b => ⟨fun hget => ?_, bindContexts_kept⟩
    rcases bindContexts_cases hget with hold | ⟨hkey, a, ha, hbinds, hresources⟩
    · exact hold
    · obtain ⟨r, hmem, hdemands⟩ := bound_demanded evidence valid h.shape ha hbinds hresources
      obtain ⟨task, t', role, ht', hbinds'⟩ := hq
      obtain ⟨r', -, hmem'⟩ := contextPairs_of_bindsRole h.shape ht' hbinds'
      have hsame : q = b.pair := h.separate _ hmem' _ hmem hdemands hkey
      exact absurd ⟨rfl, t, hv.execution, a, ha, hsame ▸ hbinds⟩ hother
  | contextReleased group =>
    obtain rfl := some.inj (group.symm.trans hg)
    refine OrdMap.get?_retain_of_kept _ fun b hget => bne_iff_ne.mpr fun hcontext =>
      hother ⟨rfl, ?_⟩
    rw [← h.named hq hget]
    exact hcontext.symm

lemma unchanged_iff {p : CommittedPlan} (ht : g.taskExecution p.taskRef = some t)
    (ha : a ∈ p.assignments) :
    validateContextUnchanged
        { g with
          contextBindings := g.contextBindings.retain fun _ b =>
            p.assignments.any fun a => decide (BindsRole t a.roleId b.pair) } t a =
      validateContextUnchanged g t a := by
  unfold validateContextUnchanged
  split
  · rfl
  next hscope =>
  have hscope : t.roleScope a.roleId = .context := by simpa using hscope
  cases hrole : t.contextRole a.roleId with
  | none => rfl
  | some r =>
    have hbinds : BindsRole t a.roleId (t.contextId, r) := ⟨hscope, hrole, rfl⟩
    have hfound : (g.contextBindings.retain fun _ b => p.assignments.any fun a =>
        decide (BindsRole t a.roleId b.pair)).get? (contextBindingKey t.contextId r) =
          g.contextBinding t.contextId r := by
      refine OrdMap.get?_retain_of_kept _ fun b hget => List.any_eq_true.mpr ⟨a, ha, ?_⟩
      rw [h.named ⟨_, t, _, ht, hbinds⟩ hget]
      exact decide_eq_true hbinds
    simp only [bind_some, contextBinding, hfound]

lemma unblocked {e : Evidence} {p : CommittedPlan} (hg : c.group id = some g)
    (ht : g.taskExecution p.taskRef = some t) :
    (∃ r, validateBind (c.withoutOtherContexts id g t p) e id p = .ok r) ↔
      ∃ r, validateBind c e id p = .ok r := by
  have hg₁ : (c.withoutOtherContexts id g t p).group id = some _ := setGroup_group_self _ _ _
  simp only [validateBind, lookupGroup, bind_eq_ok, okOr_eq_ok, refuse_eq_ok, pure_eq_ok,
    forM_eq_ok]
  constructor
  · rintro ⟨r, g', hg', _, htenant, _, hmission, t', ht', _, hready, _, hcovered, actors, hactors,
      _, hunbound, _, hbindable, _, hcontexts, -⟩
    cases hg₁.symm.trans hg'
    cases ht.symm.trans ht'
    exact ⟨_, g, hg, (), htenant, (), hmission, t, ht, (), hready, (), hcovered, actors, hactors,
      (), hunbound, (), hbindable, (),
        fun a ha => (h.unchanged_iff ht ha).symm.trans (hcontexts a ha),
      rfl⟩
  · rintro ⟨r, g', hg', _, htenant, _, hmission, t', ht', _, hready, _, hcovered, actors, hactors,
      _, hunbound, _, hbindable, _, hcontexts, -⟩
    cases hg.symm.trans hg'
    cases ht.symm.trans ht'
    exact ⟨_, _, hg₁, (), htenant, (), hmission, t, ht, (), hready, (), hcovered, actors, hactors,
      (), hunbound, (), hbindable, (), fun a ha => (h.unchanged_iff ht ha).trans (hcontexts a ha),
      rfl⟩

end OwnContexts

/-- In every run whose accepted plans have separate keys, two ContextRoles of a Group never share
a binding, and neither is bound, released or blocked by the other. -/
theorem contexts_stay_separate {w₀ w : World} (hidle : w₀.Idle)
    (hrun : World.Run (fun _ call => call.SeparatesContexts) w₀ w)
    (hg : w.control.group id = some g) : ContextsSeparate w id g := by
  have hinv : w.control.ContextsOwn :=
    hrun.invariant (P := fun w => w.control.ContextsOwn) hidle.control.contextsOwn
      fun w call hinv hcond => (call.effect w).contextsOwn hcond.2 hinv
  obtain ⟨plan, first, hown⟩ := hinv id g hg
  refine ⟨fun q hq b => hown.named hq, fun q hq call hother g' hg' => ?_,
    fun e p t => hown.unblocked hg⟩
  rcases (call.effect w).group_cases id g' hg' with hsame | hchange
  · rw [some.inj (hsame.symm.trans hg)]
  · exact hown.kept hg hq hother hchange.contexts

end

namespace SharedKey

/-- Two Tasks of one Actor keep a bay each, the first one in the ContextRole `c` of the Context
`a::b`, the second one in the ContextRole `b::c` (or `c`) of the Context `a`. -/
def mission : MissionId := ⟨"mission", .refl false⟩
def one : TaskRef := ⟨mission, ⟨"one", .refl false⟩⟩
def two : TaskRef := ⟨mission, ⟨"two", .refl false⟩⟩
def role : RoleId := ⟨"role", .refl false⟩
def actor : ActorId := ⟨"actor", .refl false⟩
def node : NodeId := ⟨"node", .refl false⟩
def group : ExecutionGroupId := ⟨"group", .refl false⟩
def bay : ResourceId := ⟨"bay", .refl false⟩
def otherBay : ResourceId := ⟨"other-bay", .refl false⟩
def first : ContextPair := (⟨"a::b", .refl false⟩, ⟨"c", .refl false⟩)

def second (apart : Bool) : ContextPair :=
  (⟨"a", .refl false⟩, if apart then ⟨"c", .refl false⟩ else ⟨"b::c", .refl false⟩)

def roleRequirement : RoleRequirement :=
  ⟨role, some actor, [], [⟨.space, 1, .exclusive, none, Nat.one_pos⟩],
    List.nodup_singleton ResourceKind.space⟩

def requirement (task : TaskRef) : TaskRequirement where
  taskRef := task
  roles := [roleRequirement]
  timing := ⟨0, none, none, none⟩
  roles_nonempty := by decide
  roles_distinct := by simp

def planned (task : TaskRef) (q : ContextPair) : PlannedTask :=
  ⟨"store", requirement task, [],
    ⟨q.1, OrdMap.ofList [(role, q.2)], OrdMap.ofList [(role, .context)], none⟩, .executionReport,
    by simp, fun r (h : r ∈ [role, role]) => by simpa [requirement, roleRequirement] using h⟩

def context (q : ContextPair) : CoordinationContext :=
  ⟨q.1, [⟨q.2, actor, [], ContextRole.no_envelope⟩], [], .independent⟩

def plan (apart : Bool) : MissionPlan where
  missionId := mission
  objective := "store"
  actors := [⟨actor, none⟩]
  tasks := [planned one first, planned two (second apart)]
  contexts := [context first, context (second apart)]
  valid := by cases apart <;> decide

def evidence : Evidence :=
  .granting 0 [(node, [bay, otherBay].map fun id => ⟨id, .space, 1, .exclusive, none, Nat.one_pos⟩)]

def assignments (bay : ResourceId) : List RoleAssignment := [⟨role, node, [bay]⟩]

def bind (task : TaskRef) (bay : ResourceId) : Call :=
  .bindTaskExecutionWithState evidence group ⟨task, assignments bay, ∅, ∅, none⟩

/-- The Task is ready and its bay is committed. -/
def commit (task : TaskRef) (bay : ResourceId) : List Call :=
  [.readyTaskExecution group task,
    .propose evidence (requirement task) ⟨task, OrdMap.ofList [(role, [node])], ∅, ∅, [], ∅⟩
      (assignments bay),
    .commitForGroupWithState evidence group
      ⟨task, assignments bay, ∅, OrdMap.ofList [(role, roleRequirement)], ∅⟩]

def calls (apart : Bool) : List Call :=
  .createMissionGroup group (plan apart) :: commit one bay ++ bind one bay :: commit two otherBay

/-- The first Task is bound, the second one committed. -/
def committed (apart : Bool) : World :=
  (calls apart).foldl World.step (World.start [(mission, "tenant")])

end SharedKey

open SharedKey in
/-- With keys apart the second Task is bound too. -/
theorem separate_keys_bound : (bind two otherBay).Succeeds (committed true) ∧
    ∃ g, (committed true).control.group group = some g ∧
      ContextsSeparate (committed true) group g := by
  refine ⟨Call.succeeds_iff.mp (by decide +kernel), ?_⟩
  obtain ⟨g, hg⟩ := isSome_iff_exists.mp
    (by decide +kernel : ((committed true).control.group group).isSome = true)
  exact ⟨g, hg, contexts_stay_separate (World.start_idle _)
    (Reaches.of_list (calls true) .refl (by decide +kernel)) hg⟩

open SharedKey in
/-- With the shared key the second Task finds the first one's binding, and its Bind is refused. -/
theorem context_key_shared :
    (¬ ∀ w₀ w id g, w₀.Idle → World.Run (fun _ _ => True) w₀ w → w.control.group id = some g →
      ContextsSeparate w id g) ∧
    ∃ w, (bind two otherBay).run (committed false) =
      .error (.invalidProposal "ContextRole binding changed across Tasks") w := by
  constructor
  · intro hall
    have hshared : ((committed false).control.group group).any (fun g =>
        ((g.contextBinding (second false).1 (second false).2).any
          fun b => decide (b.pair = first)) &&
          (g.taskExecution two).any fun t => decide (BindsRole t role (second false))) = true := by
      decide +kernel
    simp only [Option.any_eq_true, Bool.and_eq_true, decide_eq_true_eq] at hshared
    obtain ⟨g, hg, ⟨b, hb, hfirst⟩, t, ht, hbinds⟩ := hshared
    have hrun : World.Run (fun _ _ => True) (World.start [(mission, "tenant")]) (committed false) :=
      Reaches.of_list (calls false) .refl (by decide +kernel)
    have hnamed := (hall _ _ group g (World.start_idle _) hrun hg).named _
        ⟨_, t, _, ht, hbinds⟩ b hb
    exact absurd (hfirst.symm.trans hnamed) (by decide)
  · exact refusal_eq_some.mp (by decide +kernel)

end RoboGuide.Control
