import RoboGuide.Control.Planned

/-!
# `RoboGuide.Control.Actors`: where Actor authority and recovery commitments come from

Actor bindings, placement constraints, candidate restrictions, the physical registry and the
binding semantics of a Mission change in few calls (`Effect.authority_cases`), and a pending
recovery commitment is written by a recovery Commit only (`Effect.pending_cases`).
-/

namespace RoboGuide.Control

open Domain Lib Fallible ControlPlane List Option

variable {c c' : ControlPlane} {call : Call} {plan : CommittedPlan} {actor : ActorId}
  {b : ActorBinding} {role : RoleRequirement} {mission : MissionId}
  {bindings bindings' : OrdMap ActorId ActorBinding} {g : ExecutionGroup} {key : RecoveryKey}
  {r : CommittedRecoveryAssignment}

/-! ### Authority -/

/-- The tables that decide where Actors may be. -/
structure Authority where
  bindings : OrdMap (MissionId ×ₗ ActorId) ActorBinding
  constraints : OrdMap (MissionId ×ₗ ActorId) NodeId
  restrictions : OrdMap (MissionId ×ₗ ActorId) ActorCandidateRestriction
  registry : Option PhysicalEntityRegistrySnapshot
  provenance : Option RegistryProvenance
  semantics : OrdMap MissionId MissionBindingSemantics

def ControlPlane.authority (c : ControlPlane) : Authority :=
  ⟨c.actorBindings, c.actorNodeConstraints, c.actorCandidateRestrictions,
    c.physicalEntityRegistry, c.registryProvenance, c.missionBindingSemantics⟩

/-- The bindings of a Task's Actors are added where there is none. -/
def Authority.withActors (a : Authority) (mission : MissionId)
    (actors : List (ActorId × ActorBinding)) : Authority :=
  { a with bindings := actors.foldl (fun m e =>
      if m.contains (actorKey mission e.1) then m
      else m.insert (actorKey mission e.1) e.2) a.bindings }

/-- The Actor is bound to the executor that takes it over. -/
def Authority.withTakeover (t : Authority) (mission : MissionId)
    (a : ActorTakeoverAuthorization) : Authority :=
  { t with bindings := t.bindings.insert (actorKey mission a.actorId) (takeoverBinding mission a) }

/-- What a call does to these tables. -/
inductive AuthorityChange (c : ControlPlane) : Call → Authority → Prop where
  | registry {snapshot : PhysicalEntityRegistrySnapshot}
      (valid : validateRegistryInstall c snapshot = .ok ()) :
      AuthorityChange c (.installPhysicalEntityRegistry snapshot)
        { c.authority with
          registry := some snapshot
          provenance := some (.fromSnapshot snapshot) }
  | nodeConstraint {mission : MissionId} {actor : ActorId} {node : NodeId}
      (bound : ∀ b, c.actorBinding mission actor = some b → b.nodeId = node)
      (restricted : ∀ r, c.actorCandidateRestriction mission actor = some r →
        r.allowedNodes.contains node = true)
      (new : c.actorNodeConstraint mission actor = none) :
      AuthorityChange c (.setActorNodeConstraint mission actor node)
        { c.authority with
          constraints := c.actorNodeConstraints.insert (actorKey mission actor) node }
  | candidateRestriction {mission : MissionId} {actor : ActorId}
      {restriction : ActorCandidateRestriction}
      (bound : ∀ b, c.actorBinding mission actor = some b →
        restriction.allowedNodes.contains b.nodeId = true)
      (constrained : ∀ n, c.actorNodeConstraint mission actor = some n →
        restriction.allowedNodes.contains n = true)
      (new : c.actorCandidateRestriction mission actor = none) :
      AuthorityChange c (.setActorCandidateRestriction mission actor restriction)
        { c.authority with restrictions :=
            c.actorCandidateRestrictions.insert (actorKey mission actor) restriction }
  | semantics {call : Call} {plan : MissionPlan} (accepted : call.acceptsPlan = some plan)
      (same : ∀ s, c.missionBindingSemantics.get? plan.missionId = some s →
        s = plan.bindingSemantics) :
      AuthorityChange c call { c.authority with
        semantics := c.missionBindingSemantics.insert plan.missionId plan.bindingSemantics }
  | bound {e : Evidence} {id : ExecutionGroupId} {plan : CommittedPlan} {g : ExecutionGroup}
      {t : TaskExecution} {actors : OrdMap ActorId ActorBinding}
      (valid : validateBind c e id plan = .ok (g, t, actors)) :
      AuthorityChange c (.bindTaskExecutionWithState e id plan)
        (c.authority.withActors plan.taskRef.missionId actors.entries)
  | takenOver {e : Evidence} {r : CommittedRecoveryAssignment} {g : ExecutionGroup}
      {slot : UnboundRole} {a : ActorTakeoverAuthorization}
      (valid : validateRebind c e r = .ok (g, slot)) (takeover : r.actorTakeover = some a) :
      AuthorityChange c (.rebindRoleWithState e r)
        (c.authority.withTakeover r.taskRef.missionId a)

section

variable (c : ControlPlane)

@[simp] lemma setGroup_authority (id : ExecutionGroupId) (g : ExecutionGroup) :
    (c.setGroup id g).authority = c.authority := rfl

@[simp] lemma releaseResources_authority (rs : List ResourceId) :
    (c.releaseResources rs).authority = c.authority := by
  rw [releaseResources_frame]
  rfl

@[simp] lemma releaseCapacityTask_authority (group : ExecutionGroupId) (task : TaskRef)
    (role : Option RoleId) : (c.releaseCapacityTask group task role).authority = c.authority := rfl

@[simp] lemma releaseCapacityContext_authority (group : ExecutionGroupId)
    (context : CoordinationContextId) :
    (c.releaseCapacityContext group context).authority = c.authority := rfl

@[simp] lemma releaseGroupOwnership_authority (id : ExecutionGroupId) (rs : List ResourceId) :
    (c.releaseGroupOwnership id rs).authority = c.authority :=
  releaseResources_authority (c.releaseCapacityGroup id) rs

lemma withActors_authority (mission : MissionId) (actors : List (ActorId × ActorBinding)) :
    (c.withActors mission actors).authority = c.authority.withActors mission actors := by
  unfold withActors Authority.withActors
  induction actors generalizing c with
  | nil => rfl
  | cons e actors ih =>
    rw [foldl_cons, foldl_cons, ih]
    by_cases h : c.actorBindings.contains (actorKey mission e.1) = true
    · have h' : c.authority.bindings.contains (actorKey mission e.1) = true := h
      rw [if_pos h, if_pos h']
    · have h' : ¬ c.authority.bindings.contains (actorKey mission e.1) = true := h
      rw [if_neg h, if_neg h']
      rfl

end

lemma Effect.authority_cases (h : Effect c call c') :
    c'.authority = c.authority ∨ AuthorityChange c call c'.authority := by
  induction h with
  | unchanged | tenant | topology | limits | reserved | preempted | groupMoved | groupActivated
  | groupCompleted | taskMoved | reboundPartly => exact .inl rfl
  | taskReleased | contextReleased | roleReleased | taskRoleReleased | groupReleased =>
    exact .inl (by simp)
  | registry valid => exact .inr (.registry valid)
  | nodeConstraint bound restricted new => exact .inr (.nodeConstraint bound restricted new)
  | candidateRestriction bound constrained new =>
    exact .inr (.candidateRestriction bound constrained new)
  | groupCreated new semantics => exact .inr (.semantics rfl semantics)
  | groupSuperseded revision semantics =>
    rw [setGroup_authority, releaseGroupOwnership_authority]
    exact .inr (.semantics rfl semantics)
  | @taskActivated c id task now g t scheduled =>
    refine .inl ?_
    cases scheduled with
    | true =>
      rw [if_pos rfl, activateScheduledTask_frame]
      rfl
    | false => rfl
  | consumed => exact .inl (by rw [consumeScheduledTask_frame]; rfl)
  | invalidated => exact .inl (by rw [invalidateScheduledTask_frame]; rfl)
  | missionCancelled => exact .inl (by rw [cancelScheduledMission_frame]; rfl)
  | committed support valid ledgers =>
    refine .inl ?_
    rw [reserveAssignments_frame, commitLedgers_frame ledgers]
    rfl
  | bound evidence valid =>
    refine .inr ?_
    rw [withActors_authority, setGroup_authority, bindReservations_frame]
    exact .bound valid
  | boundPartly =>
    refine .inl ?_
    rw [setGroup_authority, bindReservations_frame]
    rfl
  | taskRecoveryBegun valid group task release ih
  | legacyRecoveryBegun valid group task release ih | executionRecoveryBegun begun ih =>
    rcases ih with hsame | hchange
    · exact .inl hsame
    · generalize authority _ = a at hchange
      cases hchange with
      | semantics accepted => cases accepted
  | @recoveryCommitted c charged e requirement p role valid ledgers =>
    refine .inl ?_
    show (p.replacementResourceIds.foldl (reserveReplacement e p) charged).authority = c.authority
    rw [reserveReplacements_frame, recoveryLedgers_frame ledgers]
    rfl
  | recoveryAborted => exact .inl (releaseResources_authority _ _)
  | @rebound c e r g g' slot evidence valid =>
    cases htakeover : r.actorTakeover with
    | none =>
      refine .inl ?_
      simp only [authority, finishRebind, htakeover]
      rfl
    | some a =>
      refine .inr ?_
      have hauthority : ((c.setGroup r.groupId g').finishRebind r).authority =
          c.authority.withTakeover r.taskRef.missionId a := by
        simp only [authority, finishRebind, htakeover]
        rfl
      rw [hauthority]
      exact .takenOver valid htakeover

/-! ### Bindings -/

/-- How an Actor binding is written. -/
inductive BindingChange (c : ControlPlane) : Call → MissionId → ActorId → ActorBinding → Prop where
  | bound {e : Evidence} {id : ExecutionGroupId} {plan : CommittedPlan} {g : ExecutionGroup}
      {t : TaskExecution} {actors : OrdMap ActorId ActorBinding} {actor : ActorId}
      {b : ActorBinding} (valid : validateBind c e id plan = .ok (g, t, actors))
      (new : c.actorBinding plan.taskRef.missionId actor = none)
      (intended : actors.get? actor = some b) :
      BindingChange c (.bindTaskExecutionWithState e id plan) plan.taskRef.missionId actor b
  | takenOver {e : Evidence} {r : CommittedRecoveryAssignment} {g : ExecutionGroup}
      {slot : UnboundRole} {a : ActorTakeoverAuthorization}
      (valid : validateRebind c e r = .ok (g, slot)) (takeover : r.actorTakeover = some a) :
      BindingChange c (.rebindRoleWithState e r) r.taskRef.missionId a.actorId
        (takeoverBinding r.taskRef.missionId a)

lemma withActors_get? (t : Authority) (mission : MissionId)
    (actors : List (ActorId × ActorBinding)) (key : MissionId ×ₗ ActorId) :
    (t.withActors mission actors).bindings.get? key = (t.bindings.get? key).or
        ((actors.find? fun e => actorKey mission e.1 == key).map (·.2)) := by
  unfold Authority.withActors
  show (actors.foldl _ t.bindings).get? key = _
  generalize t.bindings = m
  induction actors generalizing m with
  | nil => simp
  | cons e actors ih =>
    rw [foldl_cons, ih, find?_cons]
    by_cases hkey : actorKey mission e.1 = key
    · subst hkey
      simp only [BEq.rfl, map_some]
      split
      · next hc =>
        obtain ⟨b, hb⟩ := contains_eq_true_iff.mp hc
        simp [hb]
      · next hc =>
        have hnone : m.get? (actorKey mission e.1) = none := by simpa [OrdMap.contains] using hc
        simp [hnone]
    · have hne : (actorKey mission e.1 == key) = false := by simpa using hkey
      rw [hne]
      split
      · rfl
      · rw [get?_insert_of_ne (Ne.symm hkey)]

lemma find?_actorKey (mission : MissionId) (actors : OrdMap ActorId ActorBinding)
    (actor : ActorId) :
    (actors.entries.find? fun e => actorKey mission e.1 == actorKey mission actor).map (·.2) =
      actors.get? actor := by
  unfold OrdMap.get?
  generalize actors.entries = l
  induction l with
  | nil => rfl
  | cons e l ih =>
    obtain ⟨k, b⟩ := e
    rw [find?_cons, OrdMap.lookup]
    by_cases hk : actor = k
    · subst hk
      simp
    · have hne : (actorKey mission k == actorKey mission actor) = false := by
        simpa [actorKey] using fun h : k = actor => hk h.symm
      rw [hne, if_neg hk]
      exact ih

lemma Effect.binding_cases (h : Effect c call c') (hb : c'.actorBinding mission actor = some b) :
    c.actorBinding mission actor = some b ∨ BindingChange c call mission actor b := by
  have hget : c'.authority.bindings.get? (actorKey mission actor) = some b := hb
  rcases h.authority_cases with hsame | hchange
  · rw [hsame] at hget
    exact .inl hget
  · generalize c'.authority = t at hchange hget
    cases hchange with
    | registry | nodeConstraint | candidateRestriction | semantics => exact .inl hget
    | @bound e id plan g _ actors valid =>
      rw [withActors_get?] at hget
      cases hold : c.actorBinding mission actor with
      | some old =>
        have hold' : c.authority.bindings.get? (actorKey mission actor) = some old := hold
        rw [hold'] at hget
        exact .inl hget
      | none =>
        have hold' : c.authority.bindings.get? (actorKey mission actor) = none := hold
        rw [hold', none_or] at hget
        obtain ⟨e', he', rfl⟩ := map_eq_some_iff.mp hget
        have hkey := find?_some he'
        obtain ⟨rfl, -⟩ := Prod.mk.inj (toLex_inj.mp (eq_of_beq hkey))
        rw [find?_actorKey] at hget
        exact .inr (.bound valid hold hget)
    | @takenOver e r g slot a valid takeover =>
      by_cases hkey : actorKey mission actor = actorKey r.taskRef.missionId a.actorId
      · obtain ⟨rfl, rfl⟩ := Prod.mk.inj (toLex_inj.mp hkey)
        have hb' : some (takeoverBinding r.taskRef.missionId a) = some b := by
          rw [← hget]
          exact (get?_insert_self _ _ _).symm
        cases hb'
        exact .inr (.takenOver valid takeover)
      · refine .inl ?_
        rw [← hget]
        exact (get?_insert_of_ne hkey).symm

lemma Effect.binding_kept (h : Effect c call c') (hb : c.actorBinding mission actor = some b) :
    ∃ b', c'.actorBinding mission actor = some b' := by
  have hget : c.authority.bindings.get? (actorKey mission actor) = some b := hb
  show ∃ b', c'.authority.bindings.get? (actorKey mission actor) = some b'
  rcases h.authority_cases with hsame | hchange
  · exact ⟨b, hsame ▸ hget⟩
  · generalize c'.authority = t at hchange
    cases hchange with
    | registry | nodeConstraint | candidateRestriction | semantics => exact ⟨b, hget⟩
    | bound => exact ⟨b, by rw [withActors_get?, hget, some_or]⟩
    | @takenOver e r g slot a =>
      by_cases hkey : actorKey mission actor = actorKey r.taskRef.missionId a.actorId
      · exact ⟨_, by rw [hkey]; exact get?_insert_self _ _ _⟩
      · exact ⟨b, by rw [← hget]; exact get?_insert_of_ne hkey⟩

/-- An Actor that is bound stays bound to its executor, unless its takeover is rebound. -/
theorem actors_keep_executor (calls : List Call) (w : World) (mission : MissionId)
    (actor : ActorId) : let binding (w : World) := w.control.actorBinding mission actor
    (∃ e r a, .rebindRoleWithState e r ∈ calls ∧ r.actorTakeover = some a ∧
      r.taskRef.missionId = mission ∧ a.actorId = actor) ∨
      binding w = none ∨ binding (calls.foldl World.step w) = binding w := by
  intro binding
  refine or_iff_not_imp_left.mpr fun hnone =>
    foldl_settles binding (fun w call hcall b hb => ?_) w
  have h := call.effect w
  obtain ⟨b', hb'⟩ := h.binding_kept hb
  rcases h.binding_cases hb' with hsame | hchange
  · exact hb'.trans (hsame.symm.trans hb)
  cases hchange with
  | bound _ new => cases hb.symm.trans new
  | takenOver _ takeover => exact (hnone ⟨_, _, _, hcall, takeover, rfl, rfl⟩).elim

/-! ### The Actors of a committed plan -/

/-- The binding that the Role's assignment intends for its Actor. -/
structure ActorIntent (c : ControlPlane) (plan : CommittedPlan) (role : RoleRequirement)
    (actor : ActorId) (a : RoleAssignment) (b : ActorBinding) : Prop where
  actorOf : role.actorId = some actor
  assignment : plan.assignments.find? (fun a => a.roleId == role.roleId) = some a
  intent : ∃ physical, c.validateActorBindingIntent plan.taskRef.missionId actor a.nodeId =
      .ok physical ∧ intendedBinding plan actor role.roleId a.nodeId physical = .ok b
  existing : ∀ old, c.actorBinding plan.taskRef.missionId actor = some old →
    old.nodeId = b.nodeId ∧ old.physicalEntityId = b.physicalEntityId

lemma ActorIntent.node {a : RoleAssignment}
    (h : ActorIntent c plan role actor a b) : b.nodeId = a.nodeId := by
  obtain ⟨_, -, hb⟩ := h.intent
  unfold intendedBinding at hb
  split at hb
  · simp only [bind_eq_ok, pure_eq_ok] at hb
    obtain ⟨_, -, rfl⟩ := hb
    rfl
  · cases hb
  · cases hb
  · cases hb
    rfl

lemma collectActorBinding_ok (h : collectActorBinding c plan bindings role = .ok bindings') :
    (role.actorId = none ∧ bindings' = bindings) ∨ ∃ actor a b, ActorIntent c plan role actor a b ∧
        (∀ old, bindings.get? actor = some old → old = b) ∧
        bindings' = bindings.insert actor b := by
  unfold collectActorBinding at h
  split at h
  · next hnone =>
    cases h
    exact .inl ⟨hnone, rfl⟩
  · next actor hactor =>
    simp only [bind_eq_ok, okOr_eq_ok, refuse_eq_ok, pure_eq_ok] at h
    obtain ⟨a, ha, physical, hphysical, b, hb, _, hexisting, _, hprevious, rfl⟩ := h
    refine .inr ⟨actor, a, b, ⟨hactor, ha, ⟨physical, hphysical, hb⟩, ?_⟩, ?_, rfl⟩
    · intro old hold
      rw [hold, any_some] at hexisting
      simp only [Bool.or_eq_false_iff, bne_eq_false_iff_eq] at hexisting
      exact ⟨hexisting.1.1, hexisting.1.2⟩
    · intro old hold
      rw [hold, any_some, bne_eq_false_iff_eq] at hprevious
      exact hprevious

lemma collectActorBindings_ok {roles : List RoleRequirement}
    (h : roles.foldlM (collectActorBinding c plan) bindings = .ok bindings') :
    (∀ actor b, bindings.get? actor = some b → bindings'.get? actor = some b) ∧
    ∀ role ∈ roles, ∀ actor, role.actorId = some actor →
      ∃ a b, bindings'.get? actor = some b ∧ ActorIntent c plan role actor a b := by
  induction roles generalizing bindings with
  | nil =>
    simp only [foldlM_nil, pure_eq_ok] at h
    subst h
    exact ⟨fun _ _ hb => hb, by simp⟩
  | cons role roles ih =>
    rw [foldlM_cons, bind_eq_ok] at h
    obtain ⟨_, hrole, hrest⟩ := h
    obtain ⟨hkept, hroles⟩ := ih hrest
    rcases collectActorBinding_ok hrole with ⟨hnone, rfl⟩ | ⟨actor, a, b, hintent, hsame, rfl⟩
    · refine ⟨hkept, ?_⟩
      intro r hr actor hactor
      rcases mem_cons.mp hr with rfl | hr
      · cases hnone.symm.trans hactor
      · exact hroles r hr actor hactor
    · constructor
      · intro actor' b' hb'
        refine hkept actor' b' ?_
        rw [get?_insert]
        split
        · next hactor =>
          subst hactor
          rw [hsame b' hb']
        · exact hb'
      · intro r hr actor' hactor'
        rcases mem_cons.mp hr with rfl | hr
        · cases hintent.actorOf.symm.trans hactor'
          exact ⟨a, b, hkept actor b (get?_insert_self _ _ _), hintent⟩
        · exact hroles r hr actor' hactor'

lemma mem_rolesOf {task : TaskRef} :
    role ∈ g.rolesOf task ↔ ∃ id, g.roleRequirement task id = some role := by
  unfold ExecutionGroup.rolesOf ExecutionGroup.roleRequirement
  simp only [List.mem_map, List.mem_filter, beq_iff_eq]
  constructor
  · rintro ⟨⟨key, r⟩, ⟨hmem, rfl⟩, rfl⟩
    exact ⟨(ofLex key).2, mem_entries_iff.mp hmem⟩
  · rintro ⟨id, hget⟩
    exact ⟨(toLex (task, id), role), ⟨mem_entries_iff.mpr hget, rfl⟩, rfl⟩

/-- Every Actor of the Task is bound as its Role's assignment intends. -/
lemma validateActors_ok {actors : OrdMap ActorId ActorBinding} {id : RoleId}
    (h : validateAuthoritativeActorAssignments c g plan = .ok actors)
    (hrole : g.roleRequirement plan.taskRef id = some role) (hactor : role.actorId = some actor) :
    ∃ a b, actors.get? actor = some b ∧ ActorIntent c plan role actor a b := by
  simp only [validateAuthoritativeActorAssignments, bind_eq_ok, okOr_eq_ok] at h
  obtain ⟨_, -, bindings, hbindings, h⟩ := h
  obtain rfl : bindings = actors := by
    split at h
    · exact pure_eq_ok.mp h
    · simp only [bind_eq_ok, pure_eq_ok] at h
      exact h.choose_spec.2
  exact (collectActorBindings_ok hbindings).2 role (mem_rolesOf.mpr ⟨id, hrole⟩) actor hactor

/-! ### Pending commitments -/

section

variable (c : ControlPlane)

@[simp] lemma setGroup_pending (id : ExecutionGroupId) (g : ExecutionGroup) :
    (c.setGroup id g).pendingRecoveryCommitments = c.pendingRecoveryCommitments := rfl

@[simp] lemma releaseResources_pending (rs : List ResourceId) :
    (c.releaseResources rs).pendingRecoveryCommitments = c.pendingRecoveryCommitments := by
  rw [releaseResources_frame]

variable (group : ExecutionGroupId)

@[simp] lemma releaseCapacityTask_pending (task : TaskRef)
    (role : Option RoleId) : (c.releaseCapacityTask group task role).pendingRecoveryCommitments =
      c.pendingRecoveryCommitments := rfl

@[simp] lemma releaseCapacityContext_pending (context : CoordinationContextId) :
    (c.releaseCapacityContext group context).pendingRecoveryCommitments =
      c.pendingRecoveryCommitments := rfl

lemma releaseGroupOwnership_pending_get? {c : ControlPlane} {id : ExecutionGroupId}
    {rs : List ResourceId}
    (h : (c.releaseGroupOwnership id rs).pendingRecoveryCommitments.get? key = some r) :
    c.pendingRecoveryCommitments.get? key = some r ∧ (ofLex key).1 ≠ id := by
  unfold releaseGroupOwnership at h
  dsimp only at h
  rw [releaseResources_pending] at h
  obtain ⟨hkept, hother⟩ := (get?_eq_some_retain ..).mp h
  exact ⟨hkept, by simpa using hother⟩

@[simp] lemma withActors_pending (mission : MissionId) (actors : List (ActorId × ActorBinding)) :
    (c.withActors mission actors).pendingRecoveryCommitments = c.pendingRecoveryCommitments := by
  rw [withActors_frame]

@[simp] lemma bindReservations_pending (plan : CommittedPlan) :
    (bindReservations group plan c).pendingRecoveryCommitments = c.pendingRecoveryCommitments := by
  rw [bindReservations_frame]

end

/-- How a pending recovery commitment is written. -/
inductive PendingChange (c : ControlPlane) : Call → RecoveryKey → CommittedRecoveryAssignment →
    Prop where
  | committed {e : Evidence} {requirement : TaskRequirement} {p : RecoveryAssignmentProposal}
      {role : RoleRequirement} (valid : validateRecoveryCommit c e requirement p = .ok role) :
      PendingChange c (.commitRoleRecovery e requirement p)
        (recoveryKey p.groupId p.taskRef p.roleId) p.committed

lemma Effect.pending_cases (h : Effect c call c')
    (hr : c'.pendingRecoveryCommitments.get? key = some r) :
    c.pendingRecoveryCommitments.get? key = some r ∨ PendingChange c call key r := by
  induction h with
  | unchanged | tenant | registry | topology | limits | nodeConstraint | candidateRestriction
  | reserved | preempted | groupCreated | groupMoved | groupActivated | groupCompleted | taskMoved
  | reboundPartly => exact .inl hr
  | taskReleased | contextReleased | roleReleased | taskRoleReleased | bound | boundPartly =>
    exact .inl (by simpa using hr)
  | groupSuperseded | groupReleased => exact .inl (releaseGroupOwnership_pending_get? hr).1
  | @taskActivated c id task now g t scheduled =>
    refine .inl ?_
    cases scheduled with
    | true =>
      rw [if_pos rfl, activateScheduledTask_frame] at hr
      exact hr
    | false => exact hr
  | consumed =>
    rw [consumeScheduledTask_frame] at hr
    exact .inl hr
  | invalidated =>
    rw [invalidateScheduledTask_frame] at hr
    exact .inl hr
  | missionCancelled =>
    rw [cancelScheduledMission_frame] at hr
    exact .inl hr
  | committed support valid ledgers =>
    rw [reserveAssignments_frame, commitLedgers_frame ledgers] at hr
    exact .inl hr
  | taskRecoveryBegun valid group task release ih
  | legacyRecoveryBegun valid group task release ih | executionRecoveryBegun begun ih =>
    rcases ih hr with hold | hnew
    · exact .inl hold
    · cases hnew
  | @recoveryCommitted c charged e requirement p role valid ledgers =>
    have hpending : (charged.withCommitment e p).pendingRecoveryCommitments =
        c.pendingRecoveryCommitments.insert (recoveryKey p.groupId p.taskRef p.roleId)
          p.committed := by
      show (p.replacementResourceIds.foldl (reserveReplacement e p)
        charged).pendingRecoveryCommitments.insert _ _ = _
      rw [reserveReplacements_frame, recoveryLedgers_frame ledgers]
    rw [hpending] at hr
    rcases insert_cases hr with ⟨rfl, rfl⟩ | ⟨-, hr⟩
    · exact .inr (.committed valid)
    · exact .inl hr
  | @recoveryAborted c r₀ =>
    have hpending : (c.withoutCommitment r₀).pendingRecoveryCommitments =
        c.pendingRecoveryCommitments.erase (recoveryKey r₀.groupId r₀.taskRef r₀.roleId) := by
      show ((c.releaseResources _).releaseCapacityTask _ _ _).pendingRecoveryCommitments.erase _ = _
      rw [releaseCapacityTask_pending, releaseResources_pending]
    rw [hpending, get?_erase] at hr
    split at hr
    · cases hr
    · exact .inl hr
  | @rebound c e r₀ g g' =>
    have hpending : ((c.setGroup r₀.groupId g').finishRebind r₀).pendingRecoveryCommitments =
        c.pendingRecoveryCommitments.erase (recoveryKey r₀.groupId r₀.taskRef r₀.roleId) := rfl
    rw [hpending, get?_erase] at hr
    split at hr
    · cases hr
    · exact .inl hr

/-- Commitments are stored under the Role they are for, in a Group there is. -/
def ControlPlane.CommitmentsKeyed (c : ControlPlane) : Prop :=
  ∀ key r, c.pendingRecoveryCommitments.get? key = some r →
    key = recoveryKey r.groupId r.taskRef r.roleId ∧ ∃ g, c.group r.groupId = some g

lemma Effect.commitmentsKeyed (h : Effect c call c')
    (hc : c.CommitmentsKeyed) : c'.CommitmentsKeyed := by
  intro key r hr
  rcases h.pending_cases hr with hold | hnew
  · obtain ⟨hkey, g, hg⟩ := hc key r hold
    exact ⟨hkey, h.group_kept _ g hg⟩
  · cases hnew with
    | committed valid =>
      obtain ⟨g, _, hv⟩ := validateRecoveryCommit_ok valid
      exact ⟨rfl, h.group_kept _ g hv.group⟩

lemma ControlPlane.Idle.commitmentsKeyed (h : c.Idle) : c.CommitmentsKeyed := by
  intro key r hr
  rw [h.commitments] at hr
  cases hr

end RoboGuide.Control
