import RoboGuide.Control.Actors
import RoboGuide.Control.Membership

/-!
# `RoboGuide.Control.Placement`: Roles, their nodes and the bindings of their Actors

Where a Role is bound and where a waiting Role was bound last, how one call changes that, and
how it moves with the bindings of Actors. A binding moves in a takeover only
(`Effect.boundAt`).
-/

namespace RoboGuide.Control

open Domain Lib Fallible ControlPlane ExecutionGroup List Option

variable {c c' : ControlPlane} {id : ExecutionGroupId} {node : NodeId} {role : RoleId}
  {task : TaskRef} {e : Evidence} {g : ExecutionGroup} {r : CommittedRecoveryAssignment}
  {a : ActorTakeoverAuthorization} {actor : ActorId} {call : Call} {slot : UnboundRole}
  {plan : CommittedPlan}

namespace ControlPlane

def actorOf (c : ControlPlane) (id : ExecutionGroupId) (task : TaskRef) (role : RoleId) :
    Option ActorId :=
  ((c.group id).bind fun g => g.roleRequirement task role).bind (·.actorId)

/-- The Actor's binding is on the node. -/
def BoundAt (c : ControlPlane) (mission : MissionId) (actor : ActorId) (node : NodeId) : Prop :=
  ∃ b, c.actorBinding mission actor = some b ∧ b.nodeId = node

/-- The Role has a live assignment on the node. -/
def AssignedAt (c : ControlPlane) (id : ExecutionGroupId) (task : TaskRef) (role : RoleId)
    (node : NodeId) : Prop :=
  ∃ v, c.view id task = some v ∧ ∃ a ∈ v.execution.assignments, a.roleId = role ∧ a.nodeId = node

/-- The Role waits for recovery from the node. -/
def WaitingAt (c : ControlPlane) (id : ExecutionGroupId) (task : TaskRef) (role : RoleId)
    (node : NodeId) : Prop :=
  ∃ v, c.view id task = some v ∧ ∃ slot, v.slots role = some slot ∧ slot.previousNodeId = node

end ControlPlane

/-! ### Where Roles are -/

inductive Assigned (c : ControlPlane) :
    Call → ExecutionGroupId → TaskRef → RoleId → NodeId → Prop where
  | bound {e : Evidence} {id : ExecutionGroupId} {plan : CommittedPlan} {g : ExecutionGroup}
      {t : TaskExecution} {actors : OrdMap ActorId ActorBinding} {a : RoleAssignment}
      (valid : validateBind c e id plan = .ok (g, t, actors)) (assigned : a ∈ plan.assignments) :
      Assigned c (.bindTaskExecutionWithState e id plan) id plan.taskRef a.roleId a.nodeId
  | rebound {e : Evidence} {r : CommittedRecoveryAssignment} {g : ExecutionGroup}
      {slot : UnboundRole} (valid : validateRebind c e r = .ok (g, slot)) :
      Assigned c (.rebindRoleWithState e r) r.groupId r.taskRef r.roleId r.replacementNodeId

lemma Effect.assigned_cases (h : Effect c call c') (ha : c'.AssignedAt id task role node) :
    c.AssignedAt id task role node ∨ Assigned c call id task role node := by
  obtain ⟨v', hv', a, hmem, hrole, hnode⟩ := ha
  rcases h.view_cases hv' with hsame | hchange
  · exact .inl ⟨v', hsame, a, hmem, hrole, hnode⟩
  · cases hchange with
    | planned new view | carried new view =>
      obtain ⟨t, ht, rfl⟩ := view_eq_some.mp view
      obtain ⟨p, -, -, rfl⟩ := (missionGroup_taskExecution _ _ _ _ _).mp ht
      cases hmem
    | cleared => cases hmem
    | regrouped before | moved move before | activated before =>
      exact .inl ⟨_, before, a, hmem, hrole, hnode⟩
    | bound own before valid =>
      subst own hrole hnode
      exact .inr (.bound valid hmem)
    | taskReleased before => exact .inl ⟨_, before, a, mem_of_mem_filter hmem, hrole, hnode⟩
    | @contextReleased context g v before =>
      refine .inl ⟨_, before, ?_⟩
      unfold TaskView.withoutContext withoutContextResources at hmem
      split at hmem
      · obtain ⟨b, hb, rfl⟩ := mem_map.mp hmem
        exact ⟨b, hb, hrole, hnode⟩
      · exact ⟨a, hmem, hrole, hnode⟩
    | roleReleased release before =>
      exact .inl ⟨_, before, a, (eraseIdx_sublist ..).subset hmem, hrole, hnode⟩
    | @rebound e r g slot v own before blocked valid =>
      rcases (mem_insertIdx (Nat.min_le_right _ _)).mp hmem with rfl | hmem
      · obtain ⟨rfl, rfl⟩ := own
        subst hrole hnode
        exact .inr (.rebound valid)
      · exact .inl ⟨_, before, a, hmem, hrole, hnode⟩

lemma Effect.waiting_cases (h : Effect c call c') (hw : c'.WaitingAt id task role node) :
    c.WaitingAt id task role node ∨ c.AssignedAt id task role node := by
  obtain ⟨v', hv', slot, hslot, hnode⟩ := hw
  rcases h.view_cases hv' with hsame | hchange
  · exact .inl ⟨v', hsame, slot, hslot, hnode⟩
  · cases hchange with
    | planned new view | carried new view =>
      obtain ⟨t, -, rfl⟩ := view_eq_some.mp view
      cases hslot
    | cleared => cases hslot
    | regrouped before | moved move before | activated before | bound own before
    | taskReleased before | contextReleased before => exact .inl ⟨_, before, slot, hslot, hnode⟩
    | @roleReleased _ role' a v release before unfinished found =>
      change (if role = role' then _ else v.slots role) = some slot at hslot
      split at hslot
      · next hr =>
        cases hslot
        have hrole : a.roleId = role' := by simpa using find?_some found
        exact .inr ⟨v, before, a, mem_of_find?_eq_some found, hrole.trans hr.symm, hnode⟩
      · exact .inl ⟨v, before, slot, hslot, hnode⟩
    | @rebound e r g slot' v own before =>
      change (if role = r.roleId then none else v.slots role) = some slot at hslot
      split at hslot
      · cases hslot
      · exact .inl ⟨v, before, slot, hslot, hnode⟩

lemma Effect.actorOf_kept (h : Effect c call c') (hg : c.group id = some g) (task : TaskRef)
    (role : RoleId) : c'.actorOf id task role = c.actorOf id task role := by
  obtain ⟨g', hg', hshape⟩ := h.shape_kept hg
  have hroles : g'.roleRequirements = g.roleRequirements := by
    rw [← shape_roleRequirements, hshape, shape_roleRequirements]
  unfold actorOf
  rw [hg', hg, bind_some, bind_some, roleRequirement, hroles]
  rfl

/-! ### Where Actors are bound -/

/-- What a successful `validateRebindTakeover` says. -/
structure RebindTakeover (c : ControlPlane) (g : ExecutionGroup) (r : CommittedRecoveryAssignment)
    (a : ActorTakeoverAuthorization) : Prop where
  role : ∃ role, g.roleRequirement r.taskRef r.roleId = some role ∧ role.actorId = some a.actorId
  replacement : a.replacementNodeId = r.replacementNodeId
  previous : a.previousNodeId = r.previousNodeId

lemma validateRebindTakeover_ok
    (h : validateRebindTakeover c g r a = .ok ()) : RebindTakeover c g r a := by
  simp only [validateRebindTakeover, bind_eq_ok, okOr_eq_ok, refuse_eq_ok, Bool.or_eq_false_iff,
    bne_eq_false_iff_eq, Bool.not_eq_false'] at h
  obtain ⟨role, hrole, _, ⟨⟨⟨-, hprevious⟩, hreplacement⟩, hactor⟩, -⟩ := h
  exact ⟨⟨role, hrole, hactor⟩, hreplacement, hprevious⟩

lemma takeover_actor
    (valid : validateRebind c e r = .ok (g, slot)) (ha : r.actorTakeover = some a) :
    ∃ old, c.group r.groupId = some old ∧ RebindTakeover c old r a ∧
      c.actorOf r.groupId r.taskRef r.roleId = some a.actorId := by
  obtain ⟨old, hv⟩ := validateRebind_ok valid
  have ht := validateRebindTakeover_ok (hv.takeover a ha)
  obtain ⟨role, hrole, hactor⟩ := ht.role
  refine ⟨old, hv.group, ht, ?_⟩
  rw [actorOf, hv.group, bind_some, hrole]
  exact hactor

lemma Effect.boundAt (h : Effect c call c')
    {mission : MissionId} (hb : c.BoundAt mission actor node) :
    c'.BoundAt mission actor node ∨ ∃ e r a, call = .rebindRoleWithState e r ∧
      r.actorTakeover = some a ∧ r.taskRef.missionId = mission ∧ a.actorId = actor ∧
      c'.BoundAt mission actor r.replacementNodeId := by
  obtain ⟨b, hb, rfl⟩ := hb
  obtain ⟨b', hb'⟩ := h.binding_kept hb
  rcases h.binding_cases hb' with hold | hnew
  · obtain rfl := some.inj (hold.symm.trans hb)
    exact .inl ⟨b', hb', rfl⟩
  · cases hnew with
    | bound valid new => cases new.symm.trans hb
    | takenOver valid takeover =>
      obtain ⟨_, -, ht, -⟩ := takeover_actor valid takeover
      exact .inr ⟨_, _, _, rfl, takeover, rfl, rfl, _, hb', ht.replacement⟩

lemma Effect.rebind_cases (h : Effect c (.rebindRoleWithState e r) c')
    (hgen : (Call.rebindRoleWithState e r).HasGeneration c) :
    c' = c ∨ ∃ g g' slot, validateRebind c e r = .ok (g, slot) ∧ g.refreshMembership = .ok g' ∧
      c' = (c.setGroup r.groupId g').finishRebind r := by
  cases h with
  | unchanged => exact .inl rfl
  | groupMoved move | taskMoved move => cases move
  | rebound evidence valid stored => exact .inr ⟨_, _, _, valid, stored, rfl⟩
  | reboundPartly evidence valid exhausted =>
    obtain ⟨_, hv⟩ := validateRebind_ok valid
    have hleft := hgen _ rfl _ hv.group
    rw [ExecutionGroup.HasGeneration, ← reboundGroup_version hv.rebound] at hleft
    obtain ⟨g', hg'⟩ := refreshMembership_of_generation hleft
    cases exhausted.symm.trans hg'

lemma Effect.bind_cases (h : Effect c (.bindTaskExecutionWithState e id plan) c')
    (hgen : (Call.bindTaskExecutionWithState e id plan).HasGeneration c) :
    c' = c ∨ ∃ g g' t actors, validateBind c e id plan = .ok (g, t, actors) ∧
      (boundGroup g t plan).refreshMembership = .ok g' ∧
      c' = ((bindReservations id plan c).setGroup id g').withActors plan.taskRef.missionId
        actors.entries := by
  cases h with
  | unchanged => exact .inl rfl
  | groupMoved move | taskMoved move => cases move
  | bound evidence valid stored => exact .inr ⟨_, _, _, _, valid, stored, rfl⟩
  | boundPartly evidence valid exhausted =>
    have hv := validateBind_ok valid
    have hleft := hgen _ rfl _ hv.group
    obtain ⟨g', hg'⟩ := refreshMembership_of_generation (g := boundGroup _ _ _) hleft
    cases exhausted.symm.trans hg'

lemma bound_boundAt {t : TaskExecution}
    {actors : OrdMap ActorId ActorBinding} {a : RoleAssignment}
    (hplanned : c.GroupsPlanned) (valid : validateBind c e id plan = .ok (g, t, actors))
    (hauthority : c'.authority = c.authority.withActors plan.taskRef.missionId actors.entries)
    (ha : a ∈ plan.assignments) (hactor : c.actorOf id plan.taskRef a.roleId = some actor) :
    c'.BoundAt plan.taskRef.missionId actor a.nodeId := by
  have hv := validateBind_ok valid
  rw [actorOf, hv.group, bind_some] at hactor
  obtain ⟨role, hrole, hactor⟩ := bind_eq_some_iff.mp hactor
  obtain ⟨a', b, hb, hintent⟩ := validateActors_ok hv.actors hrole hactor
  -- The Role's assignment is unique in the plan.
  have hroleId := ((hplanned id g hv.group).requirement hrole).1
  have hdistinct : (plan.assignments.map (·.roleId)).Nodup := by
    have hcovered := hv.covered
    simp only [validateTaskAssignments, bind_eq_ok, refuse_eq_ok] at hcovered
    obtain ⟨_, -, hdistinct⟩ := hcovered
    simpa using hdistinct
  have hsame : a' = a := by
    have hid : a'.roleId = a.roleId := by
      rw [← hroleId]
      simpa using find?_some hintent.assignment
    exact inj_on_of_nodup_map hdistinct (mem_of_find?_eq_some hintent.assignment) ha hid
  have hnode : b.nodeId = a.nodeId := hsame ▸ hintent.node
  have hget : c'.actorBinding plan.taskRef.missionId actor =
      (c.actorBinding plan.taskRef.missionId actor).or (some b) := by
    show c'.authority.bindings.get? _ = _
    rw [hauthority, withActors_get?, find?_actorKey, hb]
    rfl
  cases hold : c.actorBinding plan.taskRef.missionId actor with
  | none => exact ⟨b, by rw [hget, hold, none_or], hnode⟩
  | some old => exact ⟨old, by rw [hget, hold, some_or], (hintent.existing old hold).1.trans hnode⟩

/-! ### Roles are on the nodes of their Actors -/

/-- The Actor has no live assignment that the takeover leaves behind. -/
def TakenAlone (c : ControlPlane) (r : CommittedRecoveryAssignment)
    (a : ActorTakeoverAuthorization) : Prop :=
  ∀ g ∈ c.groups.entries, ∀ t ∈ g.2.taskExecutions.entries, ∀ x ∈ t.2.assignments,
    t.1.missionId = r.taskRef.missionId → c.actorOf g.1 t.1 x.roleId = some a.actorId →
      x.nodeId = r.replacementNodeId

instance (c : ControlPlane) (r : CommittedRecoveryAssignment) (a : ActorTakeoverAuthorization) :
    Decidable (TakenAlone c r a) := by
  unfold TakenAlone
  infer_instance

/-- A takeover moves all of its Actor's live assignments. -/
def Call.KeepsPlacement (c : ControlPlane) : Call → Prop
  | .rebindRoleWithState _ r => ∀ a ∈ r.actorTakeover, TakenAlone c r a
  | _ => True

instance (c : ControlPlane) (call : Call) : Decidable (call.KeepsPlacement c) := by
  unfold Call.KeepsPlacement
  split <;> infer_instance

/-- A Rebind without a takeover goes to the Actor's present node. -/
def Call.BindsCurrent (c : ControlPlane) : Call → Prop
  | .rebindRoleWithState _ r =>
    c.pendingRecoveryCommitments.get? (recoveryKey r.groupId r.taskRef r.roleId) = some r →
      r.actorTakeover = none → ∀ actor ∈ c.actorOf r.groupId r.taskRef r.roleId,
        c.BoundAt r.taskRef.missionId actor r.replacementNodeId
  | _ => True

def Call.binds : Call → Bool
  | .bindTaskExecutionWithState _ _ _ | .rebindRoleWithState _ _ => true
  | _ => false

lemma TakenAlone.assigned (h : TakenAlone c r a) (hx : c.AssignedAt id task role node)
    (hmission : task.missionId = r.taskRef.missionId)
    (hactor : c.actorOf id task role = some a.actorId) : node = r.replacementNodeId := by
  obtain ⟨v, hv, x, hx, rfl, rfl⟩ := hx
  obtain ⟨g, hg, hview⟩ := view_eq_some.mp hv
  obtain ⟨t, ht, rfl⟩ := view_eq_some.mp hview
  exact h (id, g) (mem_entries_iff.mpr hg) (task, t)
    (mem_entries_iff.mpr ht) x hx hmission hactor

/-- Live Roles are on the nodes of their Actors' bindings. -/
structure RolesPlaced (c : ControlPlane) : Prop where
  planned : c.GroupsPlanned
  waiting : ∀ id task role node actor, c.WaitingAt id task role node →
    c.actorOf id task role = some actor → ∃ b, c.actorBinding task.missionId actor = some b
  assigned : ∀ id task role node actor, c.AssignedAt id task role node →
    c.actorOf id task role = some actor → c.BoundAt task.missionId actor node

lemma ControlPlane.AssignedAt.group (h : c.AssignedAt id task role node) :
    ∃ g, c.group id = some g := by
  obtain ⟨v, hv, -⟩ := h
  obtain ⟨g, hg, -⟩ := view_eq_some.mp hv
  exact ⟨g, hg⟩

lemma ControlPlane.WaitingAt.group (h : c.WaitingAt id task role node) :
    ∃ g, c.group id = some g := by
  obtain ⟨v, hv, -⟩ := h
  obtain ⟨g, hg, -⟩ := view_eq_some.mp hv
  exact ⟨g, hg⟩

lemma waitingAt_of_slot (hplanned : c.GroupsPlanned)
    (hg : c.group id = some g) (hslot : g.recoveryUnboundRole task role = some slot) :
    ∃ v, c.view id task = some v ∧ v.slots role = some slot := by
  unfold recoveryUnboundRole at hslot
  split at hslot
  · next ht =>
    obtain ⟨t, ht⟩ := isSome_iff_exists.mp ht
    exact ⟨_, view_of_execution hg ht, hslot⟩
  · split at hslot
    · next hlegacy => exact absurd hlegacy.1 (hplanned id g hg).tasks_ne_empty
    · cases hslot

lemma recoveryCommit_boundAt {requirement : TaskRequirement}
    {p : RecoveryAssignmentProposal} {role : RoleRequirement}
    (hc : RolesPlaced c) (valid : validateRecoveryCommit c e requirement p = .ok role)
    (htakeover : p.actorTakeover = none)
    (hactor : c.actorOf p.groupId p.taskRef p.roleId = some actor) :
    c.BoundAt p.taskRef.missionId actor p.replacementNodeId := by
  obtain ⟨g, slot, hv⟩ := validateRecoveryCommit_ok valid
  obtain ⟨v, hview, hslot⟩ := waitingAt_of_slot hc.planned hv.group hv.slotFound
  obtain ⟨b, hb⟩ := hc.waiting _ _ _ _ actor ⟨v, hview, slot, hslot, rfl⟩ hactor
  refine ⟨b, hb, ?_⟩
  rw [actorOf, hv.group, bind_some] at hactor
  obtain ⟨_, hrole', hactor⟩ := bind_eq_some_iff.mp hactor
  obtain rfl := recoveryRole_authoritative hv.roleFound hrole'
  have hmission : requirement.taskRef = p.taskRef := by
    have hfound := hv.roleFound
    simp only [recoveryRole, bind_eq_ok, refuse_eq_ok] at hfound
    simpa using hfound.choose_spec.1
  have hauthority : c.actorAuthorityNode p.taskRef.missionId actor = some b.nodeId := by
    rw [actorAuthorityNode, hb]
    rfl
  have hvalid := hv.actor
  rw [validateRecoveryActor, htakeover] at hvalid
  simp only [hactor, bind_some, hmission, hauthority, map_some, refuse_eq_ok,
    bne_eq_false_iff_eq] at hvalid
  exact hvalid.symm

section

lemma Assigned.boundAt (hnew : Assigned c call id task role node) (h : Effect c call c')
    (hgen : call.binds = true → call.HasGeneration c) (hcurrent : call.BindsCurrent c)
    (hc : RolesPlaced c) (ha : c'.AssignedAt id task role node)
    (hactor : c.actorOf id task role = some actor) : c'.BoundAt task.missionId actor node := by
  cases hnew with
  | bound valid mem =>
    rcases h.bind_cases (hgen rfl) with rfl | ⟨g, g', t, _, valid', -, rfl⟩
    · exact hc.assigned _ _ _ _ actor ha hactor
    · refine bound_boundAt hc.planned valid' ?_ mem hactor
      rw [withActors_authority, setGroup_authority, bindReservations_frame]
      rfl
  | @rebound e r g slot valid =>
    rcases h.rebind_cases (hgen rfl) with rfl | ⟨g, g', _, _, -, rfl⟩
    · exact hc.assigned _ _ _ _ actor ha hactor
    · cases htakeover : r.actorTakeover with
      | none =>
        obtain ⟨_, hv⟩ := validateRebind_ok valid
        obtain ⟨b, hb, hnode⟩ := hcurrent hv.pending htakeover actor hactor
        refine ⟨b, ?_, hnode⟩
        simp only [actorBinding, finishRebind, htakeover]
        exact hb
      | some a =>
        obtain ⟨_, -, ht, hof⟩ := takeover_actor valid htakeover
        cases hof.symm.trans hactor
        refine ⟨takeoverBinding r.taskRef.missionId a, ?_, ht.replacement⟩
        simp only [actorBinding, finishRebind, htakeover]
        exact get?_insert_self _ _ _

lemma Assigned.group (hnew : Assigned c call id task role node) : ∃ g, c.group id = some g := by
  cases hnew with
  | bound valid => exact ⟨_, (validateBind_ok valid).group⟩
  | rebound valid =>
    obtain ⟨old, hv⟩ := validateRebind_ok valid
    exact ⟨old, hv.group⟩

lemma Effect.rolesPlaced (h : Effect c call c')
    (hgen : call.binds = true → call.HasGeneration c) (hkeeps : call.KeepsPlacement c)
    (hcurrent : call.BindsCurrent c) (hc : RolesPlaced c) : RolesPlaced c' := by
  refine ⟨h.planned hc.planned, ?waiting, ?assigned⟩
  case waiting =>
    intro id task role node actor hw hactor
    rcases h.waiting_cases hw with hold | hold
    · obtain ⟨g, hg⟩ := hold.group
      rw [h.actorOf_kept hg] at hactor
      obtain ⟨b, hb⟩ := hc.waiting _ _ _ _ actor hold hactor
      exact h.binding_kept hb
    · obtain ⟨g, hg⟩ := hold.group
      rw [h.actorOf_kept hg] at hactor
      obtain ⟨b, hb, -⟩ := hc.assigned _ _ _ _ actor hold hactor
      exact h.binding_kept hb
  case assigned =>
    intro id task role node actor ha hactor
    rcases h.assigned_cases ha with hold | hnew
    · obtain ⟨g, hg⟩ := hold.group
      rw [h.actorOf_kept hg] at hactor
      rcases h.boundAt (hc.assigned _ _ _ _ actor hold hactor) with hkept |
        ⟨e, r, a, rfl, htakeover, hmission, rfl, hmoved⟩
      · exact hkept
      · -- The takeover leaves no Role of the Actor on another node.
        rw [(hkeeps a htakeover).assigned hold hmission.symm hactor]
        exact hmoved
    · obtain ⟨g, hg⟩ := hnew.group
      rw [h.actorOf_kept hg] at hactor
      exact hnew.boundAt h hgen hcurrent hc ha hactor

/-! ### Commitments are on the nodes of their Actors -/

/-- No other pending commitment of the Actor goes to another node. -/
def CommitsAlone (c : ControlPlane) (r : CommittedRecoveryAssignment)
    (a : ActorTakeoverAuthorization) : Prop :=
  ∀ p ∈ c.pendingRecoveryCommitments.values, p.actorTakeover = none →
    p.taskRef.missionId = r.taskRef.missionId →
      c.actorOf p.groupId p.taskRef p.roleId = some a.actorId →
        p.replacementNodeId = r.replacementNodeId

instance (c : ControlPlane) (r : CommittedRecoveryAssignment) (a : ActorTakeoverAuthorization) :
    Decidable (CommitsAlone c r a) := by
  unfold CommitsAlone
  infer_instance

/-- A takeover strands no pending commitment. -/
def Call.KeepsCommitments (c : ControlPlane) : Call → Prop
  | .rebindRoleWithState _ r => ∀ a ∈ r.actorTakeover, CommitsAlone c r a
  | _ => True

instance (c : ControlPlane) (call : Call) : Decidable (call.KeepsCommitments c) := by
  unfold Call.KeepsCommitments
  split <;> infer_instance

/-- Commitments without a takeover go to their Actors' present nodes. -/
structure CommitmentsPlaced (c : ControlPlane) : Prop where
  keyed : c.CommitmentsKeyed
  committed : ∀ key r actor, c.pendingRecoveryCommitments.get? key = some r →
    r.actorTakeover = none → c.actorOf r.groupId r.taskRef r.roleId = some actor →
      c.BoundAt r.taskRef.missionId actor r.replacementNodeId

lemma CommitmentsPlaced.bindsCurrent (hc : CommitmentsPlaced c) (call : Call) :
    call.BindsCurrent c := by
  unfold Call.BindsCurrent
  split
  · exact fun hpending hnone actor hactor => hc.committed _ _ actor hpending hnone hactor
  · trivial

lemma Effect.commitmentsPlaced (h : Effect c call c') (hkeeps : call.KeepsCommitments c)
    (hplaced : RolesPlaced c) (hc : CommitmentsPlaced c) : CommitmentsPlaced c' := by
  refine ⟨h.commitmentsKeyed hc.keyed, ?_⟩
  intro key p actor hp hnone hactor
  rcases h.pending_cases hp with hold | hnew
  · obtain ⟨-, g, hg⟩ := hc.keyed key p hold
    rw [h.actorOf_kept hg] at hactor
    rcases h.boundAt (hc.committed key p actor hold hnone hactor) with hkept |
      ⟨e, r, a, rfl, htakeover, hmission, rfl, hmoved⟩
    · exact hkept
    · have hmem := mem_values_iff.mpr ⟨key, hold⟩
      rw [hkeeps a htakeover p hmem hnone hmission.symm hactor]
      exact hmoved
  · cases hnew with
    | committed valid =>
      obtain ⟨g, _, hv⟩ := validateRecoveryCommit_ok valid
      have hof := (h.actorOf_kept hv.group _ _).symm.trans hactor
      rcases h.boundAt (recoveryCommit_boundAt hplaced valid hnone hof) with hkept |
        ⟨_, _, _, hcall, -⟩
      · exact hkept
      · cases hcall

end

lemma ControlPlane.Idle.rolesPlaced (h : c.Idle) : RolesPlaced c := by
  have hview : ∀ id task v, c.view id task = some v → False := by
    intro id task v hv
    obtain ⟨g, hg, -⟩ := view_eq_some.mp hv
    rw [group, h.groups] at hg
    cases hg
  refine ⟨h.groupsPlanned, ?_, ?_⟩
  · rintro id task role node actor ⟨v, hv, -⟩
    exact (hview id task v hv).elim
  · rintro id task _ _ _ ⟨v, hv, -⟩
    exact (hview id task v hv).elim

lemma ControlPlane.Idle.commitmentsPlaced (h : c.Idle) : CommitmentsPlaced c := by
  refine ⟨h.commitmentsKeyed, fun key r actor hr => ?_⟩
  rw [h.commitments] at hr
  cases hr

end RoboGuide.Control
