import RoboGuide.Control.Fleet
import RoboGuide.Control.Tables

/-!
# `RoboGuide.Control.Deployment`: Control and Shared Node State together

A run mixes Control calls, whose evidence is the current Shared Node State, calls about nodes,
and restarts: a checkpoint brings the Control Plane back, while Shared Node State, leases and
sessions start empty (the server's bridge would bring node snapshots back, as unreachable).

A reservation does not name its node. `Deployment.holdings` remembers, for the proofs, what a
Commit took: the node and the demand of the assignment.
-/

namespace RoboGuide.Control

open Domain Lib State Fallible List

variable {id : ResourceId} {move : NodeMove} {registration : NodeRegistration} {c : ControlPlane}
  {e : Evidence} {n : NodeId} {p : AssignmentProposal} {c' : ControlPlane} {a : RoleAssignment}

/-! ### What a Commit takes -/

structure Holding where
  nodeId : NodeId
  kind : ResourceKind
  mode : ResourceAllocationMode
  resourceClass : Option String
deriving DecidableEq

def selectedHolding (node : NodeId) (resources : List ResourceId)
    (demands : List ResourceRequirement) (id : ResourceId) : Option Holding :=
  ((resources.zip demands).find? fun d => d.1 == id).map fun d =>
    ⟨node, d.2.kind, d.2.allocationMode, d.2.resourceClass⟩

def Call.holding (id : ResourceId) : Call → Option Holding
  | .commitForGroupWithState _ _ p => p.assignments.findSome? fun a =>
    if id ∈ exclusiveSelection p a then
      (p.roleRequirements.get? a.roleId).bind fun role =>
        selectedHolding a.nodeId a.resourceIds role.resources id
    else none
  | .commitRoleRecovery _ requirement p =>
    (requirement.roles.find? fun role => role.roleId == p.roleId).bind fun role =>
      selectedHolding p.replacementNodeId p.replacementResourceIds role.resources id
  | _ => none

def Holding.declaredBy (h : Holding) (id : ResourceId) (registration : NodeRegistration) : Bool :=
  registration.resources.any fun r => r.id == id && r.kind == h.kind &&
    r.allocationMode == h.mode && r.resourceClass == h.resourceClass

lemma Holding.declaredBy_iff (h : Holding) (id : ResourceId) (registration : NodeRegistration) :
    h.declaredBy id registration = true ↔ ∃ r ∈ registration.resources, r.id = id ∧
      r.kind = h.kind ∧ r.allocationMode = h.mode ∧ r.resourceClass = h.resourceClass := by
  simp [Holding.declaredBy, and_assoc]

lemma NodeRegistration.ownsResource_iff (registration : NodeRegistration) (id : ResourceId) :
    registration.ownsResource id = true ↔ ∃ r ∈ registration.resources, r.id = id := by
  simp [NodeRegistration.ownsResource]

lemma Holding.declaredBy.owns {h : Holding}
    (hdeclared : h.declaredBy id registration = true) : registration.ownsResource id = true := by
  obtain ⟨r, hr, hid, -⟩ := (h.declaredBy_iff id registration).mp hdeclared
  exact (registration.ownsResource_iff id).mpr ⟨r, hr, hid⟩

section

variable {resources : List ResourceId} {demands : List ResourceRequirement}

lemma selectedHolding_declared (node : NodeId) (hlength : resources.length = demands.length)
    (hserved : ∀ d ∈ resources.zip demands,
      ∃ r ∈ registration.resources, servesDemand r d.1 d.2 = true) (hid : id ∈ resources) :
    ∃ h, selectedHolding node resources demands id = some h ∧ h.nodeId = node ∧
      h.declaredBy id registration = true := by
  obtain ⟨_, hdemand⟩ := exists_demand hlength hid
  have hsome : ((resources.zip demands).find? fun d => d.1 == id).isSome = true :=
    find?_isSome.mpr ⟨_, hdemand, by simp⟩
  obtain ⟨found, hfound⟩ := Option.isSome_iff_exists.mp hsome
  refine ⟨_, by rw [selectedHolding, hfound]; rfl, rfl, ?_⟩
  have hsame : found.1 = id := by simpa using find?_some hfound
  obtain ⟨r, hr, hserves⟩ := hserved found (mem_of_find?_eq_some hfound)
  simp only [servesDemand, Bool.and_eq_true, beq_iff_eq, decide_eq_true_eq] at hserves
  obtain ⟨⟨⟨⟨hrid, hkind⟩, -⟩, hmode⟩, hclass⟩ := hserves
  exact (Holding.declaredBy_iff _ _ _).mpr ⟨r, hr, hrid.trans hsame, hkind, hmode, hclass⟩

end

lemma Effect.assignments_supported {group : ExecutionGroupId}
    (h : Effect c (.commitForGroupWithState e group p) c') :
    c' = c ∨ ∀ a ∈ p.assignments, validateAssignmentSupport c e p a = .ok () := by
  cases h with
  | unchanged => exact .inl rfl
  | groupMoved move | taskMoved move => cases move
  | committed support =>
    simp only [validateCommitSupport, bind_eq_ok] at support
    obtain ⟨_, -, _, hassignments, -⟩ := support
    exact .inr (forM_eq_ok.mp hassignments)

lemma validateAssignmentSupport_ok (h : validateAssignmentSupport c e p a = .ok ()) :
    ∃ role node, p.roleRequirements.get? a.roleId = some role ∧ e.node a.nodeId = some node ∧
      a.resourceIds.length = role.resources.length ∧ ∀ d ∈ a.resourceIds.zip role.resources,
        ∃ r ∈ node.resources, servesDemand r d.1 d.2 = true := by
  suffices hseen : ∃ role node, p.roleRequirements.get? a.roleId = some role ∧
      e.tenantNode p.taskRef.missionId a.nodeId = some node ∧
      a.resourceIds.length = role.resources.length ∧
      ∀ d ∈ a.resourceIds.zip role.resources,
        ∃ r ∈ node.resources, servesDemand r d.1 d.2 = true by
    obtain ⟨role, node, hrole, hnode, hrest⟩ := hseen
    refine ⟨role, node, hrole, ?_, hrest⟩
    unfold Evidence.tenantNode at hnode
    split at hnode
    · exact hnode
    · cases hnode
  unfold validateAssignmentSupport at h
  split at h
  · simp only [bind_eq_ok, okOr_eq_ok, refuse_eq_ok, forM_eq_ok, bne_eq_false_iff_eq,
      Bool.not_eq_false', any_eq_true] at h
    obtain ⟨role, hrole, _, -, node, hnode, _, hlength, hserved⟩ := h
    exact ⟨role, node, hrole, hnode, hlength, hserved⟩
  · simp only [bind_eq_ok, okOr_eq_ok, refuse_eq_ok, forM_eq_ok, bne_eq_false_iff_eq,
      Bool.not_eq_false', any_eq_true] at h
    obtain ⟨_, -, _, -, role, hrole, _, -, node, hnode, _, hlength, hserved⟩ := h
    exact ⟨role, node, hrole, hnode, hlength, hserved⟩

lemma recoveryRole_supplied {g : ExecutionGroup} {requirement : TaskRequirement}
    {task : TaskRef} {roleId : RoleId} {role : RoleRequirement}
    (h : recoveryRole g requirement task roleId = .ok role) :
    (requirement.roles.find? fun r => r.roleId == roleId) = some role := by
  simp only [recoveryRole, bind_eq_ok, okOr_eq_ok] at h
  obtain ⟨_, -, _, hsupplied, h⟩ := h
  split at h
  · obtain rfl := pure_eq_ok.mp h
    exact hsupplied
  · simp only [bind_eq_ok, refuse_eq_ok, bne_eq_false_iff_eq, pure_eq_ok] at h
    obtain ⟨_, hsame, rfl⟩ := h
    rw [hsupplied, hsame]

lemma mem_of_exclusiveSelection (h : id ∈ exclusiveSelection p a) : id ∈ a.resourceIds := by
  unfold exclusiveSelection at h
  split at h
  · exact h
  · obtain ⟨_, hentry, rfl⟩ := mem_map.mp h
    exact fst_mem_of_mem_zipIdx (mem_filter.mp hentry).1

/-! ### Runs -/

structure Deployment where
  world : World
  nodes : NodePlane
  holdings : ResourceId → Option Holding

def Deployment.control (d : Deployment) : ControlPlane := d.world.control

/-- The resource is reserved, and this is what was committed of it. -/
def Deployment.Holds (d : Deployment) (id : ResourceId) (h : Holding) : Prop :=
  d.control.reservations.contains id = true ∧ d.holdings id = some h

inductive DeploymentMove where
  | call (call : Call)
  | fleet (move : NodeMove)
  | restart

/-- One step. A resource that is reserved keeps its holding. -/
def Deployment.step (d : Deployment) : DeploymentMove → Deployment
  | .call c =>
    { d with
      world := d.world.step c
      holdings := fun id => if d.control.reservations.contains id then d.holdings id
        else c.holding id }
  | .fleet move => { d with nodes := d.nodes.step move }
  | .restart =>
    { d with
      world := { d.world with kernel :=
        { d.world.kernel with control := d.control.withoutRegistry } }
      nodes := .empty }

def Call.evidence : Call → Option Evidence
  | .reserveScheduledTask e _ _ _ | .propose e _ _ _ | .commitForGroupWithState e _ _
  | .bindTaskExecutionWithState e _ _ | .matchRecoveryCandidates e _ _ _ _ _
  | .proposeRoleRecovery e _ _ _ _ | .commitRoleRecovery e _ _ | .rebindRoleWithState e _ => some e
  | _ => none

def NodeMove.context : NodeMove → Option NodeContext
  | .register env .. | .update env .. | .registerSession env .. | .reportedHealth env .. => some env
  | _ => none

lemma Effect.newly_held {call : Call} (heffect : Effect c call c')
    (hold : c.reservations.contains id = false) (hnew : c'.reservations.contains id = true) :
    ∃ e h node, call.evidence = some e ∧ call.holding id = some h ∧ e.node h.nodeId = some node ∧
      h.declaredBy id node = true := by
  obtain ⟨held, hheld⟩ := contains_eq_true_iff.mp hnew
  have hnone : c.reservations.get? id = none := by simpa [OrdMap.contains] using hold
  rcases heffect.reservation_cases id held hheld with hsame | hchange
  · rw [hnone] at hsame
    cases hsame
  cases hchange with
  | bound valid mem uses old =>
    rw [hnone] at old
    cases old
  | @committed e group p capacity t owner a r valid mem owner_ok uses =>
    rcases heffect.assignments_supported with rfl | hsupported
    · rw [hnone] at hheld
      cases hheld
    -- every assignment that selects the resource has a holding, so the first one has
    have hfirst : ∀ b ∈ p.assignments, id ∈ exclusiveSelection p b →
        ∃ h node, ((p.roleRequirements.get? b.roleId).bind fun role =>
          selectedHolding b.nodeId b.resourceIds role.resources id) = some h ∧
          e.node h.nodeId = some node ∧ h.declaredBy id node = true := by
      intro b hb hselected
      obtain ⟨role, node, hrole, hnode, hlength, hserved⟩ :=
        validateAssignmentSupport_ok (hsupported b hb)
      obtain ⟨h, hholding, hat, hdeclared⟩ :=
        selectedHolding_declared b.nodeId hlength hserved (mem_of_exclusiveSelection hselected)
      exact ⟨h, node, by rw [hrole]; exact hholding, hat ▸ hnode, hdeclared⟩
    have hsome : ((Call.commitForGroupWithState e group p).holding id).isSome = true := by
      rw [Call.holding, findSome?_isSome_iff]
      obtain ⟨h, node, hholding, -⟩ := hfirst a mem uses
      exact ⟨a, mem, by rw [if_pos uses, hholding]; rfl⟩
    obtain ⟨h, hholding⟩ := Option.isSome_iff_exists.mp hsome
    obtain ⟨b, hb, hat⟩ := exists_of_findSome?_eq_some hholding
    split at hat
    · next hselected =>
      obtain ⟨h', node, hh', hnode, hdeclared⟩ := hfirst b hb hselected
      obtain rfl := Option.some.inj (hh'.symm.trans hat)
      exact ⟨e, h', node, rfl, hholding, hnode, hdeclared⟩
    · cases hat
  | @recovered e requirement p role r valid uses =>
    obtain ⟨g, _, hvalid⟩ := validateRecoveryCommit_ok valid
    obtain ⟨node, hnode, hserved⟩ := hvalid.served
    obtain ⟨h, hholding, hat, hdeclared⟩ :=
      selectedHolding_declared p.replacementNodeId hvalid.covered hserved uses
    refine ⟨e, h, node, rfl, ?_, hat ▸ hnode, hdeclared⟩
    rw [Call.holding, recoveryRole_supplied hvalid.roleFound]
    exact hholding

def DeploymentMove.Possible (d : Deployment) : DeploymentMove → Prop
  | .call c => c.Possible d.world ∧
    ∀ e ∈ c.evidence, e.nodes = d.nodes.state.mapValues fun _ snapshot => snapshot.registration
  | .fleet move => ∀ env ∈ move.context, env.control = d.control
  | .restart => True

instance DeploymentMove.decidablePossible (d : Deployment) (move : DeploymentMove) :
    Decidable (move.Possible d) := by
  unfold DeploymentMove.Possible
  split <;> infer_instance

/-- A run of possible moves that meet `condition`. -/
abbrev Deployment.Run (condition : Deployment → DeploymentMove → Prop) :
    Deployment → Deployment → Prop :=
  Reaches Deployment.step fun d move => move.Possible d ∧ condition d move

/-- An idle Control Plane and no node. -/
def Deployment.start (w : World) : Deployment := ⟨w, .empty, fun _ => none⟩

/-! ### Accepted registrations -/

structure RegistrationChecked (d : Deployment) (n : NodeId) (registration : NodeRegistration) :
    Prop where
  available : ensureResourceIdentitiesAvailable d.nodes.state n registration = .ok ()
  covered : ensureDeclaredCapacityCoversCommitments d.control n registration = .ok ()
  remains : ∀ current, d.nodes.state.get? n = some current →
    ensureCommittedResourcesRemainDeclared d.control current.registration registration = .ok ()

lemma NodeMove.Declares.checked {d : Deployment} (h : move.Declares d.nodes n registration)
    (hpossible : (DeploymentMove.fleet move).Possible d) :
    RegistrationChecked d n registration := by
  unfold NodeMove.Declares at h
  split at h
  · next env node r status lease receivedAt timestamp =>
    obtain ⟨⟨rfl, rfl⟩, haccepted⟩ := h
    have henv : env.control = d.control := hpossible env rfl
    cases hv : validateRegistration env d.nodes node r status lease receivedAt timestamp with
    | error =>
      rw [hv] at haccepted
      cases haccepted
    | ok =>
      simp only [validateRegistration, bind_eq_ok, henv] at hv
      obtain ⟨_, -, _, -, _, -, _, -, _, havailable, _, hcovered, _, hremains, -⟩ := hv
      refine ⟨havailable, hcovered, fun current hcurrent => ?_⟩
      exact forM_eq_ok.mp hremains current (by simp [hcurrent])
  · next env node r timestamp =>
    obtain ⟨⟨rfl, rfl⟩, haccepted⟩ := h
    have henv : env.control = d.control := hpossible env rfl
    cases hv : validateUpdate env d.nodes node r timestamp with
    | error =>
      rw [hv] at haccepted
      cases haccepted
    | ok =>
      simp only [validateUpdate, bind_eq_ok, okOr_eq_ok, henv] at hv
      obtain ⟨_, hcurrent, _, -, _, -, _, -, _, havailable, _, hremains, _, hcovered, -⟩ := hv
      refine ⟨havailable, hcovered, fun current' hcurrent' => ?_⟩
      cases hcurrent.symm.trans hcurrent'
      exact hremains
  · exact h.elim

/-! ### One owner for a resource -/

lemma RegistrationChecked.apart {d : Deployment}
    (h : RegistrationChecked d n registration) {m : NodeId} {r : NodeRegistration}
    (hm : registrationOf d.nodes.state m = some r) (hne : m ≠ n)
    (howns : registration.ownsResource id = true) : r.ownsResource id = false := by
  obtain ⟨snapshot, hget, rfl⟩ := Option.map_eq_some_iff.mp hm
  have hentry := forM_eq_ok.mp h.available (m, snapshot)
    (mem_entries_iff.mpr hget)
  simp only [if_neg hne] at hentry
  obtain ⟨resource, hresource, rfl⟩ := (registration.ownsResource_iff id).mp howns
  exact refuse_eq_ok.mp (forM_eq_ok.mp hentry resource hresource)

/-- No resource is declared by two Nodes. -/
def Deployment.Apart (d : Deployment) : Prop :=
  ∀ n m r s id, registrationOf d.nodes.state n = some r →
    registrationOf d.nodes.state m = some s → n ≠ m → r.ownsResource id = true →
    s.ownsResource id = false

/-- A call about nodes changes at most one declaration, compared with all others. -/
lemma Deployment.Apart.fleet {d : Deployment} (h : d.Apart)
    (hpossible : (DeploymentMove.fleet move).Possible d) : (d.step (.fleet move)).Apart := by
  have hafter := d.nodes.registrationOf_step move
  intro n m r s id hn hm hne howns
  rcases hafter n with hsame | ⟨_, hdeclares, hnew⟩
  · rcases hafter m with hsame' | ⟨registration', hdeclares', hnew'⟩
    · exact h n m r s id (hsame ▸ hn) (hsame' ▸ hm) hne howns
    · cases hnew'.symm.trans hm
      by_contra hboth
      have := (hdeclares'.checked hpossible).apart (hsame ▸ hn) hne (by simpa using hboth)
      rw [howns] at this
      cases this
  · rcases hafter m with hsame' | ⟨_, hdeclares', -⟩
    · cases hnew.symm.trans hn
      exact (hdeclares.checked hpossible).apart (hsame' ▸ hm) hne.symm howns
    · refine absurd ?_ hne
      cases move with
      | register | update => exact hdeclares.1.1.symm.trans hdeclares'.1.1
      | _ => exact hdeclares.elim

end RoboGuide.Control
