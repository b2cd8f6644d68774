import RoboGuide.Control.Actors

/-!
# `RoboGuide.Proofs.RegistryRevision`: a new physical registry and the next restart

`install_physical_entity_registry` compares a snapshot with the Actor bindings. A restart
also compares it with the pending recovery commitments: one that carries an Actor takeover
must find the very revision the takeover was authorized against.

A takeover is authorized against the current revision, which is never above the provenance
(`RegistryInv`). So a newer revision is never the one a pending takeover names, and the
restart after its installation passes exactly when no takeover is pending
(`newer_registry_restorable_iff`).
-/

namespace RoboGuide.Control

open Domain Lib Fallible ControlPlane RegistryProvenance Option

variable {c c' : ControlPlane} {s : PhysicalEntityRegistrySnapshot} {call : Call}
  {p : RegistryProvenance} {k : Kernel}

/-! ### Runs with restarts -/

inductive RegistryMove where
  | call (call : Call)
  | restart

/-- The world after a move. Whether the rest of the checkpoint is accepted is not asked, so
that there are only more runs. -/
def World.registryStep (w : World) : RegistryMove → World
  | .call c => w.step c
  | .restart => { w with kernel := { w.kernel with control := w.control.withoutRegistry } }

/-- The values a move passes in were handed out before. -/
def RegistryMove.Possible (w : World) : RegistryMove → Prop
  | .call c => c.Possible w
  | .restart => True

instance RegistryMove.decidablePossible (w : World) (move : RegistryMove) :
    Decidable (move.Possible w) := by
  unfold RegistryMove.Possible
  split <;> infer_instance

abbrev World.RegistryRun : World → World → Prop :=
  Reaches World.registryStep fun w move => move.Possible w

/-! ### The invariant -/

/-- The installed registry is the one the provenance names. -/
def ControlPlane.ProvenanceCurrent (c : ControlPlane) : Prop :=
  ∀ s, c.physicalEntityRegistry = some s → c.registryProvenance = some (.fromSnapshot s)

structure RegistryInv (c : ControlPlane) : Prop where
  current : c.ProvenanceCurrent
  dated : ∀ key r a, c.pendingRecoveryCommitments.get? key = some r → r.actorTakeover = some a →
    ∃ p, c.registryProvenance = some p ∧ a.registryRevision ≤ p.highestRevision

lemma validateRegistryInstall_eq_ok : validateRegistryInstall c s = .ok () ↔
      (∀ p, c.registryProvenance = some p → p.validateSuccessor (.fromSnapshot s) = .ok ()) ∧
        ∀ b ∈ c.actorBindings.values, bindingInRegistry s b = true := by
  simp only [validateRegistryInstall, bind_eq_ok, forM_eq_ok, refuse_eq_ok, exists_const,
    mem_toList, Bool.not_eq_false']

lemma Effect.provenance_le (h : Effect c call c') (hp : c.registryProvenance = some p) :
    ∃ p', c'.registryProvenance = some p' ∧ p.highestRevision ≤ p'.highestRevision := by
  show ∃ p', c'.authority.provenance = some p' ∧ p.highestRevision ≤ p'.highestRevision
  rcases h.authority_cases with hsame | hchange
  · exact ⟨p, by rw [hsame]; exact hp, Nat.le_refl _⟩
  · generalize c'.authority = t at hchange
    cases hchange with
    | registry valid =>
      have h := (validateRegistryInstall_eq_ok.mp valid).1 p hp
      simp only [validateSuccessor, bind_eq_ok, refuse_eq_ok, decide_eq_false_iff_not] at h
      obtain ⟨_, -, _, _, -⟩ := h
      exact ⟨_, rfl, by omega⟩
    | nodeConstraint | candidateRestriction | semantics | bound | takenOver =>
      exact ⟨p, hp, Nat.le_refl _⟩

lemma Effect.provenanceCurrent (h : Effect c call c')
    (hc : c.ProvenanceCurrent) : c'.ProvenanceCurrent := by
  show ∀ s, c'.authority.registry = some s → c'.authority.provenance = some (.fromSnapshot s)
  rcases h.authority_cases with hsame | hchange
  · rw [hsame]
    exact hc
  · generalize c'.authority = t at hchange
    cases hchange with
    | registry =>
      intro s hs
      cases hs
      rfl
    | nodeConstraint | candidateRestriction | semantics | bound | takenOver => exact hc

lemma committed_takeover_current {e : Evidence}
    {requirement : TaskRequirement} {p : RecoveryAssignmentProposal} {role : RoleRequirement}
    {a : ActorTakeoverAuthorization} (valid : validateRecoveryCommit c e requirement p = .ok role)
    (ha : p.actorTakeover = some a) :
    ∃ s, c.physicalEntityRegistry = some s ∧ s.revision = a.registryRevision := by
  obtain ⟨g, _, hv⟩ := validateRecoveryCommit_ok valid
  have hactor := hv.actor
  rw [validateRecoveryActor, ha] at hactor
  simp only [validateActorTakeover, bind_eq_ok, okOr_eq_ok, refuse_eq_ok, Bool.or_eq_false_iff,
    bne_eq_false_iff_eq] at hactor
  obtain ⟨_, ⟨_, _, _, _, _, _, _, _, _, _, _, _, s, hs, ⟨⟨-, hrevision⟩, -⟩, -⟩, -⟩ := hactor
  exact ⟨s, hs, hrevision⟩

lemma RegistryInv.effect (hc : RegistryInv c) (h : Effect c call c') : RegistryInv c' := by
  refine ⟨h.provenanceCurrent hc.current, fun key r a hr ha => ?_⟩
  have hdated : ∃ p, c.registryProvenance = some p ∧ a.registryRevision ≤ p.highestRevision := by
    rcases h.pending_cases hr with hold | hnew
    · exact hc.dated key r a hold ha
    · cases hnew with
      | committed valid =>
        obtain ⟨s, hs, hrevision⟩ := committed_takeover_current valid ha
        exact ⟨_, hc.current s hs, hrevision.ge⟩
  obtain ⟨p, hp, hle⟩ := hdated
  obtain ⟨p', hp', hle'⟩ := h.provenance_le hp
  exact ⟨p', hp', hle.trans hle'⟩

lemma RegistryInv.withoutRegistry (hc : RegistryInv c) : RegistryInv c.withoutRegistry :=
  ⟨fun _ hs => (by cases hs), hc.dated⟩

lemma RegistryInv.run {w₀ w : World} (h₀ : w₀.Idle) (hstart : w₀.control.ProvenanceCurrent)
    (hrun : World.RegistryRun w₀ w) : RegistryInv w.control := by
  refine hrun.invariant (P := fun w => RegistryInv w.control) ⟨hstart, ?_⟩ ?_
  · intro key r a hr
    rw [h₀.control.commitments] at hr
    cases hr
  · intro t move ht hmove
    cases move with
    | call call => exact ht.effect (Call.effect t call)
    | restart => exact ht.withoutRegistry

/-! ### Installing a newer revision -/

/-- No recovery waits for its Rebind with an Actor takeover. -/
def ControlPlane.NoPendingTakeover (c : ControlPlane) : Prop :=
  ∀ r ∈ c.pendingRecoveryCommitments.values, r.actorTakeover = none

instance (c : ControlPlane) : Decidable c.NoPendingTakeover := by
  unfold ControlPlane.NoPendingTakeover
  infer_instance

def ControlPlane.Newer (c : ControlPlane) (s : PhysicalEntityRegistrySnapshot) : Prop :=
  ∀ p, c.registryProvenance = some p → p.highestRevision < s.revision

lemma ControlPlane.newer_of_provenance (hp : c.registryProvenance = some p)
    (hlt : p.highestRevision < s.revision) : c.Newer s := by
  intro p' hp'
  cases hp.symm.trans hp'
  exact hlt

lemma installPhysicalEntityRegistry_eq_ok {k' : Kernel} :
    installPhysicalEntityRegistry s k = .ok () k' ↔ validateRegistryInstall k.control s = .ok () ∧
        k' = { k with control := k.control.withRegistry s } := by
  simp only [installPhysicalEntityRegistry, run_get_bind, run_check_bind]
  cases validateRegistryInstall k.control s with
  | error => simp
  | ok =>
    simp only [true_and]
    exact ⟨fun h => by cases h; rfl, fun h => by rw [h]; rfl⟩

lemma validateOnRestore_withRegistry :
    validatePhysicalEntityRegistryOnRestore (c.withRegistry s) = .ok () ↔
      ∀ r ∈ c.pendingRecoveryCommitments.values, ∀ a, r.actorTakeover = some a →
        takeoverInRegistry s a = true := by
  simp only [validatePhysicalEntityRegistryOnRestore, withRegistry, bind_eq_ok,
    forM_eq_ok, refuse_eq_ok]
  simp [all_eq_true]

lemma validateBinding_of_registry {b : ActorBinding} (hb : bindingInRegistry s b = true) :
    (fromSnapshot s).validateBinding b = .ok () := by
  rw [validateBinding, refuse_eq_ok]
  cases hentity : b.physicalEntityId with
  | none => rfl
  | some =>
    simp only [bindingInRegistry, hentity, all_some, Bool.and_eq_true, beq_iff_eq] at hb
    obtain ⟨⟨-, hid⟩, hrevision⟩ := hb
    show (b.registryId != some s.registryId ||
      !b.registryRevision.any fun revision => decide (revision ≤ s.revision)) = false
    rw [hid, hrevision]
    simp

lemma validateSuccessor_self (p : RegistryProvenance) : p.validateSuccessor p = .ok () := by
  simp [validateSuccessor, bind_eq_ok]

lemma restartWithRegistry_ok_iff (hvalid : validateRegistryInstall k.control s = .ok ()) :
    (∃ k', restartWithRegistry s { k with control := k.control.withRegistry s } = .ok () k') ↔
      validatePhysicalEntityRegistryOnRestore (k.control.withRegistry s) = .ok () := by
  have hbindings := (validateRegistryInstall_eq_ok.mp hvalid).2
  have hprovenance : validateProvenanceCheckpoint (k.control.withRegistry s) = .ok () := by
    simp only [validateProvenanceCheckpoint, bind_eq_ok, forM_eq_ok]
    refine ⟨(), by simp [withRegistry], fun p hp b hb => ?_⟩
    obtain rfl : p = .fromSnapshot s := by simpa [withRegistry] using hp
    exact validateBinding_of_registry (hbindings b hb)
  have hagain : validateRegistryInstall (k.control.withRegistry s).withoutRegistry s = .ok () := by
    refine validateRegistryInstall_eq_ok.mpr ⟨fun p hp => ?_, hbindings⟩
    cases hp
    exact validateSuccessor_self _
  let emptied : Kernel := { k with control := (k.control.withRegistry s).withoutRegistry }
  have hinstalled : installPhysicalEntityRegistry s emptied =
      .ok () { k with control := k.control.withRegistry s } :=
    installPhysicalEntityRegistry_eq_ok.mpr ⟨hagain, rfl⟩
  have hrun : restartWithRegistry s { k with control := k.control.withRegistry s } =
      (check (validatePhysicalEntityRegistryOnRestore (k.control.withRegistry s)) :
        ControlM Unit) { k with control := k.control.withRegistry s } := by
    simp only [restartWithRegistry, run_get_bind, run_check_bind, hprovenance]
    show (installPhysicalEntityRegistry s >>= _) emptied = _
    rw [run_bind, hinstalled]
    rfl
  rw [hrun, run_check]
  cases validatePhysicalEntityRegistryOnRestore (k.control.withRegistry s) <;> simp

/-- Every newer registry whose installation is accepted passes the restore check, then and
after a restart, exactly when no takeover is pending. -/
theorem newer_registry_restorable_iff {w₀ w : World} (h₀ : w₀.Idle)
    (hstart : w₀.control.ProvenanceCurrent) (hrun : World.RegistryRun w₀ w)
    {s : PhysicalEntityRegistrySnapshot} {k : Kernel} (hnewer : w.control.Newer s)
    (hinstall : installPhysicalEntityRegistry s w.kernel = .ok () k) :
    (validatePhysicalEntityRegistryOnRestore k.control = .ok () ∧
        ∃ k', restartWithRegistry s k = .ok () k') ↔ w.control.NoPendingTakeover := by
  obtain ⟨hvalid, rfl⟩ := installPhysicalEntityRegistry_eq_ok.mp hinstall
  have hc : RegistryInv w.control := .run h₀ hstart hrun
  rw [restartWithRegistry_ok_iff hvalid, and_self, validateOnRestore_withRegistry]
  constructor
  · intro h r hr
    refine Option.eq_none_iff_forall_ne_some.mpr fun a ha => ?_
    -- The takeover names a revision the provenance has reached, the new one is above it.
    obtain ⟨key, hkey⟩ := mem_values_iff.mp hr
    obtain ⟨p, hp, _⟩ := hc.dated key r a hkey ha
    have hlt := hnewer p hp
    have hrevision : s.revision = a.registryRevision := by
      have htakeover := h r hr a ha
      simp only [takeoverInRegistry, Bool.and_eq_true, beq_iff_eq] at htakeover
      exact htakeover.1.1.2
    omega
  · intro h r hr a ha
    rw [h r hr] at ha
    cases ha

namespace Takeover

def task : TaskRef := ⟨⟨"mission", .refl false⟩, ⟨"task", .refl false⟩⟩
def lift : RoleId := ⟨"lift", .refl false⟩
def actor : ActorId := ⟨"actor", .refl false⟩
def node : NodeId := ⟨"node", .refl false⟩
def spare : NodeId := ⟨"spare", .refl false⟩
def entity : PhysicalEntityId := ⟨"entity", .refl false⟩
def spareEntity : PhysicalEntityId := ⟨"spare-entity", .refl false⟩
def group : ExecutionGroupId := ⟨"group", .refl false⟩
def context : CoordinationContextId := ⟨"context", .refl false⟩

def role : RoleRequirement := ⟨lift, some actor, [], [], List.nodup_nil⟩

def requirement : TaskRequirement where
  taskRef := task
  roles := [role]
  timing := ⟨0, none, none, none⟩
  roles_nonempty := by decide
  roles_distinct := by simp

/-- An Actor lifts. -/
def plan : MissionPlan where
  missionId := task.missionId
  objective := "lift"
  actors := [⟨actor, none⟩]
  tasks := [⟨"lift", requirement, [], ⟨context, ∅, ∅, none⟩, .executionReport, by simp, by decide⟩]
  contexts := [⟨context, [], [], .independent⟩]
  valid := by decide

def registry : PhysicalEntityRegistrySnapshot where
  registryId := ⟨"registry", .refl false⟩
  revision := 1
  entities := OrdMap.ofList [(entity, node), (spareEntity, spare)]
  one_entity_per_node := by decide +kernel

def evidence : Evidence := .granting 0 [(node, []), (spare, [])]

def digest : String :=
  "sha256:0123456789abcdef0123456789abcdef0123456789abcdef0123456789abcdef"

def assignments : List RoleAssignment := [⟨lift, node, []⟩]

def need : RoleRecoveryNeed := ⟨group, task, lift, node⟩

def authorization : ActorTakeoverAuthorization :=
  ⟨group, task, lift, actor, node, entity, spare, spareEntity, registry.registryId, 1, digest⟩

/-- The Actor is bound to a node, loses its Role there, and a spare node takes the Role over. -/
def calls : List Call :=
  [.installPhysicalEntityRegistry registry, .createMissionGroup group plan,
    .readyTaskExecution group task,
    .propose evidence requirement ⟨task, OrdMap.ofList [(lift, [node])], ∅, ∅, [], ∅⟩ assignments,
    .commitForGroupWithState evidence group
      ⟨task, assignments, ∅, OrdMap.ofList [(lift, role)], ∅⟩,
    .bindTaskExecutionWithState evidence group ⟨task, assignments, ∅, ∅, none⟩,
    .activateTaskExecution group task 0, .beginRoleRecovery need,
    .authorizeActorTakeover need requirement entity spareEntity digest,
    .matchRecoveryCandidates evidence need requirement none false (some authorization),
    .proposeRoleRecovery evidence
      ⟨false, group, task, lift, node, [spare], none, some authorization⟩ requirement spare [],
    .commitRoleRecovery evidence requirement
      ⟨false, group, task, lift, node, spare, [], none, some authorization⟩,
    .rebindRoleWithState evidence
      ⟨false, group, task, lift, node, spare, [], none, some authorization⟩]

def start : World := World.start [(task.missionId, "tenant")]

/-- The same deployment, at the next revision. -/
def nextRegistry : PhysicalEntityRegistrySnapshot := { registry with revision := 2 }

/-- The world once the takeover is committed, before its Rebind. -/
def committed : World := (calls.dropLast.map .call).foldl World.registryStep start

/-- The world once the takeover is bound. -/
def rebound : World := (calls.map .call).foldl World.registryStep start

end Takeover

/-- After the Rebind, the next revision can be installed and the server restarted with it. -/
theorem rebound_registry_restorable :
    ∃ k, installPhysicalEntityRegistry Takeover.nextRegistry Takeover.rebound.kernel = .ok () k ∧
      validatePhysicalEntityRegistryOnRestore k.control = .ok () ∧
      ∃ k', restartWithRegistry Takeover.nextRegistry k = .ok () k' := by
  have hvalid : validateRegistryInstall Takeover.rebound.control Takeover.nextRegistry =
      .ok () := by
    decide +kernel
  have hinstall := installPhysicalEntityRegistry_eq_ok.mpr ⟨hvalid, rfl⟩
  have hrun : World.RegistryRun Takeover.start Takeover.rebound :=
    Reaches.of_list _ .refl (by decide +kernel)
  have hnewer : Takeover.rebound.control.Newer Takeover.nextRegistry :=
    newer_of_provenance (p := .fromSnapshot Takeover.registry) (by decide +kernel)
      (by decide)
  exact ⟨_, hinstall, (newer_registry_restorable_iff (World.start_idle _) (fun _ hs => by cases hs)
    hrun hnewer hinstall).mpr (by decide +kernel)⟩

/-- Before the Rebind the next revision is installed too, and the restore check refuses it. -/
theorem pending_takeover_refuses_newer_registry :
    ¬ ∀ (w₀ w : World) (s : PhysicalEntityRegistrySnapshot) (k : Kernel), w₀.Idle →
      w₀.control.ProvenanceCurrent → World.RegistryRun w₀ w → w.control.Newer s →
      installPhysicalEntityRegistry s w.kernel = .ok () k →
      validatePhysicalEntityRegistryOnRestore k.control = .ok () := by
  intro h
  have hvalid : validateRegistryInstall Takeover.committed.control Takeover.nextRegistry =
      .ok () := by decide +kernel
  have hnewer : Takeover.committed.control.Newer Takeover.nextRegistry :=
    newer_of_provenance (p := .fromSnapshot Takeover.registry) (by decide +kernel)
      (by decide)
  have hrun : World.RegistryRun Takeover.start Takeover.committed :=
    Reaches.of_list _ .refl (by decide +kernel)
  have hinstall := installPhysicalEntityRegistry_eq_ok.mpr ⟨hvalid, rfl⟩
  have hrefused : validatePhysicalEntityRegistryOnRestore
      (Takeover.committed.control.withRegistry Takeover.nextRegistry) ≠ .ok () := by
    decide +kernel
  refine hrefused (h Takeover.start Takeover.committed Takeover.nextRegistry _
    (World.start_idle _) (fun _ hs => by cases hs) hrun hnewer hinstall)

end RoboGuide.Control
