import RoboGuide.Control.Backing
import RoboGuide.Control.Deployment

/-!
# `RoboGuide.Proofs.Declarations`: what is held stays declared

A registration is checked in two ways. Commitments that the ledgers know are compared with it
whatever Shared Node State holds: the pools of `capacity_ledger` name their node. An exclusive
reservation names no node, and `ensure_committed_resources_remain_declared` finds its node
through the registration that Shared Node State still has. After a restart there is none, so
the first registration of the node may leave the resource out, and another node may declare it.

`DeploymentMove.Redeclares` is what is missing: while the node of a held resource is not in
Shared Node State, that node's registration declares the resource as it was committed and no
other registration declares it. Under it every accepted registration declares all that is held
on its node and nothing that is held on another (`accepted_registration_declares_held`).
-/

namespace RoboGuide.Control

open Domain Lib State Fallible Deployment List

variable {move : NodeMove}
  {id : ResourceId} {record : CapacityAllocation} {d : Deployment} {w : World}

/-! ### The property and the condition -/

/-- The registration still has everything that Control holds on the node. -/
structure StillDeclared (d : Deployment) (n : NodeId) (registration : NodeRegistration) :
    Prop where
  /-- Every reservation was committed on some node. -/
  held : ∀ id, d.control.reservations.contains id = true → ∃ h, d.Holds id h
  exclusive : ∀ id h, d.Holds id h → h.nodeId = n →
    ∃ r ∈ registration.resources, (r.id = id ∧ r.kind = h.kind ∧ r.allocationMode = h.mode ∧
        r.resourceClass = h.resourceClass) ∧
      ∀ claim ∈ d.control.quotaLedger.claims.values, claim.resourceId = some id →
        claim.kind = r.kind ∧ claim.units ≤ r.capacity
  shared : ∀ record ∈ d.control.capacityLedger.allocations.values, record.original.nodeId = n →
    ∃ r ∈ registration.resources, r.id = record.original.resourceId ∧ r.kind = .compute ∧
      r.allocationMode = .divisible ∧ r.resourceClass = some record.original.resourceClass ∧
      d.control.capacityLedger.committedUnits r.id ≤ r.capacity
  foreign : ∀ id h, d.Holds id h → h.nodeId ≠ n → registration.ownsResource id = false
  foreignShared : ∀ record ∈ d.control.capacityLedger.allocations.values,
    record.original.nodeId ≠ n → registration.ownsResource record.original.resourceId = false

/-- The registration, where Shared Node State does not have the node of a held resource. -/
def Redeclares (d : Deployment) (n : NodeId) (registration : NodeRegistration) : Prop :=
  ∀ id ∈ d.control.reservations.keys, ∀ h ∈ d.holdings id, d.nodes.state.contains h.nodeId = false →
    if h.nodeId = n then h.declaredBy id registration = true
    else registration.ownsResource id = false

instance (d : Deployment) (n : NodeId) (registration : NodeRegistration) :
    Decidable (Redeclares d n registration) := by
  unfold Redeclares
  infer_instance

/-- A registration that the move brings redeclares what is held. -/
def DeploymentMove.Redeclares (d : Deployment) : DeploymentMove → Prop
  | .fleet (.register _ n registration _ _ _ _) | .fleet (.update _ n registration _) =>
    Control.Redeclares d n registration
  | _ => True

instance (d : Deployment) (move : DeploymentMove) : Decidable (move.Redeclares d) := by
  unfold DeploymentMove.Redeclares
  split <;> infer_instance

lemma NodeMove.Declares.redeclares {n : NodeId}
    {registration : NodeRegistration} (h : move.Declares d.nodes n registration)
    (hmove : (DeploymentMove.fleet move).Redeclares d) : Redeclares d n registration := by
  unfold NodeMove.Declares at h
  split at h
  · obtain ⟨⟨rfl, rfl⟩, -⟩ := h
    exact hmove
  · obtain ⟨⟨rfl, rfl⟩, -⟩ := h
    exact hmove
  · exact h.elim

/-! ### The invariant -/

/-- Nodes declare what Control holds on them, and nothing of each other. -/
structure Declared (d : Deployment) : Prop where
  sound : LedgersSound d.control
  units : ∀ a record, d.control.capacityLedger.allocations.get? a = some record →
    0 < record.original.allocationUnits
  held : ∀ id, d.control.reservations.contains id = true → ∃ h, d.Holds id h
  /-- The node of a held resource declares it as it was committed. -/
  declared : ∀ id h r, d.Holds id h → registrationOf d.nodes.state h.nodeId = some r →
    h.declaredBy id r = true
  /-- No two nodes declare one resource. -/
  apart : ∀ n m r s id, registrationOf d.nodes.state n = some r →
    registrationOf d.nodes.state m = some s → n ≠ m → r.ownsResource id = true →
    s.ownsResource id = false
  /-- No other node declares a held resource. -/
  foreign : ∀ id h n r, d.Holds id h → registrationOf d.nodes.state n = some r → n ≠ h.nodeId →
    r.ownsResource id = false

section

variable {n : NodeId} {registration : NodeRegistration} {holding : Holding}

lemma RegistrationChecked.remains_declared (h : RegistrationChecked d n registration)
    {r : NodeRegistration} (hcurrent : registrationOf d.nodes.state n = some r)
    (hheld : d.Holds id holding)
    (hdeclared : holding.declaredBy id r = true) : holding.declaredBy id registration = true := by
  obtain ⟨snapshot, hget, rfl⟩ := Option.map_eq_some_iff.mp hcurrent
  obtain ⟨resource, hresource, rfl, hkind, hmode, hclass⟩ :=
    (holding.declaredBy_iff _ _).mp hdeclared
  have hkept := forM_eq_ok.mp (h.remains snapshot hget) resource hresource
  simp only [refuse_eq_ok, hheld.1, Bool.true_or, Bool.true_and, Bool.not_eq_false',
    any_eq_true, Bool.and_eq_true, beq_iff_eq] at hkept
  obtain ⟨next, hnext, ⟨⟨⟨hid, hnextKind⟩, hnextMode⟩, hnextClass⟩, -⟩ := hkept
  exact (holding.declaredBy_iff _ _).mpr ⟨next, hnext, hid, hnextKind.trans hkind,
    hnextMode.trans hmode, hnextClass.trans hclass⟩

lemma Declared.held_cases (hd : Declared d) (h : RegistrationChecked d n registration)
    (hcovers : Redeclares d n registration) (hheld : d.Holds id holding) :
    if holding.nodeId = n then holding.declaredBy id registration = true
    else registration.ownsResource id = false := by
  cases hholder : registrationOf d.nodes.state holding.nodeId with
  | none =>
    refine hcovers id ?_ holding hheld.2 ?_
    · exact mem_keys_iff.mpr (contains_eq_true_iff.mp hheld.1)
    · simpa [registrationOf, OrdMap.contains] using hholder
  | some r =>
    have hdeclared := hd.declared id holding r hheld hholder
    split
    · next hn =>
      subst hn
      exact h.remains_declared hholder hheld hdeclared
    · next hn =>
      by_contra howns
      have := h.apart hholder hn (by simpa using howns)
      rw [Holding.declaredBy.owns hdeclared] at this
      cases this

/-- What Control committed of a resource is within what it declares. -/
structure ResourceCovered (c : ControlPlane) (n : NodeId) (resource : Resource) : Prop where
  shared : 0 < c.capacityLedger.committedUnits resource.id → coversShared c n resource = true
  exclusive : c.reservations.contains resource.id = true →
    ∀ claim ∈ c.quotaLedger.claims.values, claim.resourceId = some resource.id →
      claim.kind = resource.kind ∧ claim.units ≤ resource.capacity

lemma RegistrationChecked.resourceCovered (h : RegistrationChecked d n registration)
    {resource : Resource} (hresource : resource ∈ registration.resources) :
    ResourceCovered d.control n resource := by
  have hcovered := h.covered
  simp only [ensureDeclaredCapacityCoversCommitments, bind_eq_ok] at hcovered
  obtain ⟨_, -, _, -, hall⟩ := hcovered
  have hone := forM_eq_ok.mp hall resource hresource
  simp only [ensureResourceCovers, bind_eq_ok, refuse_eq_ok, Bool.and_eq_false_imp,
    decide_eq_true_eq, Bool.not_eq_false', any_eq_false] at hone
  obtain ⟨_, hshared, _, -, hclaims⟩ := hone
  refine ⟨hshared, fun hreserved claim hclaim hid => ?_⟩
  have hfits := hclaims hreserved claim hclaim
  simpa [hid] using hfits

lemma RegistrationChecked.owns_allocated (h : RegistrationChecked d n registration)
    (hrecord : record ∈ d.control.capacityLedger.allocations.values)
    (hn : record.original.nodeId = n) :
    ∃ r ∈ registration.resources, r.id = record.original.resourceId := by
  have hcovered := h.covered
  simp only [ensureDeclaredCapacityCoversCommitments, bind_eq_ok, forM_eq_ok, refuse_eq_ok,
    mem_filter, beq_iff_eq, and_imp, Bool.not_eq_false'] at hcovered
  obtain ⟨_, -, _, hremoved, -⟩ := hcovered
  exact (registration.ownsResource_iff _).mp (hremoved record hrecord hn)

lemma Declared.pool_covered (hd : Declared d) (h : RegistrationChecked d n registration)
    (hrecord : record ∈ d.control.capacityLedger.allocations.values)
    {r : Resource} (hr : r ∈ registration.resources) (hid : r.id = record.original.resourceId) :
    record.original.nodeId = n ∧ r.kind = .compute ∧ r.allocationMode = .divisible ∧
      r.resourceClass = some record.original.resourceClass ∧
      d.control.capacityLedger.committedUnits r.id ≤ r.capacity := by
  obtain ⟨a, hget⟩ := mem_values_iff.mp hrecord
  have hpos : 0 < d.control.capacityLedger.committedUnits record.original.resourceId := by
    refine (hd.units a record hget).trans_le
      (le_sum_of_mem (List.mem_map.mpr ⟨record, ?_, rfl⟩))
    exact List.mem_filter.mpr ⟨hrecord, by simp⟩
  have hcovers := (h.resourceCovered hr).shared (hid ▸ hpos)
  simp only [coversShared, Bool.and_eq_true, beq_iff_eq, decide_eq_true_eq, Bool.not_eq_true',
    any_eq_false] at hcovers
  obtain ⟨⟨⟨hmode, hkind⟩, hunits⟩, hrecords⟩ := hcovers
  have hsame := hrecords record hrecord
  simp only [hid, true_and, Bool.or_eq_true, bne_iff_ne, not_or, not_not] at hsame
  exact ⟨hsame.1, hkind, hmode, hsame.2.symm, hunits⟩

lemma Declared.stillDeclared (hd : Declared d) (h : RegistrationChecked d n registration)
    (hcovers : Redeclares d n registration) : StillDeclared d n registration where
  held := hd.held
  exclusive id holding hheld hn := by
    have hdeclared := hd.held_cases h hcovers hheld
    rw [if_pos hn] at hdeclared
    obtain ⟨r, hr, rfl, hrest⟩ := (holding.declaredBy_iff _ _).mp hdeclared
    exact ⟨r, hr, ⟨rfl, hrest⟩, (h.resourceCovered hr).exclusive hheld.1⟩
  shared record hrecord hn := by
    obtain ⟨r, hr, hid⟩ := h.owns_allocated hrecord hn
    exact ⟨r, hr, hid, (hd.pool_covered h hrecord hr hid).2⟩
  foreign id holding hheld hn := by
    have hcase := hd.held_cases h hcovers hheld
    rw [if_neg hn] at hcase
    exact hcase
  foreignShared record hrecord hn := by
    by_contra howns
    obtain ⟨r, hr, hid⟩ := (registration.ownsResource_iff _).mp (by simpa using howns)
    exact hn (hd.pool_covered h hrecord hr hid).1

end

/-! ### One step -/

section

variable {c : Call}

lemma Declared.start (hw : w.Idle) : Declared (Deployment.start w) where
  sound := hw.control.ledgersSound
  units a record hget := by
    have hempty : (Deployment.start w).control.capacityLedger.allocations = ∅ :=
      hw.control.allocations
    rw [hempty] at hget
    cases hget
  held id hid := by
    have hempty : (Deployment.start w).control.reservations = ∅ := hw.control.reservations
    rw [hempty] at hid
    cases hid
  declared id h r hheld := by cases hheld.2
  apart n m r s id hn := by cases hn
  foreign id h n r hheld := by cases hheld.2

/-- What Shared Node State knows is forgotten, what is held is not. -/
lemma Declared.restart (h : Declared d) : Declared (d.step .restart) where
  sound := h.sound.congr rfl rfl rfl
  units := h.units
  held := h.held
  declared id holding r _ hr := by cases hr
  apart n m r s id hn := by cases hn
  foreign id holding n r _ hr := by cases hr

lemma Deployment.holds_call (hpossible : (DeploymentMove.call c).Possible d)
    (hid : (d.step (.call c)).control.reservations.contains id = true) :
    (d.control.reservations.contains id = true ∧ (d.step (.call c)).holdings id = d.holdings id) ∨
      ∃ h r, (d.step (.call c)).holdings id = some h ∧
        registrationOf d.nodes.state h.nodeId = some r ∧ h.declaredBy id r = true := by
  have heffect : Effect d.control c (d.step (.call c)).control := Call.effect d.world c
  cases hold : d.control.reservations.contains id with
  | true => exact .inl ⟨rfl, by simp [step, hold]⟩
  | false =>
    obtain ⟨e, h, r, he, hholding, hnode, hdeclared⟩ := heffect.newly_held hold hid
    refine .inr ⟨h, r, by simp [step, hold, hholding], ?_, hdeclared⟩
    have hnodes := hpossible.2 e he
    rw [Evidence.node, hnodes, get?_mapValues] at hnode
    exact hnode

lemma Declared.call (h : Declared d)
    (hpossible : (DeploymentMove.call c).Possible d) : Declared (d.step (.call c)) := by
  have heffect : Effect d.control c (d.step (.call c)).control := Call.effect d.world c
  refine ⟨heffect.ledgersSound h.sound, ?_, ?_, ?_, h.apart, ?_⟩
  · intro a record hget
    cases heffect.allocation_origin h.sound.keyed a record hget with
    | kept before same =>
      rw [same]
      exact h.units a _ before
    | committed valid group units | recovered valid group units => exact units
  · intro id hid
    rcases holds_call hpossible hid with ⟨hold, hsame⟩ | ⟨holding, r, hnew, -⟩
    · obtain ⟨holding, -, hholding⟩ := h.held id hold
      exact ⟨holding, hid, hsame.trans hholding⟩
    · exact ⟨holding, hid, hnew⟩
  · rintro id holding r ⟨hid, hholding⟩ hr
    rcases holds_call hpossible hid with ⟨hold, hsame⟩ | ⟨holding', r', hnew, hr', hdecl⟩
    · exact h.declared id holding r ⟨hold, hsame.symm.trans hholding⟩ hr
    · cases hnew.symm.trans hholding
      cases hr'.symm.trans hr
      exact hdecl
  · rintro id holding n r ⟨hid, hholding⟩ hr hne
    rcases holds_call hpossible hid with ⟨hold, hsame⟩ | ⟨holding', r', hnew, hr', hdecl⟩
    · exact h.foreign id holding n r ⟨hold, hsame.symm.trans hholding⟩ hr hne
    · obtain rfl := Option.some.inj (hnew.symm.trans hholding)
      exact h.apart holding'.nodeId n r' r id hr' hr hne.symm (Holding.declaredBy.owns hdecl)

lemma Declared.fleet (h : Declared d) (hpossible : (DeploymentMove.fleet move).Possible d)
    (hcovers : (DeploymentMove.fleet move).Redeclares d) : Declared (d.step (.fleet move)) := by
  have hafter := d.nodes.registrationOf_step move
  refine ⟨h.sound, h.units, h.held, ?_, Deployment.Apart.fleet h.apart hpossible, ?_⟩
  · intro id holding r hheld hr
    rcases hafter holding.nodeId with hsame | ⟨registration, hdeclares, hnew⟩
    · exact h.declared id holding r hheld (hsame ▸ hr)
    · cases hnew.symm.trans hr
      have hcase := h.held_cases (hdeclares.checked hpossible) (hdeclares.redeclares hcovers) hheld
      rwa [if_pos rfl] at hcase
  · intro id holding n r hheld hr hne
    rcases hafter n with hsame | ⟨_, hdeclares, hnew⟩
    · exact h.foreign id holding n r hheld (hsame ▸ hr) hne
    · cases hnew.symm.trans hr
      have hcase := h.held_cases (hdeclares.checked hpossible) (hdeclares.redeclares hcovers) hheld
      rwa [if_neg hne.symm] at hcase

lemma Declared.step (h : Declared d) (move : DeploymentMove) (hpossible : move.Possible d)
    (hcovers : move.Redeclares d) : Declared (d.step move) := by
  cases move with
  | call => exact h.call hpossible
  | fleet => exact h.fleet hpossible hcovers
  | restart => exact h.restart

end

/-! ### Every run -/

lemma Declared.of_run (hw : w.Idle)
    (hrun : Deployment.Run (fun d move => move.Redeclares d) (.start w) d) : Declared d :=
  hrun.invariant (.start hw) fun _ move hd hmove => hd.step move hmove.1 hmove.2

/-- An accepted registration covers what is held exactly when it redeclares what Shared Node
State has forgotten. -/
theorem accepted_registration_declares_held {w : World} {d : Deployment} {move : NodeMove}
    {n : NodeId} {registration : NodeRegistration} (hw : w.Idle)
    (hrun : Deployment.Run (fun d move => move.Redeclares d) (.start w) d)
    (hpossible : (DeploymentMove.fleet move).Possible d)
    (haccepted : move.Declares d.nodes n registration) :
    StillDeclared d n registration ↔ Redeclares d n registration := by
  have hd := Declared.of_run hw hrun
  have hchecked := haccepted.checked hpossible
  refine ⟨fun h id hid holding hholding _ => ?_, hd.stillDeclared hchecked⟩
  have hheld : d.Holds id holding := ⟨contains_eq_true_iff.mpr (mem_keys_iff.mp hid), hholding⟩
  split
  · next hn =>
    obtain ⟨r, hr, hsame, -⟩ := h.exclusive id holding hheld hn
    exact (holding.declaredBy_iff _ _).mpr ⟨r, hr, hsame⟩
  · next hn => exact h.foreign id holding hheld hn

namespace HeldBay

/-- One Task with one Role that needs an exclusive bay of the node. -/
def task : TaskRef := ⟨⟨"mission", .refl false⟩, ⟨"task", .refl false⟩⟩

def role : RoleId := ⟨"role", .refl false⟩

def bay : ResourceId := ⟨"bay", .refl false⟩

def node : NodeId := ⟨"node", .refl false⟩

def otherNode : NodeId := ⟨"other", .refl false⟩

def group : ExecutionGroupId := ⟨"group", .refl false⟩

def context : CoordinationContextId := ⟨"context", .refl false⟩

def bayResource : Resource := ⟨bay, .space, 1, .exclusive, none, Nat.one_pos⟩

def roleRequirement : RoleRequirement :=
  ⟨role, none, [], [⟨.space, 1, .exclusive, none, Nat.one_pos⟩],
    List.nodup_singleton ResourceKind.space⟩

def requirement : TaskRequirement where
  taskRef := task
  roles := [roleRequirement]
  timing := ⟨0, none, none, none⟩
  roles_nonempty := by decide
  roles_distinct := by decide

def plan : MissionPlan where
  missionId := task.missionId
  objective := "park"
  actors := []
  tasks := [⟨"park", requirement, [], ⟨context, ∅, ∅, none⟩,
      .executionReport, by decide, by decide⟩]
  contexts := [⟨context, [], [], .independent⟩]
  valid := by decide

def evidence : Evidence := .granting 0 [(node, [bayResource])]

def start : World := World.start [(task.missionId, "tenant")]

def register (c : ControlPlane) (n : NodeId) (resources : List Resource) : NodeMove :=
  .register ⟨c, none⟩ n ⟨resources, [], [], true⟩ ⟨.online, 0⟩
      ⟨⟨"lease", .refl false⟩, n, 0, 100⟩ 0 0

/-- The node registers, its bay is committed, and the controller restarts. -/
def moves : List DeploymentMove :=
  [.fleet (register start.control node [bayResource]),
    .call (.createMissionGroup group plan), .call (.readyTaskExecution group task),
    .call (.propose evidence requirement ⟨task, OrdMap.ofList [(role, [node])], ∅, ∅, [], ∅⟩
      [⟨role, node, [bay]⟩]),
    .call (.commitForGroupWithState evidence group
      ⟨task, [⟨role, node, [bay]⟩], ∅, OrdMap.ofList [(role, roleRequirement)], ∅⟩),
    .restart]

def restarted : Deployment := moves.foldl Deployment.step (.start start)

lemma run_restarted : Deployment.Run (fun d move => move.Redeclares d) (.start start) restarted :=
  Reaches.of_list moves .refl (by decide +kernel)

end HeldBay

/-- After a restart the node registers its bay again. -/
theorem returning_node_declares_bay :
    StillDeclared HeldBay.restarted HeldBay.node ⟨[HeldBay.bayResource], [], [], true⟩ ∧
      HeldBay.restarted.Holds HeldBay.bay ⟨HeldBay.node, .space, .exclusive, none⟩ := by
  have haccepted : (HeldBay.register HeldBay.restarted.control HeldBay.node
      [HeldBay.bayResource]).Declares HeldBay.restarted.nodes HeldBay.node
      ⟨[HeldBay.bayResource], [], [], true⟩ := ⟨⟨rfl, rfl⟩, by decide +kernel⟩
  refine ⟨(accepted_registration_declares_held (World.start_idle _) HeldBay.run_restarted
    (by decide +kernel) haccepted).mpr (by decide +kernel), ?_⟩
  unfold Deployment.Holds
  decide +kernel

/-- After a restart the node may come back without its bay, and another node may take it. -/
theorem restart_forgets_held_bay : (¬ ∀ (w : World) (d : Deployment) (move : NodeMove) (n : NodeId)
        (registration : NodeRegistration), w.Idle →
      Deployment.Run (fun _ _ => True) (.start w) d → (DeploymentMove.fleet move).Possible d →
      move.Declares d.nodes n registration → StillDeclared d n registration) ∧
    (HeldBay.register HeldBay.restarted.control HeldBay.otherNode [HeldBay.bayResource]).Declares
      HeldBay.restarted.nodes HeldBay.otherNode ⟨[HeldBay.bayResource], [], [], true⟩ := by
  refine ⟨fun h => ?_, ⟨rfl, rfl⟩, by decide +kernel⟩
  have hrun : Deployment.Run (fun _ _ => True) (.start HeldBay.start) HeldBay.restarted :=
    HeldBay.run_restarted.mono fun _ _ hmove => ⟨hmove.1, trivial⟩
  have hheld : HeldBay.restarted.Holds HeldBay.bay ⟨HeldBay.node, .space, .exclusive, none⟩ := by
    unfold Deployment.Holds
    decide +kernel
  have hlost := h _ _ (HeldBay.register HeldBay.restarted.control HeldBay.node []) HeldBay.node
    ⟨[], [], [], true⟩ (World.start_idle _) hrun (by decide +kernel)
    ⟨⟨rfl, rfl⟩, by decide +kernel⟩
  obtain ⟨r, hr, -⟩ := hlost.exclusive _ _ hheld rfl
  cases hr

end RoboGuide.Control
