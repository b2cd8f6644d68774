import RoboGuide.Control.Frame

/-!
# `RoboGuide.Control.Tables`: where entries of the ownership tables come from

An exclusive reservation that was not there before was written by Commit, by a recovery
Commit, or is an old one that Bind attached to its Group (`ReservationChange`). Everything
else a call does to the table removes entries.
-/

namespace RoboGuide.Control

open Domain Lib Fallible ControlPlane List Option Bool

variable {c c' c₀ : ControlPlane} {e : Evidence} {g : ExecutionGroup} {r : ResourceId}
  {t : TaskExecution} {group id : ExecutionGroupId} {held : Reservation}
  {requirement : TaskRequirement} {role : RoleRequirement} {slot : UnboundRole} {task : TaskRef}
  {a : RoleAssignment} {p : RecoveryAssignmentProposal} {plan : CommittedPlan}
  {ids rs : List ResourceId} {mission : MissionId} {actors : OrdMap ActorId ActorBinding}

/-! ### The checks behind a change -/

/-- What a successful `validateBind` says. -/
structure BindValid (c : ControlPlane) (id : ExecutionGroupId) (plan : CommittedPlan)
    (g : ExecutionGroup) (t : TaskExecution) (actors : OrdMap ActorId ActorBinding) : Prop where
  group : c.group id = some g
  mission : g.missionId = plan.taskRef.missionId
  execution : g.taskExecution plan.taskRef = some t
  ready : t.lifecycle = .ready
  covered : validateTaskAssignments t plan.assignments = .ok ()
  actors : validateAuthoritativeActorAssignments c g plan = .ok actors
  unbound : t.assignments = []
  bindable : ∀ a ∈ plan.assignments, validateBindable c id t plan.taskRef a = .ok ()
  contexts : ∀ a ∈ plan.assignments, validateContextUnchanged g t a = .ok ()

lemma validateBind_ok
    (h : validateBind c e group plan = .ok (g, t, actors)) : BindValid c group plan g t actors := by
  simp only [validateBind, lookupGroup, bind_eq_ok, okOr_eq_ok, refuse_eq_ok, pure_eq_ok,
    Prod.mk.injEq] at h
  obtain ⟨g', hg, _, -, _, hm, t', ht, _, hr, _, hcov, _, ha, _, hun, _, hb, _, hc, rfl, rfl,
    rfl⟩ := h
  exact ⟨hg, by simpa using hm, ht, by simpa using hr, hcov, ha, by simpa using hun,
    forM_eq_ok.mp hb, forM_eq_ok.mp hc⟩

/-- What a successful `validateGroupCommit` says. -/
structure CommitValid (c : ControlPlane) (e : Evidence) (id : ExecutionGroupId)
    (p : AssignmentProposal) (g : ExecutionGroup) (t : TaskExecution) : Prop where
  group : c.group id = some g
  execution : g.taskExecution p.taskRef = some t
  ready : t.lifecycle = .ready
  covered : validateTaskAssignments t p.assignments = .ok ()
  requirements : ∀ a ∈ p.assignments, ∀ role, g.roleRequirement p.taskRef a.roleId = some role →
    p.roleRequirements.get? a.roleId = some role
  scheduled : ∀ r, c.scheduledTask p.taskRef = some r → matchesSchedule r id p e.now = true
  free : ∀ a ∈ p.assignments, ∃ owner, assignmentOwner t p.taskRef a.roleId = .ok owner ∧
    ∀ r ∈ exclusiveSelection p a, checkResourceFree c id p.taskRef owner r = .ok ()

lemma validateGroupCommit_ok
    {p : AssignmentProposal} {capacity : Option (CapacityLedger × QuotaLedger)}
    (h : validateGroupCommit c e group p capacity = .ok t) :
    ∃ g, CommitValid c e group p g t := by
  simp only [validateGroupCommit, validateBeforeScan, lookupGroup, bind_eq_ok, okOr_eq_ok,
    refuse_eq_ok, pure_eq_ok] at h
  obtain ⟨_, ⟨_, -, g, hg, t', ht, _, hr, _, hcov, _, hreq, _, -, _, hs, _, -, rfl⟩, _, hfree,
    rfl⟩ := h
  refine ⟨g, hg, ht, by simpa using hr, hcov, ?_, ?_, ?_⟩
  · intro a ha role hrole
    have hnone := any_eq_false.mp hreq a ha
    simpa [hrole] using hnone
  · intro r hr
    simpa [hr] using hs
  · intro a ha
    obtain ⟨owner, howner, hall⟩ := bind_eq_ok.mp (forM_eq_ok.mp hfree a ha)
    exact ⟨owner, howner, forM_eq_ok.mp hall⟩

/-- What a successful `validateRecoveryCommit` says. -/
structure RecoveryCommitValid (c : ControlPlane) (e : Evidence) (requirement : TaskRequirement)
    (p : RecoveryAssignmentProposal) (role : RoleRequirement) (g : ExecutionGroup)
    (slot : UnboundRole) : Prop where
  group : c.group p.groupId = some g
  roleFound : recoveryRole g requirement p.taskRef p.roleId = .ok role
  blocked : g.lifecycle = .blocked
  slotFound : g.recoveryUnboundRole p.taskRef p.roleId = some slot
  previous : slot.previousNodeId = p.previousNodeId
  actor : validateRecoveryActor c requirement role p = .ok ()
  fresh : c.pendingRecoveryCommitments.get? (recoveryKey p.groupId p.taskRef p.roleId) = none
  distinct : p.replacementResourceIds.Nodup
  covered : p.replacementResourceIds.length = role.resources.length
  served : ∃ node, e.node p.replacementNodeId = some node ∧
    ∀ d ∈ p.replacementResourceIds.zip role.resources,
      ∃ resource ∈ node.resources, servesDemand resource d.1 d.2 = true
  free : checkReplacementFree c role p = .ok ()

lemma validateRecoveryCommit_ok (h : validateRecoveryCommit c e requirement p = .ok role) :
    ∃ g slot, RecoveryCommitValid c e requirement p role g slot := by
  simp only [validateRecoveryCommit, validateRecoveryResources, validateReplacementNode,
    blockedSlot, lookupGroup, bind_eq_ok, okOr_eq_ok, refuse_eq_ok, pure_eq_ok] at h
  obtain ⟨_, -, g, hg, _, hrole, slot, ⟨_, hb, hslot⟩, _, hprev, _, hactor, _, hpending, _,
    ⟨_, hnode, _, -, _, -, _, -, _, -, rfl⟩, _, ⟨_, hlen, _, hnodup, hserved⟩, _,
      hfree, _, -, rfl⟩ :=
    h
  simp only [or_eq_false_iff, bne_eq_false_iff_eq] at hprev
  refine ⟨g, slot, hg, hrole, by simpa using hb, hslot, hprev.1, hactor,
    by simpa [OrdMap.contains] using hpending, by simpa using hnodup, by simpa using hlen,
    ⟨_, hnode, fun d hd => ?_⟩, hfree⟩
  rw [not_eq_false'] at hserved
  exact any_eq_true.mp (all_eq_true.mp hserved d hd)

/-- What a successful `validateTaskRelease` says. -/
structure TaskReleaseValid (c : ControlPlane) (id : ExecutionGroupId) (task : TaskRef)
    (g : ExecutionGroup) (t : TaskExecution) : Prop where
  group : c.group id = some g
  execution : g.taskExecution task = some t
  finished : finishedTask t.lifecycle = true

lemma validateTaskRelease_ok {resources : List ResourceId}
    (h : validateTaskRelease c id task resources = .ok (g, t)) :
    TaskReleaseValid c id task g t := by
  simp only [validateTaskRelease, lookupGroup, lookupTask, bind_eq_ok, okOr_eq_ok, refuse_eq_ok,
    pure_eq_ok, Prod.mk.injEq] at h
  obtain ⟨g', hg, t', ht, _, hf, _, -, _, -, rfl, rfl⟩ := h
  exact ⟨hg, ht, by simpa using hf⟩

lemma validateContextRelease_group {context : CoordinationContextId}
    (h : validateContextRelease c id context = .ok g) : c.group id = some g := by
  simp only [validateContextRelease, lookupGroup, bind_eq_ok, okOr_eq_ok, pure_eq_ok] at h
  obtain ⟨g', hg, _, -, rfl⟩ := h
  exact hg

lemma validateRoleRecoveryRelease_working {need : RoleRecoveryNeed}
    (h : validateRoleRecoveryRelease c need = .ok ()) :
    ∃ g, c.group need.groupId = some g ∧ g.lifecycle.working = true := by
  simp only [validateRoleRecoveryRelease, lookupGroup, bind_eq_ok, okOr_eq_ok, refuse_eq_ok] at h
  obtain ⟨g, hg, _, hworking, -⟩ := h
  exact ⟨g, hg, by simpa using hworking⟩

/-- What a successful `validateRebind` says; `old` is the Group it found. -/
structure RebindValid (c : ControlPlane) (r : CommittedRecoveryAssignment)
    (old g : ExecutionGroup) (slot : UnboundRole) : Prop where
  group : c.group r.groupId = some old
  blocked : old.lifecycle = .blocked
  pending : c.pendingRecoveryCommitments.get? (recoveryKey r.groupId r.taskRef r.roleId) = some r
  slotFound : old.recoveryUnboundRole r.taskRef r.roleId = some slot
  previous : slot.previousNodeId = r.previousNodeId
  owned : validateCommitmentReservations c r = .ok ()
  takeover : ∀ a, r.actorTakeover = some a → validateRebindTakeover c old r a = .ok ()
  rebound : reboundGroup old r slot = .ok g

lemma validateRebind_ok {r : CommittedRecoveryAssignment}
    (h : validateRebind c e r = .ok (g, slot)) :
    ∃ old, RebindValid c r old g slot := by
  simp only [validateRebind, validatePendingCommitment, lookupGroup, bind_eq_ok, okOr_eq_ok,
    refuse_eq_ok] at h
  obtain ⟨_, -, old, hold, _, hblocked, _, -, _, ⟨pending, hp, hsame⟩, slot', hslot, _, hprev, _,
    howned, h⟩ := h
  have htail : (∀ a, r.actorTakeover = some a → validateRebindTakeover c old r a = .ok ()) ∧
      reboundGroup old r slot' = .ok g ∧ slot' = slot := by
    split at h
    · next a ha =>
      simp only [bind_eq_ok, pure_eq_ok, Prod.mk.injEq] at h
      obtain ⟨_, htakeover, g', hg', rfl, rfl⟩ := h
      exact ⟨fun a' ha' => some.inj (ha'.symm.trans ha) ▸ htakeover, hg', rfl⟩
    · next hnone =>
      simp only [bind_eq_ok, pure_eq_ok, Prod.mk.injEq] at h
      obtain ⟨g', hg', rfl, rfl⟩ := h
      exact ⟨fun a ha => (some_ne_none a (ha.symm.trans hnone)).elim, hg', rfl⟩
  obtain ⟨htakeover, hg, rfl⟩ := htail
  refine ⟨old, hold, by simpa using hblocked, ?_, hslot, ?_, howned, htakeover, hg⟩
  · obtain rfl : pending = r := by simpa using hsame
    exact hp
  · simp only [or_eq_false_iff, bne_eq_false_iff_eq] at hprev
    exact hprev.1

def ExecutionGroup.withTaskRole (g : ExecutionGroup) (t : TaskExecution)
    (r : CommittedRecoveryAssignment) (slot : UnboundRole) : ExecutionGroup :=
  { g.setTask r.taskRef (t.withAssignments
      (insertAssignment t.assignments slot.assignmentIndex r.assignment)) with
    taskUnboundRoles := g.taskUnboundRoles.erase (toLex (r.taskRef, r.roleId))
    lifecycle := .adapted }

def ExecutionGroup.withLegacyRole (g : ExecutionGroup) (r : CommittedRecoveryAssignment)
    (slot : UnboundRole) : ExecutionGroup :=
  { g with
    assignments := insertAssignment g.assignments slot.assignmentIndex r.assignment
    unboundRoles := g.unboundRoles.erase r.roleId
    lifecycle := .adapted }

lemma reboundGroup_ok {g' : ExecutionGroup} {r : CommittedRecoveryAssignment}
    (h : reboundGroup g r slot = .ok g') :
    (∃ t, g.taskExecution r.taskRef = some t ∧ (∀ a ∈ t.assignments, a.roleId ≠ r.roleId) ∧
      g' = g.withTaskRole t r slot) ∨
    (g.taskExecution r.taskRef = none ∧ (∀ a ∈ g.assignments, a.roleId ≠ r.roleId) ∧
      g' = g.withLegacyRole r slot) := by
  unfold reboundGroup at h
  split at h
  · next t ht =>
    simp only [bind_eq_ok, refuse_eq_ok, pure_eq_ok] at h
    obtain ⟨_, hnone, rfl⟩ := h
    exact .inl ⟨t, ht, by simpa using hnone, rfl⟩
  · next ht =>
    simp only [bind_eq_ok, refuse_eq_ok, pure_eq_ok] at h
    obtain ⟨_, hnone, rfl⟩ := h
    exact .inr ⟨ht, by simpa using hnone, rfl⟩

lemma reboundGroup_lifecycle {g' : ExecutionGroup} {r : CommittedRecoveryAssignment}
    (h : reboundGroup g r slot = .ok g') : g'.lifecycle = .adapted := by
  rcases reboundGroup_ok h with ⟨t, -, -, rfl⟩ | ⟨-, -, rfl⟩ <;> rfl

/-! ### Reservations -/

/-- How a reservation is written. -/
inductive ReservationChange (c : ControlPlane) : Call → ResourceId → Reservation → Prop where
  | bound {e : Evidence} {id : ExecutionGroupId} {plan : CommittedPlan} {g : ExecutionGroup}
      {t : TaskExecution} {actors : OrdMap ActorId ActorBinding} {a : RoleAssignment}
      {r : ResourceId} {held : Reservation}
      (valid : validateBind c e id plan = .ok (g, t, actors)) (mem : a ∈ plan.assignments)
      (uses : r ∈ a.resourceIds) (old : c.reservations.get? r = some held) :
      ReservationChange c (.bindTaskExecutionWithState e id plan) r
        { held with groupId := some id }
  | committed {e : Evidence} {id : ExecutionGroupId} {p : AssignmentProposal}
      {capacity : Option (CapacityLedger × QuotaLedger)} {t : TaskExecution}
      {owner : AllocationOwner} {a : RoleAssignment} {r : ResourceId}
      (valid : validateGroupCommit c e id p capacity = .ok t) (mem : a ∈ p.assignments)
      (owner_ok : assignmentOwner t p.taskRef a.roleId = .ok owner)
      (uses : r ∈ exclusiveSelection p a) (new : c.reservations.get? r = none) :
      ReservationChange c (.commitForGroupWithState e id p) r
        (committedReservation c e t p.taskRef a.roleId owner r)
  | recovered {e : Evidence} {requirement : TaskRequirement} {p : RecoveryAssignmentProposal}
      {role : RoleRequirement} {r : ResourceId}
      (valid : validateRecoveryCommit c e requirement p = .ok role)
      (uses : r ∈ p.replacementResourceIds) :
      ReservationChange c (.commitRoleRecovery e requirement p) r (replacementReservation c e p r)

/-- What the topology part of a reservation is written from. -/
def ControlPlane.topologyContext (c : ControlPlane) :=
  (c.resourceTopologyRegistry, c.resourceTopologyHistory, c.scheduledTasks)

/-- Everything a reservation is written from stays the same while a batch is written. -/
def SameContext (c c' : ControlPlane) : Prop := c'.topologyContext = c.topologyContext

lemma topologyBookingRegistry_congr (h : SameContext c c')
    (d : TaskSchedulingDecision) : c'.topologyBookingRegistry d = c.topologyBookingRegistry d := by
  simp only [SameContext, topologyContext, Prod.mk.injEq] at h
  simp only [topologyBookingRegistry, bookingPolicy, h.1, h.2.1]

lemma originalTopologyReservation_congr (h : SameContext c c')
    (e : Evidence) (id : ResourceId) (task : TaskRef) (contextLifetime : Bool) :
    c'.originalTopologyReservation e id task contextLifetime =
      c.originalTopologyReservation e id task contextLifetime := by
  have hbooking := topologyBookingRegistry_congr h
  simp only [SameContext, topologyContext, Prod.mk.injEq] at h
  simp only [originalTopologyReservation, scheduledTask, plannedEnd, hbooking, h.1, h.2.2]

lemma reserve_get? (c : ControlPlane) (id r : ResourceId) (held : Reservation) :
    (c.reserve id held).reservations.get? r =
      (c.reservations.get? r).or (if r = id then some held else none) := by
  unfold reserve
  split
  · next h =>
    obtain ⟨v, hv⟩ := contains_eq_true_iff.mp h
    by_cases hr : r = id
    · rw [hr, hv]
      rfl
    · rw [if_neg hr, or_none]
  · next h =>
    have hnone : c.reservations.get? id = none := by simpa [OrdMap.contains] using h
    rw [get?_insert]
    by_cases hr : r = id
    · rw [if_pos hr, if_pos hr, hr, hnone]
      rfl
    · rw [if_neg hr, if_neg hr, or_none]

def committedEntries (c : ControlPlane) (e : Evidence) (t : TaskExecution)
    (p : AssignmentProposal) (a : RoleAssignment) : List (ResourceId × Reservation) :=
  match assignmentOwner t p.taskRef a.roleId with
  | .error _ => []
  | .ok owner => (exclusiveSelection p a).map fun r =>
      (r, committedReservation c e t p.taskRef a.roleId owner r)

lemma mem_committedEntries {p : AssignmentProposal} : (r, held) ∈ committedEntries c e t p a ↔
      ∃ owner, assignmentOwner t p.taskRef a.roleId = .ok owner ∧ r ∈ exclusiveSelection p a ∧
        held = committedReservation c e t p.taskRef a.roleId owner r := by
  unfold committedEntries
  split
  · next h => simp [h]
  · next owner h =>
    simp only [List.mem_map, Prod.mk.injEq, h, Except.ok.injEq, exists_eq_left']
    constructor
    · rintro ⟨r', hr', rfl, rfl⟩
      exact ⟨hr', rfl⟩
    · rintro ⟨hr, rfl⟩
      exact ⟨r, hr, rfl, rfl⟩

lemma reserveAll_get? (entries : List (ResourceId × Reservation)) (c : ControlPlane)
    (r : ResourceId) : (entries.foldl (fun c e => c.reserve e.1 e.2) c).reservations.get? r =
      (c.reservations.get? r).or ((entries.find? fun e => e.1 == r).map (·.2)) := by
  induction entries generalizing c with
  | nil => simp
  | cons e entries ih =>
    rw [foldl_cons, ih, reserve_get?, Option.or_assoc]
    by_cases hr : e.1 = r
    · simp [hr]
    · simp [hr, Ne.symm hr]

lemma reserve_sameContext (c : ControlPlane) (id : ResourceId) (held : Reservation) :
    SameContext c (c.reserve id held) := by
  unfold reserve
  split <;> rfl

lemma reserveAssignment_eq (hsame : SameContext c₀ c) (e : Evidence)
    (t : TaskExecution) (p : AssignmentProposal) (a : RoleAssignment) :
    reserveAssignment e t p c a =
      (committedEntries c₀ e t p a).foldl (fun c e => c.reserve e.1 e.2) c := by
  unfold reserveAssignment committedEntries
  cases assignmentOwner t p.taskRef a.roleId with
  | error => rfl
  | ok =>
    simp only [foldl_map]
    -- the running plane differs from `c₀` in its reservations only
    induction exclusiveSelection p a generalizing c with
    | nil => rw [foldl_nil, foldl_nil]
    | cons r rs ih =>
      rw [foldl_cons, foldl_cons, committedReservation, committedReservation,
        originalTopologyReservation_congr hsame]
      exact ih ((reserve_sameContext c r _).trans hsame)

lemma reserveAssignments_get? (e : Evidence) (t : TaskExecution)
    (p : AssignmentProposal) (as : List RoleAssignment) (r : ResourceId) :
    (as.foldl (reserveAssignment e t p) c₀).reservations.get? r = (c₀.reservations.get? r).or
        (((as.flatMap (committedEntries c₀ e t p)).find? fun e => e.1 == r).map (·.2)) := by
  suffices h : ∀ c, SameContext c₀ c → as.foldl (reserveAssignment e t p) c =
      (as.flatMap (committedEntries c₀ e t p)).foldl (fun c e => c.reserve e.1 e.2) c by
    rw [h c₀ rfl, reserveAll_get?]
  induction as with
  | nil => exact fun _ _ => rfl
  | cons a as ih =>
    intro c hsame
    rw [foldl_cons, reserveAssignment_eq hsame, flatMap_cons, foldl_append]
    have h := foldl_view topologyContext
      (fun c (e : ResourceId × Reservation) => reserve_sameContext c e.1 e.2)
      (committedEntries c₀ e t p a) c
    exact ih _ (h.trans hsame)

def Reservation.inGroup (group : ExecutionGroupId) (held : Reservation) : Reservation :=
  { held with groupId := some group }

lemma updateBindingReservation_get? (c : ControlPlane) (id r : ResourceId)
    (group : ExecutionGroupId) (task : TaskRef) (role : RoleId) (f : Reservation → Reservation) :
    (c.updateBindingReservation id group task role f).reservations.get? r =
      (c.reservations.get? r).map fun held => if r = id then f held else held := by
  unfold updateBindingReservation
  split
  · rw [get?_modify]
    split <;> simp [*]
  · next h =>
    have hnone : c.reservations.get? id = none := by simpa [OrdMap.contains] using h
    have hsame : c.reservations.get? r =
        (c.reservations.get? r).map fun held => if r = id then f held else held := by
      by_cases hr : r = id
      · simp [hr, hnone]
      · simp [hr]
    split <;> exact hsame

lemma bindReservations_get? (c : ControlPlane) (group : ExecutionGroupId)
    (plan : CommittedPlan) (r : ResourceId) : (bindReservations group plan c).reservations.get? r =
      (c.reservations.get? r).map fun held =>
        if plan.assignments.any (fun a => a.resourceIds.contains r) then held.inGroup group
        else held := by
  have hone : ∀ (role : RoleId) (ids : List ResourceId) (c : ControlPlane),
      (ids.foldl (fun c id => c.updateBindingReservation id group plan.taskRef role
        fun r => { r with groupId := some group }) c).reservations.get? r =
        (c.reservations.get? r).map fun held =>
          if ids.contains r then held.inGroup group else held := by
    intro role ids
    induction ids with
    | nil => simp
    | cons id ids ih =>
      intro c
      rw [foldl_cons, ih, updateBindingReservation_get?, Option.map_map]
      congr 1
      funext held
      by_cases hr : r = id <;> by_cases hm : r ∈ ids <;>
        simp [hr, hm, Reservation.inGroup, Function.comp]
  unfold bindReservations
  induction plan.assignments generalizing c with
  | nil => simp
  | cons a as ih =>
    rw [foldl_cons, ih, hone, Option.map_map]
    congr 1
    funext held
    by_cases ha : a.resourceIds.contains r = true <;>
      by_cases has : (as.any fun a => a.resourceIds.contains r) = true <;>
      simp only [Function.comp_apply, any_cons, ha, has, Bool.true_or, Bool.or_true,
        Bool.or_self, if_true, if_false, Reservation.inGroup, false_eq_true]

lemma binding_isSome_iff (l : CapacityLedger) (r : ResourceId) (group : ExecutionGroupId)
    (task : TaskRef) (role : RoleId) : (l.binding r group task role).isSome = true ↔
      ∃ id record, l.allocations.get? id = some record ∧ record.original.resourceId = r ∧
        record.original.groupId = group ∧ record.borrowedBy task role = true := by
  rw [CapacityLedger.binding, find?_isSome]
  constructor
  · rintro ⟨record, hmem, hp⟩
    obtain ⟨id, hid⟩ := mem_values_iff.mp hmem
    simp only [and_eq_true, beq_iff_eq] at hp
    exact ⟨id, record, hid, hp.1.1, hp.1.2, hp.2⟩
  · rintro ⟨id, record, hid, hr, hg, hb⟩
    exact ⟨record, mem_values_iff.mpr ⟨id, hid⟩, by simp [hr, hg, hb]⟩

lemma updateBindingReservation_binding_isSome (c : ControlPlane) (id r : ResourceId)
    (group group' : ExecutionGroupId) (task task' : TaskRef) (role role' : RoleId)
    (f : Reservation → Reservation) :
    ((c.updateBindingReservation id group task role f).capacityLedger.binding r group' task'
        role').isSome = (c.capacityLedger.binding r group' task' role').isSome := by
  unfold updateBindingReservation
  split
  · rfl
  · split
    · next record _ =>
      rw [Bool.eq_iff_iff, binding_isSome_iff, binding_isSome_iff]
      simp only [get?_modify]
      constructor
      · rintro ⟨a, record', hget, hr, hg, hb⟩
        split at hget
        · obtain ⟨old, hold, rfl⟩ := map_eq_some_iff.mp hget
          exact ⟨_, old, hold, hr, hg, hb⟩
        · exact ⟨a, record', hget, hr, hg, hb⟩
      · rintro ⟨a, old, hold, hr, hg, hb⟩
        by_cases ha : a = record.original.allocationId
        · exact ⟨a, { old with reservation := f old.reservation }, by rw [if_pos ha, hold]; rfl,
            hr, hg, hb⟩
        · exact ⟨a, old, by rw [if_neg ha, hold], hr, hg, hb⟩
    · rfl

lemma reserveReplacement_binding_isSome (e : Evidence) (p : RecoveryAssignmentProposal)
    (c : ControlPlane) (id r : ResourceId) :
    ((reserveReplacement e p c id).capacityLedger.binding r p.groupId p.taskRef p.roleId).isSome =
      (c.capacityLedger.binding r p.groupId p.taskRef p.roleId).isSome := by
  unfold reserveReplacement
  split
  · exact updateBindingReservation_binding_isSome ..
  · rfl

lemma reserveReplacements_get? (e : Evidence)
    (p : RecoveryAssignmentProposal) (hnodup : ids.Nodup)
    (hfree : ∀ id ∈ ids, c₀.reservations.get? id = none) (r : ResourceId) :
    (ids.foldl (reserveReplacement e p) c₀).reservations.get? r = (c₀.reservations.get? r).or
        (if r ∈ ids ∧ (c₀.capacityLedger.binding r p.groupId p.taskRef p.roleId).isSome = false
          then some (replacementReservation c₀ e p r) else none) := by
  induction ids generalizing c₀ with
  | nil => simp
  | cons id ids ih =>
    obtain ⟨hid, hnodup⟩ := nodup_cons.mp hnodup
    have hnone := hfree id mem_cons_self
    have hcontext : SameContext c₀ (reserveReplacement e p c₀ id) := by
      unfold reserveReplacement updateBindingReservation
      repeat' split
      all_goals rfl
    have hentry : replacementReservation (reserveReplacement e p c₀ id) e p r =
        replacementReservation c₀ e p r := by
      simp only [replacementReservation, originalTopologyReservation_congr hcontext]
    have hget : ∀ x, (reserveReplacement e p c₀ id).reservations.get? x =
        (c₀.reservations.get? x).or
          (if x = id ∧ (c₀.capacityLedger.binding id p.groupId p.taskRef p.roleId).isSome = false
            then some (replacementReservation c₀ e p id) else none) := by
      intro x
      unfold reserveReplacement
      split
      · next hb =>
        rw [updateBindingReservation_get?]
        by_cases hx : x = id
        · simp [hx, hnone, hb]
        · simp [hx]
      · next hb =>
        rw [get?_insert]
        by_cases hx : x = id
        · simp [hx, hnone, hb]
        · simp [hx]
    rw [foldl_cons, ih hnodup, hget, hentry, reserveReplacement_binding_isSome, Option.or_assoc]
    · congr 1
      by_cases hr : r = id
      · subst hr
        simp [hid]
      · simp [hr]
    · intro x hx
      have hne : x ≠ id := fun h => hid (h ▸ hx)
      rw [hget, hfree x (mem_cons_of_mem _ hx)]
      simp [hne]

lemma capacityCommitCandidate_demand {as : List RoleAssignment}
    {batch : CapacityLedger × QuotaLedger}
    (h : c.capacityCommitCandidate e group task as = .ok (some batch)) (ha : a ∈ as) :
    ∃ g role node tenant, c.group group = some g ∧ g.roleRequirement task a.roleId = some role ∧
      e.node a.nodeId = some node ∧ ∀ d ∈ a.resourceIds.zip role.resources,
        ∃ b b', c.admitDemand group task tenant a node b d = .ok b' := by
  simp only [capacityCommitCandidate, lookupGroup, bind_eq_ok, okOr_eq_ok] at h
  obtain ⟨g, hg, h⟩ := h
  split at h
  · simp only [bind_eq_ok, okOr_eq_ok, pure_eq_ok] at h
    obtain ⟨tenant, -, _, -, _, hfold, -⟩ := h
    obtain ⟨b, b', hstep⟩ := foldlM_step hfold ha
    simp only [admitAssignment, bind_eq_ok, okOr_eq_ok] at hstep
    obtain ⟨role, hrole, node, hnode, _, -, hdemands⟩ := hstep
    exact ⟨g, role, node, tenant, hg, hrole, hnode, fun d hd => foldlM_step hdemands hd⟩
  · cases pure_eq_ok.mp h

lemma exists_demand {demands : List ResourceRequirement}
    (hlen : ids.length = demands.length) (hr : r ∈ ids) :
    ∃ demand, (r, demand) ∈ ids.zip demands := by
  obtain ⟨i, hi, rfl⟩ := getElem_of_mem hr
  have hd : i < demands.length := hlen ▸ hi
  exact ⟨demands[i], mem_iff_getElem.mpr ⟨i, by simpa using ⟨hi, hd⟩, by simp⟩⟩

lemma recoveryRole_authoritative {roleId : RoleId} {authoritative : RoleRequirement}
    (h : recoveryRole g requirement task roleId = .ok role)
    (hg : g.roleRequirement task roleId = some authoritative) : role = authoritative := by
  simp only [recoveryRole, bind_eq_ok, hg, pure_eq_ok] at h
  obtain ⟨_, -, _, -, _, -, h⟩ := h
  exact h.symm

lemma recoveryLedgers_shared {charged : ControlPlane}
    (valid : RecoveryCommitValid c e requirement p role g slot)
    (hl : recoveryLedgers c e mission role p = .ok charged) {d : ResourceId × ResourceRequirement}
    (hd : d ∈ p.replacementResourceIds.zip role.resources)
    (hmode : d.2.allocationMode = .divisible) :
    ∃ batch, c.capacityCommitCandidate e p.groupId p.taskRef [p.assignment] = .ok (some batch) ∧
      g.roleRequirement p.taskRef p.roleId = some role := by
  simp only [recoveryLedgers, bind_eq_ok] at hl
  obtain ⟨capacity, hcapacity, -⟩ := hl
  -- the node serves the demand with a resource of the same mode, so the batch is needed
  have hshared : anyShared e g p.taskRef [p.assignment] = true := by
    obtain ⟨node, hnode, hserved⟩ := valid.served
    obtain ⟨resource, hmem, hserves⟩ := hserved d hd
    simp only [servesDemand, and_eq_true, beq_iff_eq, decide_eq_true_eq] at hserves
    have hid : d.1 ∈ p.replacementResourceIds := (of_mem_zip hd).1
    have hnode' : e.node p.assignment.nodeId = some node := hnode
    simp only [anyShared, any_cons, any_nil, Bool.or_false, or_eq_true, hnode', any_some]
    refine .inr (any_eq_true.mpr ⟨resource, hmem, ?_⟩)
    simp [RecoveryAssignmentProposal.assignment, hserves.1.1.1.1, hid, hserves.1.2, hmode]
  cases capacity with
  | none =>
    simp only [capacityCommitCandidate, lookupGroup, valid.group, okOr_some,
      bind_eq_ok, Except.ok.injEq, exists_eq_left', hshared, if_true, pure_eq_ok] at hcapacity
    obtain ⟨_, -, _, -, _, -, _, -, h⟩ := hcapacity
    cases h
  | some batch =>
    obtain ⟨g', _, -, -, hg', hrole', -⟩ := capacityCommitCandidate_demand hcapacity mem_cons_self
    obtain rfl : g = g' := some.inj (valid.group.symm.trans hg')
    obtain rfl := recoveryRole_authoritative valid.roleFound hrole'
    exact ⟨batch, hcapacity, hrole'⟩

lemma replacement_free {c charged : ControlPlane} {e : Evidence}
    {requirement : TaskRequirement} {p : RecoveryAssignmentProposal} {role : RoleRequirement}
    (hv : validateRecoveryCommit c e requirement p = .ok role)
    (hl : recoveryLedgers c e mission role p = .ok charged) {r : ResourceId}
    (hr : r ∈ p.replacementResourceIds) : c.reservations.get? r = none := by
  obtain ⟨g, _, valid⟩ := validateRecoveryCommit_ok hv
  obtain ⟨demand, hd⟩ := exists_demand valid.covered hr
  cases hmode : demand.allocationMode with
  | divisible =>
    obtain ⟨_, hbatch, hrole⟩ := recoveryLedgers_shared valid hl hd hmode
    obtain ⟨g', role', _, _, hg', hrole', -, hdemands⟩ :=
      capacityCommitCandidate_demand hbatch mem_cons_self
    obtain rfl : g = g' := some.inj (valid.group.symm.trans hg')
    obtain rfl : role = role' := some.inj (hrole.symm.trans hrole')
    obtain ⟨b, b', hstep⟩ := hdemands (r, demand) hd
    rw [admitDemand, show (r, demand).2.allocationMode = _ from hmode] at hstep
    simp only [bind_eq_ok, capacityRequest, refuse_eq_ok, or_eq_false_iff] at hstep
    obtain ⟨_, ⟨_, ⟨-, hfree⟩, -⟩, -⟩ := hstep
    simpa [OrdMap.contains] using hfree
  | exclusive =>
    have hfree := forM_eq_ok.mp valid.free (r, demand) hd
    cases hget : c.reservations.get? r with
    | none => rfl
    | some => simp [hmode, hget] at hfree

lemma releaseResources_reservations_some
    (h : (c.releaseResources rs).reservations.get? r = some held) :
    c.reservations.get? r = some held := by
  rw [releaseResources_reservations_get?] at h
  split at h
  · cases h
  · exact h

lemma releaseGroupOwnership_reservations_get? (c : ControlPlane) (id : ExecutionGroupId)
    (rs : List ResourceId) (r : ResourceId) : (c.releaseGroupOwnership id rs).reservations.get? r =
      if r ∈ rs then none else c.reservations.get? r :=
  releaseResources_reservations_get? (c.releaseCapacityGroup id) rs r

lemma releaseGroupOwnership_reservations_some
    (h : (c.releaseGroupOwnership id rs).reservations.get? r = some held) :
    c.reservations.get? r = some held := by
  rw [releaseGroupOwnership_reservations_get?] at h
  split at h
  · cases h
  · exact h

@[simp] lemma withActors_reservations (c : ControlPlane) (mission : MissionId)
    (actors : List (ActorId × ActorBinding)) :
    (c.withActors mission actors).reservations = c.reservations := by
  rw [withActors_frame]

lemma bindReservations_cases (valid : validateBind c e id plan = .ok (g, t, actors))
    (h : (bindReservations id plan c).reservations.get? r = some held) :
    c.reservations.get? r = some held ∨
      ReservationChange c (.bindTaskExecutionWithState e id plan) r held := by
  rw [bindReservations_get?] at h
  obtain ⟨_, hold, rfl⟩ := map_eq_some_iff.mp h
  split
  · next hany =>
    obtain ⟨a, ha, huses⟩ := any_eq_true.mp hany
    exact .inr (.bound valid ha (by simpa using huses) hold)
  · exact .inl hold

lemma Effect.reservation_cases {call : Call} (h : Effect c call c') :
    ∀ r held, c'.reservations.get? r = some held →
      c.reservations.get? r = some held ∨ ReservationChange c call r held := by
  intro r held hr
  induction h with
  | unchanged | tenant | registry | topology | limits | nodeConstraint | candidateRestriction
  | reserved | preempted | groupCreated | groupMoved | groupActivated | groupCompleted
  | taskMoved | rebound | reboundPartly => exact .inl hr
  | consumed =>
    rw [consumeScheduledTask_frame] at hr
    exact .inl hr
  | invalidated =>
    rw [invalidateScheduledTask_frame] at hr
    exact .inl hr
  | missionCancelled =>
    rw [cancelScheduledMission_frame] at hr
    exact .inl hr
  | taskActivated =>
    split at hr
    · rw [activateScheduledTask_frame] at hr
      exact .inl hr
    · exact .inl hr
  | groupSuperseded =>
    have hold := releaseGroupOwnership_reservations_some hr
    exact .inl hold
  | groupReleased => exact .inl (releaseGroupOwnership_reservations_some hr)
  | committed support valid ledgers =>
    rw [reserveAssignments_get?] at hr
    have hframe := commitLedgers_frame ledgers
    rcases or_eq_some_iff.mp hr with hold | ⟨hnone, hnew⟩
    · rw [hframe] at hold
      exact .inl hold
    · refine .inr ?_
      rw [hframe] at hnone
      obtain ⟨entry, hfind, rfl⟩ := map_eq_some_iff.mp hnew
      obtain ⟨a, ha, hentry⟩ := mem_flatMap.mp (mem_of_find?_eq_some hfind)
      obtain rfl : entry.1 = r := by simpa using find?_some hfind
      obtain ⟨_, howner, huses, hheld⟩ := mem_committedEntries.mp hentry
      rw [hheld, hframe]
      exact .committed valid ha howner huses hnone
  | bound evidence valid =>
    rw [withActors_reservations, setGroup_reservations] at hr
    exact bindReservations_cases valid hr
  | boundPartly evidence valid => exact bindReservations_cases valid hr
  | taskReleased | roleReleased | contextReleased | taskRoleReleased | recoveryAborted =>
    exact .inl (releaseResources_reservations_some hr)
  | taskRecoveryBegun valid group task release ih
  | legacyRecoveryBegun valid group task release ih | executionRecoveryBegun begun ih =>
    refine (ih hr).imp_right fun hnew => ?_
    cases hnew
  | @recoveryCommitted c charged e requirement p role valid ledgers =>
    obtain ⟨g, _, hvalid⟩ := validateRecoveryCommit_ok valid
    have hframe := recoveryLedgers_frame ledgers
    have hfree : ∀ id ∈ p.replacementResourceIds, charged.reservations.get? id = none := by
      intro id hid
      rw [hframe]
      exact replacement_free valid ledgers hid
    rcases or_eq_some_iff.mp
      ((reserveReplacements_get? e p hvalid.distinct hfree r).symm.trans hr) with
      hold | ⟨-, hnew⟩
    · rw [hframe] at hold
      exact .inl hold
    · split at hnew
      · next hmem =>
        cases hnew
        rw [hframe]
        exact .inr (.recovered valid hmem.1)
      · cases hnew

/-- A reserved resource passes to another owner only through a state in which it is free. -/
theorem owner_changes_when_free (w : World) (call : Call) (r : ResourceId) :
    let owner (w : World) := (w.control.reservations.get? r).map (·.owner)
    owner w = none ∨ owner (w.step call) = none ∨ owner (w.step call) = owner w := by
  have h := call.effect w
  dsimp only
  generalize w.control = c, (w.step call).control = c' at h ⊢
  cases hold : c.reservations.get? r with
  | none => exact .inl rfl
  | some =>
    cases hnew : c'.reservations.get? r with
    | none => exact .inr (.inl rfl)
    | some =>
      refine .inr (.inr ?_)
      rcases h.reservation_cases r _ hnew with hsame | hchange
      · rw [← hsame, hold]
      cases hchange with
      | bound _ _ _ before =>
        cases hold.symm.trans before
        rfl
      | committed _ _ _ _ new => cases hold.symm.trans new
      | recovered _ uses =>
        cases h with
        | recoveryCommitted valid ledgers =>
          cases hold.symm.trans (replacement_free valid ledgers uses)
        | unchanged => rw [← hnew, hold]
        | groupMoved move | taskMoved move => cases move

end RoboGuide.Control
