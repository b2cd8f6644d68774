import RoboGuide.Control.Recovery

/-!
# `RoboGuide.Control.Effect`: what the building blocks of an operation do

Run equations of the statements operations are made of, and the fields each state update
leaves alone. Proofs about operations use these instead of unfolding the updates.
-/

namespace RoboGuide.Control

open Domain Lib Fallible ControlPlane

/-! ### Statements -/

section

variable {α : Type} (k : Kernel)

@[simp] lemma run_modifyControl (f : ControlPlane → ControlPlane) :
    modifyControl f k = .ok () { k with control := f k.control } := rfl

@[simp] lemma run_modifyControl_bind (f : ControlPlane → ControlPlane) (g : Unit → ControlM α) :
    (modifyControl f >>= g) k = g () { k with control := f k.control } := rfl

@[simp] lemma run_emit (e : EventPayload) :
    emit e k = .ok () { k with events := k.events ++ [e] } := rfl

@[simp] lemma run_emit_bind (e : EventPayload) (g : Unit → ControlM α) :
    (emit e >>= g) k = g () { k with events := k.events ++ [e] } := rfl

@[simp] lemma setGroup_setGroup (c : ControlPlane) (id : ExecutionGroupId)
    (g g' : ExecutionGroup) : (c.setGroup id g).setGroup id g' = c.setGroup id g' := by
  simp [setGroup]

lemma run_storeGroup (id : ExecutionGroupId) (g : ExecutionGroup) : storeGroup id g k =
      match g.refreshMembership with
      | .ok g' => .ok () { k with control := k.control.setGroup id g' }
      | .error e => .error e { k with control := k.control.setGroup id g } := by
  rw [storeGroup, run_modifyControl_bind, run_check_bind]
  cases g.refreshMembership <;> simp

lemma run_storeGroup_bind (id : ExecutionGroupId) (g : ExecutionGroup) (f : Unit → ControlM α) :
    (storeGroup id g >>= f) k = match g.refreshMembership with
      | .ok g' => f () { k with control := k.control.setGroup id g' }
      | .error e => .error e { k with control := k.control.setGroup id g } := by
  rw [run_bind, run_storeGroup]
  cases g.refreshMembership <;> rfl

end

lemma run_moveGroup {k : Kernel} {id : ExecutionGroupId} {g : ExecutionGroup}
    {allowed : GroupLifecycle → Bool} (hg : k.control.group id = some g)
    (hallowed : allowed g.lifecycle = true) (next : GroupLifecycle)
    (event : TaskRef → EventPayload) : moveGroup id allowed next event k = .ok ()
      { control := k.control.setGroup id { g with lifecycle := next }
        events := k.events ++ [event g.taskRef] } := by
  unfold moveGroup
  simp [lookupGroup, hg, hallowed]

/-! ### Membership -/

lemma refreshMembership_cases {g g' : ExecutionGroup} (h : g.refreshMembership = .ok g') :
    ∃ v, g' = { g with membershipVersion := v } := by
  unfold ExecutionGroup.refreshMembership at h
  split at h
  · exact ⟨g.membershipVersion, by simpa using h.symm⟩
  · split at h
    · exact ⟨g.membershipVersion, by simpa using h.symm⟩
    · simp only [bind_eq_ok, pure_eq_ok] at h
      obtain ⟨_, -, rfl⟩ := h
      exact ⟨_, rfl⟩

lemma refreshMembership_ok_iff (g : ExecutionGroup) : (∃ g', g.refreshMembership = .ok g') ↔
      ∀ v, g.membershipVersion = some v →
        v.generation < u64Max ∨ g.membershipDigest = v.bindingsDigest := by
  unfold ExecutionGroup.refreshMembership
  split
  · next h => simp [h]
  · next v h =>
    by_cases hd : g.membershipDigest = v.bindingsDigest
    · simp [h, hd]
    · by_cases hg : v.generation < u64Max <;> simp [h, hd, hg, checkedSucc]

/-! ### Giving resources back -/

section

variable (c : ControlPlane) (rs : List ResourceId)

lemma releaseResources_frame : c.releaseResources rs = { c with
      reservations := (c.releaseResources rs).reservations
      quotaLedger := (c.releaseResources rs).quotaLedger
      quotaUnaccountedResources := (c.releaseResources rs).quotaUnaccountedResources } := by
  unfold releaseResources
  induction rs generalizing c with
  | nil => rfl
  | cons r rs ih =>
    rw [List.foldl_cons, ih (c.releaseResource r)]
    rfl

@[simp] lemma releaseResources_groups : (c.releaseResources rs).groups = c.groups := by
  rw [releaseResources_frame]

@[simp] lemma releaseResources_capacityLedger :
    (c.releaseResources rs).capacityLedger = c.capacityLedger := by
  rw [releaseResources_frame]

lemma releaseResources_reservations_get? (r : ResourceId) :
    (c.releaseResources rs).reservations.get? r =
      if r ∈ rs then none else c.reservations.get? r := by
  unfold releaseResources
  induction rs generalizing c with
  | nil => simp
  | cons a rs ih =>
    rw [List.foldl_cons, ih (c.releaseResource a)]
    by_cases hr : r ∈ rs
    · simp [hr]
    · by_cases ha : r = a <;>
        simp [hr, ha, releaseResource, releaseResourceQuota, get?_erase]

end

variable (c : ControlPlane)

@[simp] lemma setGroup_group_self (id : ExecutionGroupId)
    (g : ExecutionGroup) : (c.setGroup id g).group id = some g := by
  simp [setGroup, group]

lemma setGroup_group (id id' : ExecutionGroupId) (g : ExecutionGroup) :
    (c.setGroup id g).group id' = if id' = id then some g else c.group id' :=
  get?_insert _ _ _ _

@[simp] lemma setGroup_reservations (id : ExecutionGroupId)
    (g : ExecutionGroup) : (c.setGroup id g).reservations = c.reservations := rfl

lemma releaseCapacityTask_get? (group : ExecutionGroupId) (task : TaskRef)
    (role : Option RoleId) (id : AllocationId) :
    (c.releaseCapacityTask group task role).capacityLedger.allocations.get? id =
      ((c.capacityLedger.allocations.get? id).map
          (endBorrowing group task role)).filter fun record =>
        record.original.groupId != group || isContextOwner record.original.owner ||
          !record.borrowers.isEmpty := by
  simp [releaseCapacityTask, retainCapacity, OrdMap.get?_retain, get?_mapValues]

/-! ### Releasing one Role -/

def ExecutionGroup.withoutTaskRole (g : ExecutionGroup) (t : TaskExecution) (task : TaskRef)
    (role : RoleId) (a : RoleAssignment) : ExecutionGroup :=
  let index := t.assignments.findIdx fun a => a.roleId == role
  { g.setTask task (t.withAssignments (t.assignments.eraseIdx index)) with
    taskUnboundRoles := g.taskUnboundRoles.insert (toLex (task, role)) ⟨a.nodeId, index⟩ }

def ExecutionGroup.withoutLegacyRole (g : ExecutionGroup) (role : RoleId) (a : RoleAssignment) :
    ExecutionGroup :=
  let index := g.assignments.findIdx fun a => a.roleId == role
  { g with
    assignments := g.assignments.eraseIdx index
    unboundRoles := g.unboundRoles.insert role ⟨a.nodeId, index⟩ }

/-! ### Concrete runs -/

/-- Evidence in which these nodes are registered and every eligibility and policy check
passes. -/
def Evidence.granting (now : TimestampMs) (nodes : List (NodeId × List Resource)) : Evidence where
  now := now
  nodes := OrdMap.ofList (nodes.map fun n => (n.1, ⟨n.2, [], [], true⟩))
  eligible := fun _ _ _ => true
  gatesAllow := fun _ _ _ _ => true
  nodeTenantAllowed := fun _ _ => true
  hasReceipts := fun _ => false
  decisionPolicyDigest := none

end RoboGuide.Control
