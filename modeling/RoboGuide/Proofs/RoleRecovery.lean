import RoboGuide.Control.Effect
import RoboGuide.Lib.Position

/-!
# `RoboGuide.Proofs.RoleRecovery`: when starting a recovery is all or nothing

`begin_role_recovery` checks the release first (`validate_role_recovery_release`), then
blocks the Group, then releases the Role. The first check looks a resource up in both
ownership tables, the release of a Task's Role only in the exclusive one. So the check can
pass and the release still fail, after the Group was blocked and the event appended.

`AllOrNothing` states what a call should do in either outcome, `Recoverable` is the exact
condition on the state before it, and `beginRecovery_allOrNothing_iff` joins the two for
both entry points.
-/

namespace RoboGuide.Control

open Domain Lib Fallible ExecutionGroup List Option CapacityAllocation ControlPlane

variable {k₀ : Kernel} {t : TaskExecution} {c : ControlPlane}

/-! ### The property -/

def holderAssignments (g : ExecutionGroup) (task : TaskRef) : List RoleAssignment :=
  ((g.taskExecution task).map (·.assignments)).getD g.assignments

/-- A refused call leaves the Group, all ownership and the events as they were. -/
structure Untouched (id : ExecutionGroupId) (k k' : Kernel) : Prop where
  lifecycle : (k'.control.group id).map (·.lifecycle) = (k.control.group id).map (·.lifecycle)
  assignments : (k'.control.group id).map (·.assignments) =
    (k.control.group id).map (·.assignments)
  taskExecutions : (k'.control.group id).map (·.taskExecutions) =
    (k.control.group id).map (·.taskExecutions)
  reservations : k'.control.reservations = k.control.reservations
  capacity : k'.control.capacityLedger = k.control.capacityLedger
  quota : k'.control.quotaLedger = k.control.quotaLedger
  events : k'.events = k.events

/-- What is left of an allocation once the Role does not borrow from it any more. -/
def CapacityAllocation.without (need : RoleRecoveryNeed) (record : CapacityAllocation) :
    Option CapacityAllocation :=
  if record.original.groupId = need.groupId ∧
      record.borrowedBy need.taskRef need.roleId = true then
    let others := record.borrowers.filter fun b =>
      !(b.taskRef == need.taskRef && b.roleId == need.roleId)
    if isContextOwner record.original.owner || !others.isEmpty then
      some { record with borrowers := others }
    else none
  else some record

/-- The Role is unbound and what it held is given back, and nothing else. -/
structure RoleReleased (need : RoleRecoveryNeed) (c c' : ControlPlane) : Prop where
  unbound : ∃ g', c'.group need.groupId = some g' ∧
    (g'.recoveryUnboundRole need.taskRef need.roleId).isSome = true ∧
    ∀ a ∈ holderAssignments g' need.taskRef, a.roleId ≠ need.roleId
  reservations : ∃ g held, c.group need.groupId = some g ∧
    held ∈ holderAssignments g need.taskRef ∧ held.roleId = need.roleId ∧
    (∀ r ∈ held.resourceIds, ∀ res, c.reservations.get? r = some res →
      roleReservationOwned res need.groupId need.taskRef need.roleId = true) ∧
    ∀ r, c'.reservations.get? r = if r ∈ held.resourceIds then none else c.reservations.get? r
  allocations : ∀ id, c'.capacityLedger.allocations.get? id =
    (c.capacityLedger.allocations.get? id).bind (·.without need)

/-- A failure leaves everything as it was, a success releases the Role. -/
def AllOrNothing (need : RoleRecoveryNeed) (k : Kernel) :
    EStateM.Result ControlError Kernel Unit → Prop
  | .error _ k' => Untouched need.groupId k k'
  | .ok _ k' => RoleReleased need k.control k'.control

/-! ### The condition -/

def withoutRole (g : ExecutionGroup) (task : TaskRef) (role : RoleId) : ExecutionGroup :=
  match g.taskExecution task with
  | some t => g.setTask task
      (t.withAssignments (t.assignments.eraseIdx (t.assignments.findIdx fun a => a.roleId == role)))
  | none => { g with
      assignments := g.assignments.eraseIdx (g.assignments.findIdx fun a => a.roleId == role) }

/-- Everything the Role holds is in the table the release looks at. -/
def ReleaseFinds (c : ControlPlane) (need : RoleRecoveryNeed) (g : ExecutionGroup) : Prop :=
  match g.taskExecution need.taskRef with
  | some t =>
    (∀ a ∈ t.assignments, a.roleId = need.roleId → ∀ r ∈ a.resourceIds,
      c.reservations.contains r = true) ∧
    ∀ record ∈ c.capacityLedger.allocations.values, record.original.groupId = need.groupId →
      isContextOwner record.original.owner = false → record.borrowers ≠ []
  | none => ∀ record ∈ c.capacityLedger.allocations.values,
      record.original.groupId = need.groupId →
        record.borrowedBy need.taskRef need.roleId = false

/-- The state in which a recovery that passes its first check releases the Role: the Role is
bound once, the membership of the Group can move on, and the release finds its resources. -/
structure Recoverable (c : ControlPlane) (need : RoleRecoveryNeed) (g : ExecutionGroup) :
    Prop where
  boundOnce : (holderAssignments g need.taskRef).countP (fun a => a.roleId == need.roleId) = 1
  membership : ∀ v, g.membershipVersion = some v → v.generation < u64Max ∨
    (withoutRole g need.taskRef need.roleId).membershipDigest = v.bindingsDigest
  found : ReleaseFinds c need g

/-! ### Runs of the two releases -/

section

variable {k : Kernel} {id : ExecutionGroupId} {task : TaskRef} {role : RoleId}
  {g : ExecutionGroup}

def taskRoleResourcesReleased (c : ControlPlane) (id : ExecutionGroupId) (task : TaskRef)
    (role : RoleId) (a : RoleAssignment) : ControlPlane :=
  (c.releaseResources a.resourceIds).releaseCapacityTask id task (some role)

lemma releaseTaskRoleBinding_run (hg : k.control.group id = some g)
    (hb : g.lifecycle = .blocked) (ht : g.taskExecution task = some t) :
    releaseTaskRoleBinding id task role k = match t.assignments.find? fun a => a.roleId == role with
      | none => .error (.invalidProposal s!"Task has no role {role}") k
      | some a =>
        match a.resourceIds.forM (validateTaskRoleRelease k.control id task role) with
        | .error e => .error e k
        | .ok _ =>
          (storeGroup id (g.withoutTaskRole t task role a) >>= fun _ =>
            emit (.executionGroupRoleBindingReleased id task role a.nodeId a.resourceIds))
            { k with control := taskRoleResourcesReleased k.control id task role a } := by
  have hblocked : refuse (g.lifecycle != .blocked) (ControlError.invalidLifecycle g.lifecycle) =
      .ok () := by simp [hb]
  unfold releaseTaskRoleBinding
  simp only [run_get_bind, run_check_bind, lookupGroup, hg, okOr_some, hblocked, ht]
  cases t.assignments.find? fun a => a.roleId == role with
  | none => rfl
  | some a =>
    simp only [okOr_some]
    cases a.resourceIds.forM (validateTaskRoleRelease k.control id task role) <;> rfl

lemma releaseRoleBinding_run (hg : k.control.group id = some g) (hb : g.lifecycle = .blocked)
    (htask : g.taskRef = task) : releaseRoleBinding id role k =
      match g.assignments.find? fun a => a.roleId == role with
      | none => .error (.invalidProposal s!"group has no active binding for role {role}") k
      | some a =>
        match a.resourceIds.forM (validateRoleRelease k.control id task role) with
        | .error e => .error e k
        | .ok _ =>
          (storeGroup id (g.withoutLegacyRole role a) >>= fun _ =>
            emit (.executionGroupRoleBindingReleased id task role a.nodeId a.resourceIds))
            { k with control := k.control.releaseResources a.resourceIds } := by
  subst htask
  have hblocked : refuse (g.lifecycle != .blocked) (ControlError.invalidLifecycle g.lifecycle) =
      .ok () := by simp [hb]
  unfold releaseRoleBinding
  simp only [run_get_bind, run_check_bind, lookupGroup, hg, okOr_some, hblocked]
  cases g.assignments.find? fun a => a.roleId == role with
  | none => rfl
  | some a =>
    simp only [okOr_some]
    cases a.resourceIds.forM (validateRoleRelease k.control id g.taskRef role) <;> rfl

end

/-! ### The first check -/

/-- What a passed first check says. -/
lemma validateRoleRecoveryRelease_ok {need : RoleRecoveryNeed}
    (h : validateRoleRecoveryRelease c need = .ok ()) :
    ∃ g held, c.group need.groupId = some g ∧ g.lifecycle.working = true ∧
      ((g.taskExecution need.taskRef).isSome = true ∨
        g.taskExecutions = ∅ ∧ g.taskRef = need.taskRef) ∧
      held ∈ holderAssignments g need.taskRef ∧ held.roleId = need.roleId ∧
      held.nodeId = need.currentNodeId ∧ ∀ r ∈ held.resourceIds, ∃ res,
        c.bindingReservation r need.groupId need.taskRef need.roleId = some res ∧
        roleReservationOwned res need.groupId need.taskRef need.roleId = true ∧
        ((g.taskExecution need.taskRef).isSome = true → res.scope ≠ .context) := by
  simp only [validateRoleRecoveryRelease, lookupGroup, bind_eq_ok, okOr_eq_ok, refuse_eq_ok,
    forM_eq_ok, Bool.not_eq_false'] at h
  obtain ⟨g, hg, -, hw, ⟨as, ofTask⟩, has, held, hfind, hres⟩ := h
  have hheld := find?_some hfind
  simp only [Bool.and_eq_true, beq_iff_eq] at hheld
  have hmem := mem_of_find?_eq_some hfind
  unfold recoveryAssignments at has
  cases ht : g.taskExecution need.taskRef with
  | some t =>
    rw [ht] at has
    obtain ⟨rfl, rfl⟩ : t.assignments = as ∧ true = ofTask := by simpa using has
    refine ⟨g, held, hg, hw, .inl (by simp [ht]), by simpa [holderAssignments, ht] using hmem,
      hheld.1, hheld.2, fun r hr => ?_⟩
    obtain ⟨res, hbind, -, howned, hscope⟩ := hres r hr
    exact ⟨res, hbind, howned, fun _ => by simpa using hscope⟩
  | none =>
    rw [ht] at has
    simp only [bind_eq_ok, refuse_eq_ok, pure_eq_ok, Bool.not_eq_false', Bool.and_eq_true,
      beq_iff_eq, Prod.mk.injEq] at has
    obtain ⟨-, ⟨hempty, htask⟩, rfl, rfl⟩ := has
    refine ⟨g, held, hg, hw, .inr ⟨hempty, htask⟩, by simpa [holderAssignments, ht] using hmem,
      hheld.1, hheld.2, fun r hr => ?_⟩
    obtain ⟨res, hbind, -, howned, -⟩ := hres r hr
    exact ⟨res, hbind, howned, by simp [ht]⟩

def blockedFor (k : Kernel) (need : RoleRecoveryNeed) (g : ExecutionGroup) : Kernel where
  control := k.control.setGroup need.groupId { g with lifecycle := .blocked }
  events := k.events ++ [.executionGroupBlocked need.groupId g.taskRef
    s!"assigned node {need.currentNodeId} is unavailable for role {need.roleId}"]

lemma beginRoleRecovery_run {k : Kernel} {need : RoleRecoveryNeed} {g : ExecutionGroup}
    (hp : validateRoleRecoveryRelease k.control need = .ok ())
    (hg : k.control.group need.groupId = some g) : beginRoleRecovery need k =
      (if (g.taskExecution need.taskRef).isSome then
        releaseTaskRoleBinding need.groupId need.taskRef need.roleId
      else releaseRoleBinding need.groupId need.roleId) (blockedFor k need g) := by
  obtain ⟨g', held, hg', hw, htask, hmem, hrole, hnode, -⟩ := validateRoleRecoveryRelease_ok hp
  obtain rfl : g' = g := some.inj (hg'.symm.trans hg)
  have hany : (holderAssignments g' need.taskRef).any (fun a =>
      a.roleId == need.roleId && a.nodeId == need.currentNodeId) = true :=
    any_eq_true.mpr ⟨held, hmem, by simp [hrole, hnode]⟩
  have hneeded : recoveryStillNeeded k.control need =
      .ok (g'.taskExecution need.taskRef).isSome := by
    simp only [recoveryStillNeeded, lookupGroup, hg, bind_eq_ok, okOr_eq_ok, refuse_eq_ok,
      pure_eq_ok, some.injEq, exists_eq_left']
    refine ⟨(), by simp [hw], (), ?_, trivial⟩
    have htask' : (g'.taskRef != need.taskRef && !(g'.taskExecution need.taskRef).isSome) =
        false := by
      rcases htask with h | h
      · simp [h]
      · simp [h.2]
    rw [htask', show (Option.map (·.assignments) (g'.taskExecution need.taskRef)).getD
      g'.assignments = holderAssignments g' need.taskRef from rfl, hany]
    rfl
  unfold beginRoleRecovery
  simp only [run_get_bind, run_check_bind, hp, hneeded, blockGroup]
  rw [run_bind, run_moveGroup hg hw]
  rfl

/-! ### The two branches -/

section

variable {k : Kernel} {need : RoleRecoveryNeed} {g : ExecutionGroup}

lemma not_untouched_of_blocked {k' : Kernel} (hg : k.control.group need.groupId = some g)
    (hw : g.lifecycle.working = true)
    (hb : (k'.control.group need.groupId).map (·.lifecycle) = some .blocked) :
    ¬ Untouched need.groupId k k' := by
  intro h
  have hl := h.lifecycle
  rw [hb, hg] at hl
  have hlife : g.lifecycle = .blocked := by simpa using hl.symm
  rw [hlife] at hw
  cases hw

lemma run_storeGroup_emit (k : Kernel) (id : ExecutionGroupId) (g : ExecutionGroup)
    (e : EventPayload) : (storeGroup id g >>= fun _ => emit e) k = match g.refreshMembership with
      | .ok g' => .ok () { control := k.control.setGroup id g', events := k.events ++ [e] }
      | .error err => .error err { k with control := k.control.setGroup id g } := by
  rw [run_storeGroup_bind]
  cases g.refreshMembership <;> rfl

lemma releaseCapacity_without_iff (record : CapacityAllocation) :
    ((some record).map (endBorrowing need.groupId need.taskRef
        (some need.roleId))).filter (fun record =>
          record.original.groupId != need.groupId || isContextOwner record.original.owner ||
            !record.borrowers.isEmpty) = record.without need ↔
      (record.original.groupId = need.groupId →
        isContextOwner record.original.owner = false → record.borrowers ≠ []) := by
  unfold without endBorrowing
  by_cases hid : record.original.groupId = need.groupId
  · have hfilter : (record.borrowers.filter fun b =>
        b.taskRef != need.taskRef || (some need.roleId).any fun r => b.roleId != r) =
        record.borrowers.filter fun b =>
          !(b.taskRef == need.taskRef && b.roleId == need.roleId) := by
      apply filter_congr
      intro b _
      simp [bne, Bool.not_and]
    by_cases hb : record.borrowedBy need.taskRef need.roleId = true
    · have hne : record.borrowers ≠ [] := by
        rintro h
        simp [borrowedBy, h] at hb
      simp only [map_some, filter_some, hid, hb, if_true, hfilter, bne_self_eq_false,
        Bool.false_or, true_and]
      simp [hne]
    · have hkeep : (record.borrowers.filter fun b =>
          !(b.taskRef == need.taskRef && b.roleId == need.roleId)) = record.borrowers := by
        apply filter_eq_self.mpr
        intro b hmem
        by_contra hcontra
        refine hb (any_eq_true.mpr ⟨b, hmem, ?_⟩)
        simpa using hcontra
      simp only [map_some, filter_some, hid, hb, if_true, hfilter, hkeep,
        bne_self_eq_false, Bool.false_or]
      by_cases hc : isContextOwner record.original.owner = true
      · simp [hc]
      · by_cases hbs : record.borrowers = [] <;> simp [hc, hbs]
  · simp [hid]

lemma releaseCapacityTask_without_iff (need : RoleRecoveryNeed) (c : ControlPlane) :
    (∀ id, (c.releaseCapacityTask need.groupId need.taskRef
          (some need.roleId)).capacityLedger.allocations.get? id =
        (c.capacityLedger.allocations.get? id).bind (·.without need)) ↔
      ∀ record ∈ c.capacityLedger.allocations.values, record.original.groupId = need.groupId →
        isContextOwner record.original.owner = false → record.borrowers ≠ [] := by
  simp only [releaseCapacityTask_get?]
  constructor
  · intro h record hrecord
    obtain ⟨id, hid⟩ := mem_values_iff.mp hrecord
    have hid' := h id
    rw [hid] at hid'
    exact (releaseCapacity_without_iff record).mp hid'
  · intro h id
    cases hid : c.capacityLedger.allocations.get? id with
    | none => rfl
    | some record =>
      exact (releaseCapacity_without_iff record).mpr
        (h record (mem_values_iff.mpr ⟨id, hid⟩))

lemma validateTaskRoleRelease_ok_iff {id : ExecutionGroupId}
    {task : TaskRef} {role : RoleId} {r : ResourceId} :
    validateTaskRoleRelease c id task role r = .ok () ↔
      ∃ res, c.reservations.get? r = some res ∧ roleReservationOwned res id task role = true ∧
        res.scope ≠ .context := by
  simp [validateTaskRoleRelease]

lemma ExecutionGroup.withoutTaskRole_digest (hw : g.lifecycle.working = true)
    (ht : g.taskExecution need.taskRef = some t) (a : RoleAssignment) :
    (withoutTaskRole { g with lifecycle := .blocked } t need.taskRef need.roleId
        a).membershipDigest =
      (withoutRole g need.taskRef need.roleId).membershipDigest := by
  have hlive : (g.lifecycle == .released) = false := by
    cases hl : g.lifecycle <;> simp_all [GroupLifecycle.working]
  simp [withoutTaskRole, withoutRole, ht, setTask, membershipDigest, hlive]

/-- Either release checks the resources of the assignment it finds, frees them in `c₁` and stores
the Group without the assignment. -/
lemma release_allOrNothing_iff {a : RoleAssignment} {checks : Except ControlError Unit}
    {unbound : ExecutionGroup} {c₁ : ControlPlane} {k₁ : Kernel} {event : EventPayload}
    (hg : k.control.group need.groupId = some g) (hw : g.lifecycle.working = true)
    (ha : (holderAssignments g need.taskRef).find? (fun a => a.roleId == need.roleId) = some a)
    (hstart : k₁.control.group need.groupId = some { g with lifecycle := .blocked })
    (hpass : Recoverable k.control need g → checks = .ok ())
    (hblocked : unbound.lifecycle = .blocked)
    (hversion : unbound.membershipVersion = g.membershipVersion)
    (hdigest : unbound.membershipDigest = (withoutRole g need.taskRef need.roleId).membershipDigest)
    (hwaits : ∀ v, ({ unbound with membershipVersion := v }.recoveryUnboundRole need.taskRef
      need.roleId).isSome = true)
    (hleft : ∀ v, holderAssignments { unbound with membershipVersion := v } need.taskRef =
      (holderAssignments g need.taskRef).eraseIdx
        ((holderAssignments g need.taskRef).findIdx fun a => a.roleId == need.roleId))
    (hfreed : ∀ r, c₁.reservations.get? r =
      if r ∈ a.resourceIds then none else k.control.reservations.get? r)
    (howned : checks = .ok () → ∀ r ∈ a.resourceIds, ∀ res,
      k.control.reservations.get? r = some res →
        roleReservationOwned res need.groupId need.taskRef need.roleId = true)
    (hfinds : checks = .ok () →
      (holderAssignments g need.taskRef).countP (fun a => a.roleId == need.roleId) = 1 →
      ((∀ id, c₁.capacityLedger.allocations.get? id =
        (k.control.capacityLedger.allocations.get? id).bind (·.without need)) ↔
          ReleaseFinds k.control need g)) :
    AllOrNothing need k (match checks with
      | .error e => .error e k₁
      | .ok _ => (storeGroup need.groupId unbound >>= fun _ => emit event)
          { k₁ with control := c₁ }) ↔ Recoverable k.control need g := by
  cases checks with
  | error =>
    -- the release refuses what the first check accepted; the Group stays blocked
    exact iff_of_false (not_untouched_of_blocked hg hw (by simp [hstart])) fun hrec =>
      nomatch hpass hrec
  | ok =>
    have hrefresh := refreshMembership_ok_iff unbound
    rw [hdigest, hversion] at hrefresh
    simp only [run_storeGroup_emit]
    cases hm : unbound.refreshMembership with
    | error =>
      refine iff_of_false (not_untouched_of_blocked hg hw (by simp [hblocked])) fun hrec => ?_
      obtain ⟨g', hg'⟩ := hrefresh.mpr hrec.membership
      rw [hm] at hg'
      cases hg'
    | ok =>
      obtain ⟨v, rfl⟩ := refreshMembership_cases hm
      have herased := countP_eq_one_iff_erased ha
      rw [← hleft v] at herased
      constructor
      · intro hR
        obtain ⟨g₂, hg₂, -, hnone⟩ := hR.unbound
        cases (setGroup_group_self _ _ _).symm.trans hg₂
        have honce := herased.mpr fun b hb => beq_eq_false_iff_ne.mpr (hnone b hb)
        exact ⟨honce, hrefresh.mp ⟨_, hm⟩, (hfinds rfl honce).mp hR.allocations⟩
      · intro hrec
        have honce := herased.mp hrec.boundOnce
        refine ⟨⟨_, setGroup_group_self _ _ _, hwaits v, fun b hb => ?_⟩, ?_,
          (hfinds rfl hrec.boundOnce).mpr hrec.found⟩
        · exact beq_eq_false_iff_ne.mp (honce b hb)
        · exact ⟨g, a, hg, mem_of_find?_eq_some ha, by simpa using find?_some ha,
            howned rfl, hfreed⟩

lemma releaseTaskRole_allOrNothing_iff {held : RoleAssignment} (hk : k₀.control = k.control)
    (hg : k.control.group need.groupId = some g) (hw : g.lifecycle.working = true)
    (ht : g.taskExecution need.taskRef = some t) (hheld : held ∈ t.assignments)
    (hrole : held.roleId = need.roleId) (hres : ∀ r ∈ held.resourceIds, ∃ res,
      k.control.bindingReservation r need.groupId need.taskRef need.roleId = some res ∧
      roleReservationOwned res need.groupId need.taskRef need.roleId = true ∧
      res.scope ≠ .context) :
    AllOrNothing need k (releaseTaskRoleBinding need.groupId need.taskRef need.roleId
        (blockedFor k₀ need g)) ↔ Recoverable k.control need g := by
  obtain ⟨c₀, events⟩ := k₀
  obtain rfl : c₀ = k.control := hk
  have hg₁ : (blockedFor ⟨k.control, events⟩ need g).control.group need.groupId =
      some { g with lifecycle := .blocked } := setGroup_group_self _ _ _
  have hholder : holderAssignments g need.taskRef = t.assignments := by simp [holderAssignments, ht]
  obtain ⟨a, ha⟩ : ∃ a, t.assignments.find? (fun a => a.roleId == need.roleId) = some a :=
    isSome_iff_exists.mp (find?_isSome.mpr ⟨held, hheld, by simp [hrole]⟩)
  rw [releaseTaskRoleBinding_run hg₁ rfl ht, ha]
  have hcapacity := releaseCapacityTask_without_iff need
    ((blockedFor ⟨k.control, events⟩ need g).control.releaseResources a.resourceIds)
  rw [releaseResources_capacityLedger] at hcapacity
  refine release_allOrNothing_iff hg hw (hholder ▸ ha) hg₁ (fun hrec => ?_) rfl rfl
    (withoutTaskRole_digest hw ht a) (fun v => ?_) (fun v => ?_)
    (releaseResources_reservations_get? _ _) (fun hok r hr res hget => ?_)
    fun hok honce => ?_
  · obtain rfl : held = a := eq_of_countP_eq_one ha (hholder ▸ hrec.boundOnce) hheld
      (by simp [hrole])
    have hfound := hrec.found
    simp only [ReleaseFinds, ht] at hfound
    refine forM_eq_ok.mpr fun r hr => validateTaskRoleRelease_ok_iff.mpr ?_
    obtain ⟨res, hget⟩ := contains_eq_true_iff.mp (hfound.1 held hheld hrole r hr)
    obtain ⟨res', hbind, howned, hscope⟩ := hres r hr
    obtain rfl : res = res' := by simpa [bindingReservation, hget] using hbind
    exact ⟨res, hget, howned, hscope⟩
  · simp [recoveryUnboundRole, withoutTaskRole, taskExecution, setTask]
  · rw [hholder]
    simp [holderAssignments, withoutTaskRole, taskExecution, setTask, TaskExecution.withAssignments]
  · obtain ⟨_, hget', howned, -⟩ := validateTaskRoleRelease_ok_iff.mp (forM_eq_ok.mp hok r hr)
    cases hget'.symm.trans hget
    exact howned
  · simp only [ReleaseFinds, ht]
    refine hcapacity.trans (iff_and_self.mpr fun _ b hb hbrole r hr => ?_)
    obtain rfl := eq_of_countP_eq_one ha (hholder ▸ honce) hb (by simp [hbrole])
    obtain ⟨res, hget, -⟩ := validateTaskRoleRelease_ok_iff.mp (forM_eq_ok.mp hok r hr)
    exact contains_eq_true_iff.mpr ⟨res, hget⟩

lemma without_eq_self_iff (record : CapacityAllocation) : record.without need = some record ↔
      (record.original.groupId = need.groupId →
        record.borrowedBy need.taskRef need.roleId = false) := by
  unfold without
  by_cases hid : record.original.groupId = need.groupId
  · by_cases hb : record.borrowedBy need.taskRef need.roleId = true
    · simp only [hid, hb, and_self, if_true]
      refine iff_of_false (fun h => ?_) (by simp)
      obtain ⟨b, hmem, hmatch⟩ := any_eq_true.mp hb
      have hkept : (record.borrowers.filter fun b =>
          !(b.taskRef == need.taskRef && b.roleId == need.roleId)) = record.borrowers := by
        split at h
        · exact congrArg borrowers (some.inj h)
        · cases h
      rw [← hkept] at hmem
      have := (mem_filter.mp hmem).2
      rw [hmatch] at this
      cases this
    · simp [hid, hb]
  · simp [hid]

lemma ExecutionGroup.withoutLegacyRole_digest (hw : g.lifecycle.working = true)
    (ht : g.taskExecution need.taskRef = none) (a : RoleAssignment) :
    (withoutLegacyRole { g with lifecycle := .blocked } need.roleId a).membershipDigest =
      (withoutRole g need.taskRef need.roleId).membershipDigest := by
  have hlive : (g.lifecycle == .released) = false := by
    cases hl : g.lifecycle <;> simp_all [GroupLifecycle.working]
  simp [withoutLegacyRole, withoutRole, ht, membershipDigest, hlive]

lemma releaseRole_allOrNothing_iff {held : RoleAssignment} (hk : k₀.control = k.control)
    (hg : k.control.group need.groupId = some g) (hw : g.lifecycle.working = true)
    (hempty : g.taskExecutions = ∅) (htask : g.taskRef = need.taskRef)
    (hheld : held ∈ g.assignments) (hrole : held.roleId = need.roleId)
    (hres : ∀ r ∈ held.resourceIds, ∃ res,
      k.control.bindingReservation r need.groupId need.taskRef need.roleId = some res ∧
      roleReservationOwned res need.groupId need.taskRef need.roleId = true) :
    AllOrNothing need k (releaseRoleBinding need.groupId need.roleId (blockedFor k₀ need g)) ↔
      Recoverable k.control need g := by
  obtain ⟨c₀, events⟩ := k₀
  obtain rfl : c₀ = k.control := hk
  have ht : g.taskExecution need.taskRef = none := by simp [taskExecution, hempty]
  have hg₁ : (blockedFor ⟨k.control, events⟩ need g).control.group need.groupId =
      some { g with lifecycle := .blocked } := setGroup_group_self _ _ _
  have hholder : holderAssignments g need.taskRef = g.assignments := by simp [holderAssignments, ht]
  obtain ⟨a, ha⟩ : ∃ a, g.assignments.find? (fun a => a.roleId == need.roleId) = some a :=
    isSome_iff_exists.mp (find?_isSome.mpr ⟨held, hheld, by simp [hrole]⟩)
  rw [releaseRoleBinding_run hg₁ rfl htask]
  simp only [ha]
  have hcheck : ∀ r, validateRoleRelease (blockedFor ⟨k.control, events⟩ need g).control
      need.groupId need.taskRef
      need.roleId r = .ok () ↔ ∃ res,
        k.control.bindingReservation r need.groupId need.taskRef need.roleId = some res ∧
        roleReservationOwned res need.groupId need.taskRef need.roleId = true := by
    intro r
    simp [validateRoleRelease, bindingReservation, blockedFor, setGroup]
  refine release_allOrNothing_iff hg hw (hholder ▸ ha) hg₁ (fun hrec => ?_) rfl rfl
    (withoutLegacyRole_digest hw ht a) (fun v => ?_) (fun v => ?_)
    (releaseResources_reservations_get? _ _) (fun hok r hr res hget => ?_) fun _ _ => ?_
  · obtain rfl : held = a := eq_of_countP_eq_one ha (hholder ▸ hrec.boundOnce) hheld
      (by simp [hrole])
    exact forM_eq_ok.mpr fun r hr => (hcheck r).mpr (hres r hr)
  · simp [recoveryUnboundRole, withoutLegacyRole, taskExecution, hempty, htask]
  · simp [holderAssignments, withoutLegacyRole, taskExecution, hempty]
  · obtain ⟨res', hbind, howned⟩ := (hcheck r).mp (forM_eq_ok.mp hok r hr)
    obtain rfl : res = res' := by simpa [bindingReservation, hget] using hbind
    exact howned
  · simp only [ReleaseFinds, ht, releaseResources_capacityLedger]
    constructor
    · intro hkept record hrecord
      obtain ⟨id, hid⟩ := mem_values_iff.mp hrecord
      have hsame := (hid.symm.trans (hkept id)).symm
      rw [hid] at hsame
      exact (without_eq_self_iff record).mp hsame
    · intro hfound id
      cases hid : k.control.capacityLedger.allocations.get? id with
      | none => exact hid
      | some record =>
        refine hid.trans ((without_eq_self_iff record).mpr ?_).symm
        exact hfound record (mem_values_iff.mpr ⟨id, hid⟩)

lemma recovery_allOrNothing_iff (hk : k₀.control = k.control)
    (hp : validateRoleRecoveryRelease k.control need = .ok ())
    (hg : k.control.group need.groupId = some g) :
    AllOrNothing need k (beginRoleRecovery need k₀) ↔ Recoverable k.control need g := by
  rw [beginRoleRecovery_run (hk ▸ hp) (hk ▸ hg)]
  obtain ⟨g', held, hg', hw, htask, hmem, hrole, -, hres⟩ := validateRoleRecoveryRelease_ok hp
  obtain rfl : g' = g := some.inj (hg'.symm.trans hg)
  cases ht : g'.taskExecution need.taskRef with
  | some t =>
    have hmem' : held ∈ t.assignments := by simpa [holderAssignments, ht] using hmem
    refine releaseTaskRole_allOrNothing_iff hk hg hw ht hmem' hrole fun r hr => ?_
    obtain ⟨res, hbind, howned, hscope⟩ := hres r hr
    exact ⟨res, hbind, howned, hscope (by simp [ht])⟩
  | none =>
    have hmem' : held ∈ g'.assignments := by simpa [holderAssignments, ht] using hmem
    have hlegacy : g'.taskExecutions = ∅ ∧ g'.taskRef = need.taskRef := by simpa [ht] using htask
    refine releaseRole_allOrNothing_iff hk hg hw hlegacy.1 hlegacy.2 hmem' hrole fun r hr => ?_
    obtain ⟨res, hbind, howned, -⟩ := hres r hr
    exact ⟨res, hbind, howned⟩

end

/-! ### Both entry points -/

/-- The condition on the state before the call: the first check refuses, or the Role can be
released completely. -/
def RecoveryAtomic (c : ControlPlane) (need : RoleRecoveryNeed) : Prop :=
  (∃ e, validateRoleRecoveryRelease c need = .error e) ∨
    ∃ g, c.group need.groupId = some g ∧ Recoverable c need g

/-- In every state, `begin_role_recovery` and `begin_execution_recovery` are all or nothing
exactly under `RecoveryAtomic`. -/
theorem beginRecovery_allOrNothing_iff (k : Kernel) (need : RoleRecoveryNeed) :
    (AllOrNothing need k (beginRoleRecovery need k) ↔ RecoveryAtomic k.control need) ∧
    (AllOrNothing need k (beginExecutionRecovery need k) ↔ RecoveryAtomic k.control need) := by
  have hsame : Untouched need.groupId k k := ⟨rfl, rfl, rfl, rfl, rfl, rfl, rfl⟩
  cases hp : validateRoleRecoveryRelease k.control need with
  | error e =>
    have hcond : RecoveryAtomic k.control need := .inl ⟨e, hp⟩
    refine ⟨iff_of_true ?_ hcond, iff_of_true ?_ hcond⟩
    · have hrun : beginRoleRecovery need k = .error e k := by simp [beginRoleRecovery, hp]
      rw [hrun]
      exact hsame
    · have hrun : beginExecutionRecovery need k = .error e k := by simp [beginExecutionRecovery, hp]
      rw [hrun]
      exact hsame
  | ok =>
    obtain ⟨g, -, hg, -⟩ := validateRoleRecoveryRelease_ok hp
    have hcond : RecoveryAtomic k.control need ↔ Recoverable k.control need g := by
      simp [RecoveryAtomic, hp, hg]
    rw [hcond]
    refine ⟨recovery_allOrNothing_iff rfl hp hg, ?_⟩
    have hrun : beginExecutionRecovery need k = beginRoleRecovery need
        { k with events := k.events ++ [.reconciliationRoleRecoveryRequired need.groupId
          need.taskRef need.roleId need.currentNodeId] } := by
      simp [beginExecutionRecovery, hp]
    rw [hrun]
    exact recovery_allOrNothing_iff rfl hp hg

/-! ### A Role that holds a pool -/

namespace PoolRecovery

/-- One Task with one Role that needs four units of a divisible pool. -/
def task : TaskRef := ⟨⟨"mission", .refl false⟩, ⟨"task", .refl false⟩⟩
def role : RoleId := ⟨"role", .refl false⟩
def pool : ResourceId := ⟨"pool", .refl false⟩
def node : NodeId := ⟨"node", .refl false⟩
def group : ExecutionGroupId := ⟨"group", .refl false⟩
def context : CoordinationContextId := ⟨"context", .refl false⟩

def requirement : TaskRequirement where
  taskRef := task
  roles := [⟨role, none, [],
      [⟨.compute, 4, .divisible, some "gpu", Nat.succ_pos (nat_lit 3)⟩], by decide⟩]
  timing := ⟨0, none, none, none⟩
  roles_nonempty := by decide
  roles_distinct := by decide

def plan : MissionPlan where
  missionId := task.missionId
  objective := "compute"
  actors := []
  tasks := [⟨"compute", requirement, [], ⟨context, ∅, ∅, none⟩,
      .executionReport, by decide, by decide⟩]
  contexts := [⟨context, [], [], .independent⟩]
  valid := by decide

def evidence : Evidence :=
  .granting 0 [(node, [⟨pool, .compute, 8, .divisible, some "gpu", by decide⟩])]

def candidates : CandidateSet := ⟨task, OrdMap.ofList [(role, [node])], ∅, ∅, [], ∅⟩

/-- A plane that knows the Mission's tenant and nothing else. -/
def start : Kernel :=
  ⟨{ ControlPlane.new with missionTenants := OrdMap.ofList [(task.missionId, "tenant")] }, []⟩

/-- The Task is committed, bound and activated. -/
def run : ControlM Unit := do
  createMissionGroup group plan
  readyTaskExecution group task
  let proposal ← propose evidence requirement candidates [⟨role, node, [pool]⟩]
  let committed ← commitForGroupWithState evidence group proposal
  bindTaskExecutionWithState evidence group committed
  activateTaskExecution group task 0

/-- The state in which the Role holds the pool. -/
def held : Kernel := state (run start)

def need : RoleRecoveryNeed := ⟨group, task, role, node⟩

def outcome (r : EStateM.Result ControlError Kernel Unit) : Bool × Option GroupLifecycle :=
  match r with
  | .ok _ k => (true, (k.control.group group).map (·.lifecycle))
  | .error _ k => (false, (k.control.group group).map (·.lifecycle))

end PoolRecovery

/-- The recovery of a Role that holds a pool passes the first check, is refused by the
release, and leaves the active Group blocked. -/
theorem pool_recovery_half_done :
    PoolRecovery.outcome (PoolRecovery.run PoolRecovery.start) = (true, some .active) ∧
    PoolRecovery.outcome (beginRoleRecovery PoolRecovery.need PoolRecovery.held) =
      (false, some .blocked) ∧ ¬ AllOrNothing PoolRecovery.need PoolRecovery.held
      (beginRoleRecovery PoolRecovery.need PoolRecovery.held) := by
  have hrun : PoolRecovery.outcome (PoolRecovery.run PoolRecovery.start) =
      (true, some .active) := by decide +kernel
  have hblocked : PoolRecovery.outcome (beginRoleRecovery PoolRecovery.need PoolRecovery.held) =
      (false, some .blocked) := by decide +kernel
  have hactive : (PoolRecovery.held.control.group PoolRecovery.group).map (·.lifecycle) =
      some .active := by decide +kernel
  refine ⟨hrun, hblocked, fun h => ?_⟩
  cases hr : beginRoleRecovery PoolRecovery.need PoolRecovery.held with
  | ok =>
    rw [hr] at hblocked
    cases hblocked
  | error e k' =>
    rw [hr] at h hblocked
    have hl : (k'.control.group PoolRecovery.group).map (·.lifecycle) = some .blocked :=
      congrArg Prod.snd hblocked
    have hsame : (k'.control.group PoolRecovery.group).map (·.lifecycle) =
        (PoolRecovery.held.control.group PoolRecovery.group).map (·.lifecycle) := h.lifecycle
    rw [hl, hactive] at hsame
    cases hsame

end RoboGuide.Control
