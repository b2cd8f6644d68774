import RoboGuide.Control.Ledger

/-!
# `RoboGuide.Control.Lifecycle`: Group and Task transitions, and release

`core/control/src/group/{group_lifecycle,task_lifecycle,membership}.rs` without Rebind:
the transitions of a Group and of its Tasks, and the operations that give resources back
(of one Role for recovery, of a finished Task, of a Context, of a whole Group).
-/

namespace RoboGuide.Control

open Domain Lib
open Fallible (refuse okOr check)

variable (c : ControlPlane) (id : ExecutionGroupId)

/-! ### Primitive updates -/

namespace ControlPlane

def setGroup (g : ExecutionGroup) : ControlPlane :=
  { c with groups := c.groups.insert id g }

def releaseResourceQuota (resource : ResourceId) : ControlPlane :=
  { c with
    quotaLedger := c.quotaLedger.releaseResource resource
    quotaUnaccountedResources := c.quotaUnaccountedResources.erase resource }

/-- Remove an exclusive reservation and its quota claim. -/
def releaseResource (resource : ResourceId) : ControlPlane :=
  releaseResourceQuota { c with reservations := c.reservations.erase resource } resource

/-- Remove the reservations of all these resources. -/
def releaseResources (resources : List ResourceId) : ControlPlane :=
  resources.foldl releaseResource c

def activateScheduledTask (task : TaskRef) : ControlPlane :=
  match c.scheduledTasks.get? task with
  | some r =>
    if r.phase = .scheduled then
      { c with
        scheduledTasks := c.scheduledTasks.insert task { r with phase := .activated }
        calendarVersion := saturatingSucc c.calendarVersion }
    else c
  | none => c

end ControlPlane

namespace ExecutionGroup

def setTask (g : ExecutionGroup) (task : TaskRef) (t : TaskExecution) : ExecutionGroup :=
  { g with taskExecutions := g.taskExecutions.insert task t }

/-- A new generation whenever the bindings changed. -/
def refreshMembership (g : ExecutionGroup) : Except ControlError ExecutionGroup :=
  match g.membershipVersion with
  | none => .ok g
  | some version =>
    if g.membershipDigest = version.bindingsDigest then .ok g
    else do
      let generation ← okOr (checkedSucc version.generation)
        (.invalidProposal "Group membership generation exhausted")
      pure { g with membershipVersion := some ⟨generation, g.membershipDigest⟩ }

end ExecutionGroup

def lookupGroup : Except ControlError ExecutionGroup :=
  okOr (c.group id) (.unknownGroup id)

def modifyControl (f : ControlPlane → ControlPlane) : ControlM Unit :=
  modify fun k => { k with control := f k.control }

def emit (e : EventPayload) : ControlM Unit := modify fun k => { k with events := k.events ++ [e] }

/-- Store a changed Group and refresh its membership. If the generation is exhausted the
change stays and the call fails. -/
def storeGroup (g : ExecutionGroup) : ControlM Unit := do
  modifyControl (·.setGroup id g)
  let refreshed ← check g.refreshMembership
  modifyControl (·.setGroup id refreshed)

/-! ### Group transitions -/

def moveGroup (allowed : GroupLifecycle → Bool) (next : GroupLifecycle)
    (event : TaskRef → EventPayload) : ControlM Unit := do
  let k ← get
  let group ← check (lookupGroup k.control id)
  check (refuse (!allowed group.lifecycle) (.invalidLifecycle group.lifecycle))
  modifyControl (·.setGroup id { group with lifecycle := next })
  emit (event group.taskRef)

def GroupLifecycle.working : GroupLifecycle → Bool
  | .bound | .active | .adapted => true
  | .failed | .completed | .released | .superseded | .blocked => false

lemma GroupLifecycle.working_open {l : GroupLifecycle} (h : l.working = true) :
    l.terminal = false := by
  cases l <;> first | rfl | cases h

def blockGroup (reason : String) : ControlM Unit :=
  moveGroup id GroupLifecycle.working .blocked (.executionGroupBlocked id · reason)

def failGroup (reason : String) : ControlM Unit :=
  moveGroup id (· == .blocked) .failed (.executionGroupFailed id · reason)

def activateGroup : ControlM Unit := do
  let k ← get
  let group ← check (lookupGroup k.control id)
  check (refuse (group.lifecycle != .bound && group.lifecycle != .adapted)
    (.invalidLifecycle group.lifecycle))
  check (refuse (group.unboundRoles != ∅ || group.taskUnboundRoles != ∅)
    (.invalidProposal "execution group still has unbound roles"))
  check (refuse (group.taskExecutions != ∅ && !group.taskExecutions.values.any fun t =>
      t.lifecycle == .active || t.lifecycle == .awaitingSatisfaction || t.lifecycle == .completed)
    (.invalidProposal "Mission Group requires an explicitly activated TaskExecution"))
  modifyControl (·.setGroup id { group with lifecycle := .active })
  emit (.executionGroupActivated id group.taskRef)

def completeGroup : ControlM Unit := do
  let k ← get
  let group ← check (lookupGroup k.control id)
  check (refuse (group.lifecycle != .active && group.lifecycle != .adapted)
    (.invalidLifecycle group.lifecycle))
  check (refuse (group.unboundRoles != ∅ || group.taskUnboundRoles != ∅)
    (.invalidProposal "execution group still has unbound roles"))
  match group.taskExecutions.values.find? fun t => t.lifecycle != .completed with
  | some incomplete =>
    throw (.invalidProposal s!"TaskExecution {incomplete.taskRef} is not completed")
  | none =>
    modifyControl (·.setGroup id { group with lifecycle := .completed })
    emit (.executionGroupCompleted id group.taskRef)

/-! ### Task transitions -/

def lookupTask (group : ExecutionGroup) (task : TaskRef) : Except ControlError TaskExecution :=
  okOr (group.taskExecution task) (.invalidProposal "unknown Task execution")

def moveTask (task : TaskRef) (allowed : TaskExecutionLifecycle → Bool)
    (message : String) (next : TaskExecutionLifecycle) (event : EventPayload) :
    ControlM Unit := do
  let k ← get
  let group ← check (lookupGroup k.control id)
  let execution ← check (lookupTask group task)
  check (refuse (!allowed execution.lifecycle) (.invalidProposal message))
  modifyControl (·.setGroup id (group.setTask task (execution.withLifecycle next)))
  emit event

def recordTaskExecutionCompleted (task : TaskRef) : ControlM Unit :=
  moveTask id task (· == .active) "Task execution is not active" .awaitingSatisfaction
    (.taskExecutionCompleted id task)

def satisfyTaskExecution (task : TaskRef)
    (basis : TaskSatisfactionBasis) : ControlM Unit :=
  moveTask id task (· == .awaitingSatisfaction) "Task execution is not awaiting satisfaction"
    .completed (.taskSatisfied id task basis)

def failTaskExecution (task : TaskRef) : ControlM Unit :=
  moveTask id task (fun l => l == .active || l == .blocked || l == .awaitingSatisfaction)
    "only an active, blocked, or awaiting-satisfaction Task can fail" .failed
    (.taskExecutionFailed id task)

def rejectTaskSatisfaction (task : TaskRef)
    (basis : TaskSatisfactionBasis) : ControlM Unit :=
  moveTask id task (· == .awaitingSatisfaction)
    "only a Task awaiting satisfaction can reject semantic satisfaction" .satisfactionRejected
    (.taskSatisfactionRejected id task basis)

/-- The calendar lets the Task start now; returns whether its reservation is to be activated. -/
def activationWindow (task : TaskRef) (now : TimestampMs) :
    Except ControlError Bool :=
  match c.scheduledTask task with
  | none => .ok false
  | some r => do
    refuse (r.phase == .invalidated)
      (.invalidProposal "invalidated scheduling reservation cannot activate")
    refuse (decide (now < r.decision.startsAt))
      (.invalidProposal "scheduled Task cannot activate before its reserved start")
    refuse (r.decision.endsAt.any fun endsAt => decide (endsAt ≤ now))
      (.invalidProposal "scheduled Task cannot activate after its reserved interval")
    refuse (r.decision.latestActivationAt.any fun latest => decide (latest < now))
      (.invalidProposal "scheduled Task cannot activate after its allowed start window")
    pure (r.phase == .scheduled)

def exactlyAssigned (t : TaskExecution) (assignments : List RoleAssignment) : Bool :=
  OrdSet.ofList (assignments.map (·.roleId)) = OrdSet.ofList t.roleScopes.keys &&
    decide (assignments.map (·.roleId)).Nodup

/-- A working Group becomes active; no other Group lifecycle is
looked at. -/
def activateTaskExecution (task : TaskRef) (now : TimestampMs) :
    ControlM Unit := do
  let k ← get
  let activateSchedule ← check (activationWindow k.control task now)
  let group ← check (lookupGroup k.control id)
  let execution ← check (lookupTask group task)
  check (refuse (!exactlyAssigned execution execution.assignments)
    (.invalidProposal
      "Task execution requires committed assignments for every role before activation"))
  check (refuse (execution.lifecycle != .ready)
    (.invalidProposal "Task execution is not ready to activate"))
  let group := group.setTask task (execution.withLifecycle .active)
  let lifecycle := if group.lifecycle = .bound ∨ group.lifecycle = .adapted then .active
    else group.lifecycle
  modifyControl (·.setGroup id { group with lifecycle })
  emit (.taskExecutionActivated id task)
  if activateSchedule then
    modifyControl (·.activateScheduledTask task)
    emit (.schedulingReservationActivated id task)

/-! ### Releasing one Role for recovery -/

/-- The Role's reservation of a resource as the source compares it before release. -/
def roleReservationOwned (r : Reservation) (id : ExecutionGroupId) (task : TaskRef)
    (role : RoleId) : Bool :=
  r.taskRef == task && r.roleId == role && r.groupId == some id

/-- The ownership checks of `release_role_binding`, in both tables. -/
def validateRoleRelease (task : TaskRef)
    (role : RoleId) (resource : ResourceId) : Except ControlError Unit := do
  let r ← okOr (c.bindingReservation resource id task role)
    (.invalidProposal s!"group {id} binding {resource} has no reservation")
  refuse (!roleReservationOwned r id task role)
    (.invalidProposal s!"group {id} does not own role reservation {resource}")

/-- `release_role_binding`, for Groups without Task executions. -/
def releaseRoleBinding (role : RoleId) : ControlM Unit := do
  let k ← get
  let group ← check (lookupGroup k.control id)
  check (refuse (group.lifecycle != .blocked) (.invalidLifecycle group.lifecycle))
  let assignment ← check (okOr (group.assignments.find? fun a => a.roleId == role)
    (.invalidProposal s!"group has no active binding for role {role}"))
  let index := group.assignments.findIdx fun a => a.roleId == role
  check (assignment.resourceIds.forM (validateRoleRelease k.control id group.taskRef role))
  modifyControl (·.releaseResources assignment.resourceIds)
  storeGroup id { group with
    assignments := group.assignments.eraseIdx index
    unboundRoles := group.unboundRoles.insert role ⟨assignment.nodeId, index⟩ }
  emit (.executionGroupRoleBindingReleased id group.taskRef role assignment.nodeId
    assignment.resourceIds)

/-- The ownership checks of `release_task_role_binding`: only exclusive reservations are
looked up. -/
def validateTaskRoleRelease (task : TaskRef)
    (role : RoleId) (resource : ResourceId) : Except ControlError Unit := do
  let r ← okOr (c.reservations.get? resource)
    (.invalidProposal s!"Task binding {resource} has no reservation")
  refuse (!roleReservationOwned r id task role)
    (.invalidProposal s!"Task {task} does not own role reservation {resource}")
  refuse (r.scope == .context) (.invalidProposal
    "Context-scoped role bindings must end with their Context before recovery release")

def releaseTaskRoleBinding (task : TaskRef) (role : RoleId) :
    ControlM Unit := do
  let k ← get
  let group ← check (lookupGroup k.control id)
  check (refuse (group.lifecycle != .blocked) (.invalidLifecycle group.lifecycle))
  let execution ← check (okOr (group.taskExecution task)
    (.invalidProposal "Task execution is not registered"))
  let assignment ← check (okOr (execution.assignments.find? fun a => a.roleId == role)
    (.invalidProposal s!"Task has no role {role}"))
  let index := execution.assignments.findIdx fun a => a.roleId == role
  check (assignment.resourceIds.forM (validateTaskRoleRelease k.control id task role))
  -- every resource passed the scope check, so the source's second scope test never skips one
  modifyControl fun c =>
    (c.releaseResources assignment.resourceIds).releaseCapacityTask id task (some role)
  storeGroup id { group.setTask task
      (execution.withAssignments (execution.assignments.eraseIdx index)) with
    taskUnboundRoles := group.taskUnboundRoles.insert (toLex (task, role))
      ⟨assignment.nodeId, index⟩ }
  emit (.executionGroupRoleBindingReleased id task role assignment.nodeId assignment.resourceIds)

/-! ### Releasing a finished Task -/

/-- A Task in one of these states may give its resources back. -/
def finishedTask : TaskExecutionLifecycle → Bool
  | .completed | .failed | .satisfactionRejected | .cancelled => true
  | .pending | .ready | .active | .blocked | .awaitingSatisfaction => false

/-- Resources without duplicates, in order (`sort` then `dedup`). -/
def sortedUnique (resources : List ResourceId) : List ResourceId := (OrdSet.ofList resources).keys

@[simp] lemma mem_sortedUnique {r : ResourceId} {resources : List ResourceId} :
    r ∈ sortedUnique resources ↔ r ∈ resources := by
  rw [sortedUnique, mem_keys_iff, ← contains_eq_true_iff, OrdSet.contains_ofList]

def scopedAssignments (t : TaskExecution) (scope : ResourceBindingScope) :
    List RoleAssignment :=
  t.assignments.filter fun a => t.roleScope a.roleId == scope

def taskScopedResources (t : TaskExecution) : List ResourceId :=
  sortedUnique ((scopedAssignments t .task).flatMap (·.resourceIds))

/-- A quantitative allocation of this resource in the Group whose owner satisfies `p`. -/
def ownsAllocation (p : AllocationOwner → Bool)
    (resource : ResourceId) : Bool :=
  c.capacityLedger.allocations.values.any fun r =>
    r.original.resourceId == resource && r.original.groupId == id && p r.original.owner

/-- The checks of `release_task_bindings`; returns the Group, the Task and its resources. -/
def validateTaskRelease (task : TaskRef)
    (resourceIds : List ResourceId) : Except ControlError (ExecutionGroup × TaskExecution) := do
  let group ← lookupGroup c id
  let execution ← lookupTask group task
  refuse (!finishedTask execution.lifecycle)
    (.invalidProposal "Task bindings can only be released after terminal completion")
  refuse (sortedUnique resourceIds != taskScopedResources execution)
    (.invalidProposal "released resources must exactly match Task-scoped bindings")
  (taskScopedResources execution).forM fun resource =>
    if ownsAllocation c id (· == .task task) resource then .ok ()
    else do
      let r ← okOr (c.reservations.get? resource)
        (.invalidProposal s!"Task resource {resource} has no reservation")
      refuse (r.groupId != some id || r.taskRef != task || r.scope != .task)
        (.invalidProposal s!"Task does not own resource {resource}")
  pure (group, execution)

/-- Context-scoped assignments stay visible on the Task. -/
def releaseTaskBindings (task : TaskRef) (resourceIds : List ResourceId) :
    ControlM Unit := do
  let k ← get
  let (group, execution) ← check (validateTaskRelease k.control id task resourceIds)
  modifyControl fun c =>
    (c.releaseResources (taskScopedResources execution)).releaseCapacityTask id task none
  storeGroup id (group.setTask task
    (execution.withAssignments (scopedAssignments execution .context)))
  emit (.taskExecutionBindingsReleased id task (taskScopedResources execution))

/-! ### Releasing a Context -/

def contextResources (g : ExecutionGroup) (context : CoordinationContextId) : List ResourceId :=
  sortedUnique ((g.contextBindings.values.filter fun b => b.contextId == context).flatMap
    (·.assignment.resourceIds))

/-- The checks of `release_context_bindings`. -/
def validateContextRelease
    (context : CoordinationContextId) : Except ControlError ExecutionGroup := do
  let group ← lookupGroup c id
  (contextResources group context).forM fun resource =>
    if ownsAllocation c id (fun owner => match owner with
        | .context _ owner _ => owner == context
        | .task _ => false) resource then .ok ()
    else do
      let r ← okOr (c.reservations.get? resource)
        (.invalidProposal s!"Context resource {resource} has no reservation")
      refuse (r.groupId != some id || r.scope != .context)
        (.invalidProposal s!"Context does not own resource {resource}")
  pure group

def withoutContextResources (context : CoordinationContextId) (resources : List ResourceId)
    (t : TaskExecution) : TaskExecution :=
  if t.contextId = context then
    t.withAssignments (t.assignments.map fun a =>
      { a with resourceIds := a.resourceIds.filter fun r =>
          t.roleScope a.roleId != .context || !resources.contains r })
  else t

def releaseContextBindings (context : CoordinationContextId) :
    ControlM (List ResourceId) := do
  let k ← get
  let group ← check (validateContextRelease k.control id context)
  let resources := contextResources group context
  modifyControl fun c => (c.releaseResources resources).releaseCapacityContext id context
  storeGroup id { group with
    contextBindings := group.contextBindings.retain fun _ b => b.contextId != context
    taskExecutions := group.taskExecutions.mapValues fun _ =>
      withoutContextResources context resources }
  emit (.contextBindingsReleased id context resources)
  pure resources

/-! ### Releasing a Group -/

/-- Add resources to the expected ownership; a pool is owned through the ledger instead. -/
def expectResources (message : ResourceId → String)
    (expected : OrdMap ResourceId RoleId) (entries : List (ResourceId × RoleId)) :
    Except ControlError (OrdMap ResourceId RoleId) :=
  entries.foldlM (fun expected e =>
    if (c.capacityConflict e.1).isSome then .ok expected
    else do
      refuse (expected.contains e.1) (.invalidProposal (message e.1))
      pure (expected.insert e.1 e.2)) expected

def holdings (a : RoleAssignment) : List (ResourceId × RoleId) :=
  a.resourceIds.map fun r => (r, a.roleId)

/-- The resources a Group's assignments hold, by the place they are recorded in. -/
def taskHoldings (g : ExecutionGroup) : List (ResourceId × RoleId) :=
  g.taskExecutions.values.flatMap fun t =>
    (scopedAssignments t .task).flatMap holdings

def contextHoldings (g : ExecutionGroup) : List (ResourceId × RoleId) :=
  g.contextBindings.values.flatMap fun b => holdings b.assignment

def pendingOf :
    List (RecoveryKey × CommittedRecoveryAssignment) :=
  c.pendingRecoveryCommitments.entries.filter fun e => (ofLex e.1).1 == id

/-- One pending commitment of `release_group`. -/
def expectPending (group : ExecutionGroup)
    (expected : OrdMap ResourceId RoleId) (e : RecoveryKey × CommittedRecoveryAssignment) :
    Except ControlError (OrdMap ResourceId RoleId) := do
  let committed := e.2
  let key := ofLex (ofLex e.1).2
  refuse (committed.groupId != id ||
      (committed.taskRef != group.taskRef && (group.taskExecution committed.taskRef).isNone) ||
      committed.taskRef != key.1 || committed.roleId != key.2)
    (.invalidProposal s!"group {id} has inconsistent pending recovery ownership")
  expectResources c (fun r => s!"group {id} has duplicate committed resource {r}") expected
    (committed.committedResourceIds.map fun r => (r, committed.roleId))

/-- The ownership `release_group` expects: single-Task assignments, Task assignments, Context
bindings and pending recoveries, in this order. -/
def expectedOwnership (group : ExecutionGroup) :
    Except ControlError (OrdMap ResourceId RoleId) := do
  let active (r : ResourceId) := s!"group {id} has duplicate active resource {r}"
  let expected ← expectResources c active ∅ (group.assignments.flatMap holdings)
  let expected ← expectResources c active expected (taskHoldings group)
  let expected ← expectResources c (fun r => s!"group {id} has duplicate context resource {r}")
    expected (contextHoldings group)
  (pendingOf c id).foldlM (expectPending c id group) expected

def ownedInGroup (group : ExecutionGroup) (r : Reservation) : Bool :=
  r.taskRef == group.taskRef || (group.taskExecution r.taskRef).isSome || isContextOwner r.owner

/-- The checks of `release_group`; returns the Group and the resources it gives back. -/
def validateGroupRelease :
    Except ControlError (ExecutionGroup × List ResourceId) := do
  let group ← lookupGroup c id
  refuse (group.lifecycle != .completed && group.lifecycle != .failed &&
      group.lifecycle != .superseded)
    (.invalidLifecycle group.lifecycle)
  let expected ← expectedOwnership c id group
  expected.entries.forM fun e => do
    let r ← okOr (c.reservations.get? e.1)
      (.invalidProposal s!"group {id} ownership {e.1} has no reservation")
    refuse (!ownedInGroup group r || r.roleId != e.2 || r.groupId != some id)
      (.invalidProposal s!"group {id} has mismatched reservation {e.1}")
  c.validateCapacityCheckpoint
  let held := c.reservations.entries.filter fun e => e.2.groupId == some id
  held.forM fun e =>
    refuse (!ownedInGroup group e.2 || expected.get? e.1 != some e.2.roleId)
      (.invalidProposal s!"group {id} has orphan reservation {e.1}")
  let pools := (c.capacityLedger.allocations.values.filter fun r => r.original.groupId == id).map
    (·.original.resourceId)
  pure (group, sortedUnique (held.map (·.1) ++ pools))

/-- The Group after release: no bindings, no Role waiting for recovery. -/
def ExecutionGroup.cleared (g : ExecutionGroup) : ExecutionGroup :=
  { g with
    assignments := []
    contextBindings := ∅
    unboundRoles := ∅
    taskUnboundRoles := ∅
    taskExecutions := g.taskExecutions.mapValues fun _ t => t.withAssignments []
    lifecycle := .released }

/-- Everything a Group holds is given back. -/
def ControlPlane.releaseGroupOwnership
    (resources : List ResourceId) : ControlPlane :=
  let c := (c.releaseCapacityGroup id).releaseResources resources
  { c with pendingRecoveryCommitments :=
      c.pendingRecoveryCommitments.retain fun key _ => (ofLex key).1 != id }

def releaseGroup : ControlM Unit := do
  let k ← get
  let (group, resources) ← check (validateGroupRelease k.control id)
  modifyControl (·.releaseGroupOwnership id resources)
  storeGroup id group.cleared
  emit (.executionGroupReleased id group.taskRef resources)

end RoboGuide.Control
