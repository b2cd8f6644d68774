import RoboGuide.Control.Topology
import RoboGuide.Lib.Sweep

/-!
# `RoboGuide.Control.Calendar`: future reservations

`core/control/src/{calendar,capacity_calendar}.rs` and `scheduler/capacity.rs`: the
occupancy a Scheduler plans against, admission of a joint decision, and the operations
that remove or retire a future reservation. A decision is accepted only on the calendar
version it was computed from.
-/

namespace RoboGuide.Control

open Domain Lib
open Fallible (refuse okOr check checkAgainstEarlier)

variable (c : ControlPlane)

/-! ### Occupancy -/

/-- `context_axis`: the bookkeeping axis of a Context's own units. -/
abbrev OwnerAxis := ExecutionGroupId ×ₗ AllocationOwner

structure SchedulingOccupancy where
  resourceId : ResourceId
  startsAt : TimestampMs
  endsAt : Option TimestampMs
  units : Option Nat
  ownerAxis : Option OwnerAxis
deriving DecidableEq

namespace SchedulingOccupancy

def quantitative (resourceId : ResourceId) (startsAt : TimestampMs) (endsAt : Option TimestampMs)
    (units : Nat) (ownerAxis : Option OwnerAxis) : SchedulingOccupancy :=
  { resourceId, startsAt, endsAt, units := some units, ownerAxis }

def exclusive (resourceId : ResourceId) (startsAt : TimestampMs) (endsAt : Option TimestampMs) :
    SchedulingOccupancy :=
  { resourceId, startsAt, endsAt, units := none, ownerAxis := none }

/-- The interval and units of an occupancy; an exclusive one has no units. -/
def booking (o : SchedulingOccupancy) : Booking := ⟨o.startsAt, o.endsAt, o.units.getD 0⟩

def physical (o : SchedulingOccupancy) (resource : ResourceId) : Bool :=
  o.resourceId == resource && o.ownerAxis.isNone

def onAxis (o : SchedulingOccupancy) (resource : ResourceId) (axis : OwnerAxis) : Bool :=
  o.resourceId == resource && o.ownerAxis == some axis

end SchedulingOccupancy

def intervalAvailable (occupancies : List SchedulingOccupancy) (start : TimestampMs)
    (end_ : Option TimestampMs) (units capacity : Nat) : Bool :=
  (occupancies.all fun o => Sweep.outside start end_ o.booking || o.units.isSome) &&
    Sweep.fits (occupancies.map (·.booking)) start end_ units capacity

def sharedDemands (s : RoleSchedulingSelection) : List (ResourceId × ResourceRequirement) :=
  (s.resourceIds.zip s.resourceRequirements).filter fun e => e.2.allocationMode == .divisible

/-- A selection's exclusive resources: those without a recorded divisible demand. -/
def exclusiveResources (s : RoleSchedulingSelection) : List ResourceId :=
  (s.resourceIds.zipIdx.filter fun e =>
    (s.resourceRequirements[e.2]?).all fun d => d.allocationMode == .exclusive).map (·.1)

namespace ControlPlane

def capacityPlanningEnd (task : TaskRef) (now : TimestampMs) :
    Option TimestampMs :=
  ((c.scheduledTask task).filter fun r => r.phase != .invalidated).bind fun r =>
    r.decision.endsAt.filter fun e => decide (now < e)

def allocationOccupancies (now : TimestampMs) (record : CapacityAllocation) :
    List SchedulingOccupancy :=
  let original := record.original
  if isContextOwner original.owner then
    .quantitative original.resourceId now none original.allocationUnits none ::
      record.borrowers.map fun b =>
        .quantitative original.resourceId now (c.capacityPlanningEnd b.taskRef now) b.units
          (some (toLex (original.groupId, original.owner)))
  else
    [.quantitative original.resourceId now (c.capacityPlanningEnd original.taskRef now)
      original.allocationUnits none]

structure FutureDemand where
  resourceId : ResourceId
  demand : ResourceRequirement
  groupId : ExecutionGroupId
  owner : AllocationOwner
  startsAt : TimestampMs
  endsAt : Option TimestampMs
deriving DecidableEq

/-- The divisible demands of a future reservation. A reservation was admitted against its
Group, so its owners resolve; the source panics otherwise. -/
def futureDemands (r : ScheduledTaskReservation) : List FutureDemand :=
  r.decision.selections.flatMap fun s => (sharedDemands s).filterMap fun (id, demand) =>
    (c.capacityOwner r.groupId r.decision.taskRef s.roleId).toOption.map fun owner =>
      ⟨id, demand, r.groupId, owner, r.decision.startsAt, r.decision.endsAt⟩

def liveFutures (exclude : Option TaskRef) : List ScheduledTaskReservation :=
  c.scheduledTasks.values.filter fun r =>
    r.phase == .scheduled && exclude != some r.decision.taskRef

def FutureDemand.occupancy (d : FutureDemand) : SchedulingOccupancy :=
  .quantitative d.resourceId d.startsAt d.endsAt d.demand.units
    (if isContextOwner d.owner then some (toLex (d.groupId, d.owner)) else none)

/-- The Contexts that hold an allocation of a resource. -/
def heldAxes (ledger : CapacityLedger) : List (ResourceId × OwnerAxis) :=
  (ledger.allocations.values.filter fun r => isContextOwner r.original.owner).map fun r =>
    (r.original.resourceId, toLex (r.original.groupId, r.original.owner))

/-- The allocation a future Context will need: from its earliest start, with its envelope. -/
def noteFutureParent (held : List (ResourceId × OwnerAxis))
    (parents : OrdMap (ResourceId ×ₗ OwnerAxis) (TimestampMs × Nat)) (d : FutureDemand) :
    OrdMap (ResourceId ×ₗ OwnerAxis) (TimestampMs × Nat) :=
  let axis := toLex (d.groupId, d.owner)
  if isContextOwner d.owner && !held.contains (d.resourceId, axis) then
    match c.contextCapacityUnits d.groupId d.owner d.demand.resourceClass with
    | none => parents
    | some units =>
      let key := toLex (d.resourceId, axis)
      match parents.get? key with
      | some (start, units) => parents.insert key (min start d.startsAt, units)
      | none => parents.insert key (d.startsAt, units)
  else parents

def quantitativeOccupancies (ledger : CapacityLedger) (now : TimestampMs)
    (exclude : Option TaskRef) : List SchedulingOccupancy :=
  let demands := (c.liveFutures exclude).flatMap c.futureDemands
  let parents := demands.foldl (c.noteFutureParent (heldAxes ledger)) ∅
  ledger.allocations.values.flatMap (c.allocationOccupancies now) ++
    demands.map FutureDemand.occupancy ++
    parents.entries.map fun (key, start, units) =>
      .quantitative (ofLex key).1 start none units none

/-- The occupancy of one exclusive reservation: until the planned end of the active Task. -/
def reservationOccupancy (now : TimestampMs)
    (entry : ResourceId × Reservation) : SchedulingOccupancy :=
  let planned := (c.scheduledTask entry.2.taskRef).filter fun r =>
    r.phase == .activated && r.currentAssignments.any fun a => a.resourceIds.contains entry.1
  let end_ := if entry.2.topology.isSome && entry.2.scope == .context then none
    else planned.bind (·.decision.endsAt)
  match planned, end_ with
  | some r, some e => if now < e then .exclusive entry.1 r.decision.startsAt (some e)
      else .exclusive entry.1 now none
  | _, _ => .exclusive entry.1 now none

/-- `scheduling_snapshot_excluding`, its occupancies. -/
def occupanciesExcluding (now : TimestampMs) (reusable : List ResourceId) :
    List SchedulingOccupancy :=
  ((c.reservations.entries.filter fun e => !reusable.contains e.1).map
      (c.reservationOccupancy now)) ++
    ((c.liveFutures none).flatMap fun r => r.decision.selections.flatMap fun s =>
      (exclusiveResources s).map fun id =>
        .exclusive id r.decision.startsAt r.decision.endsAt) ++
    c.quantitativeOccupancies c.capacityLedger now none

end ControlPlane

/-! ### Snapshots -/

structure SchedulingRoleConstraint where
  nodeId : NodeId
  resourceIds : List ResourceId
deriving DecidableEq

structure ContextCapacity where
  ownerAxis : OwnerAxis
  units : Nat
  parentStartsAt : Option TimestampMs
deriving DecidableEq

/-- Cost evidence is left out. -/
structure SchedulingSnapshot where
  resourceTopology : Option ResourceTopologyRegistry
  version : Nat
  occupancies : List SchedulingOccupancy
  contextCapacities : OrdMap RoleId ContextCapacity
  roleConstraints : OrdMap RoleId SchedulingRoleConstraint

namespace ControlPlane

/-- The earliest start of the Context's allocation: now if held, else that of the first
future reservation that will create it. -/
def parentStart (group : ExecutionGroupId) (task : TaskRef)
    (owner : AllocationOwner) (now : TimestampMs) : Option TimestampMs :=
  let held := c.capacityLedger.allocations.values.any fun r =>
    r.original.groupId == group && r.original.owner == owner
  let futures := (c.liveFutures (some task)).filter fun r => r.groupId == group &&
    r.decision.selections.any fun s =>
      (c.capacityOwner group r.decision.taskRef s.roleId).toOption == some owner
  ((if held then [now] else []) ++ futures.map (·.decision.startsAt)).min?

/-- The bindings other future reservations of the Context plan for this Role. -/
def plannedConstraints (group : ExecutionGroupId) (task : TaskRef)
    (owner : AllocationOwner) : List SchedulingRoleConstraint :=
  ((c.liveFutures (some task)).filter fun r => r.groupId == group).flatMap fun r =>
    (r.decision.selections.filter fun s =>
      (c.capacityOwner group r.decision.taskRef s.roleId).toOption == some owner).map fun s =>
        ⟨s.nodeId, s.resourceIds⟩

/-- One Role of `with_capacity_contexts`. -/
def addCapacityContext (group : ExecutionGroupId) (g : ExecutionGroup)
    (execution : TaskExecution) (task : TaskRef) (now : TimestampMs) (snapshot : SchedulingSnapshot)
    (roleId : RoleId) : Except ControlError SchedulingSnapshot := do
  let role ← okOr (g.roleRequirement task roleId)
    (.invalidProposal "current original scheduling Role is absent")
  if execution.roleScope role.roleId != .context then
    pure snapshot
  else
    match role.resources.find? fun d => d.allocationMode == .divisible with
    | none => pure snapshot
    | some demand =>
      let owner ← c.capacityOwner group task role.roleId
      let units ← okOr (c.contextCapacityUnits group owner demand.resourceClass)
        (.invalidProposal "original scheduling Context envelope is absent")
      let constraints ← (c.plannedConstraints group task owner).foldlM (fun constraints k => do
        refuse ((constraints.get? role.roleId).any fun old => old != k)
          (.invalidProposal "original Context has conflicting planned resource bindings")
        pure (constraints.insert role.roleId k)) snapshot.roleConstraints
      pure { snapshot with
        roleConstraints := constraints
        contextCapacities := snapshot.contextCapacities.insert role.roleId
          ⟨toLex (group, owner), units, c.parentStart group task owner now⟩ }

def schedulingSnapshotForTask (now : TimestampMs) (group : ExecutionGroupId)
    (task : TaskRef) : Except ControlError SchedulingSnapshot := do
  let g ← lookupGroup c group
  let execution ← okOr (g.taskExecution task)
    (.invalidProposal "Task is absent from the Mission Group")
  let bound := execution.contextRoles.entries.filterMap fun (role, contextRole) =>
    if execution.roleScope role != .context then none
    else (g.contextBinding execution.contextId contextRole).map fun b => (role, b.assignment)
  let snapshot : SchedulingSnapshot :=
    { resourceTopology := c.resourceTopologyRegistry
      version := c.calendarVersion
      occupancies := c.occupanciesExcluding now (bound.flatMap fun b => b.2.resourceIds)
      contextCapacities := ∅
      roleConstraints := OrdMap.ofList (bound.map fun (role, a) =>
          (role, ⟨a.nodeId, a.resourceIds⟩)) }
  execution.roleScopes.keys.foldlM (c.addCapacityContext group g execution task now) snapshot

end ControlPlane

namespace SchedulingSnapshot

def addSelected (s : SchedulingSnapshot) (start : TimestampMs) (end_ : Option TimestampMs)
    (acc : List SchedulingOccupancy × List OwnerAxis) (selection : RoleSchedulingSelection) :
    List SchedulingOccupancy × List OwnerAxis :=
  let excl := (exclusiveResources selection).map fun id => .exclusive id start end_
  let acc := (acc.1 ++ excl, acc.2)
  (sharedDemands selection).foldl (fun acc (id, demand) =>
    match s.contextCapacities.get? selection.roleId with
    | some context =>
      let onAxis := SchedulingOccupancy.quantitative id start end_ demand.units
        (some context.ownerAxis)
      if (context.parentStartsAt.all fun p => decide (start < p)) &&
          !acc.2.contains context.ownerAxis then
        (acc.1 ++ [onAxis, .quantitative id start context.parentStartsAt context.units none],
          acc.2 ++ [context.ownerAxis])
      else (acc.1 ++ [onAxis], acc.2)
    | none => (acc.1 ++ [.quantitative id start end_ demand.units none], acc.2)) acc

def selectedOccupancies (s : SchedulingSnapshot) (selected : List RoleSchedulingSelection)
    (start : TimestampMs) (end_ : Option TimestampMs) : List SchedulingOccupancy :=
  (selected.foldl (s.addSelected start end_) (s.occupancies, [])).1

/-- The topology part of `capacity_available`. -/
def topologyAvailable (s : SchedulingSnapshot) (resource : Resource) (start : TimestampMs)
    (end_ : Option TimestampMs) (occupancies : List SchedulingOccupancy) : Bool :=
  match s.resourceTopology with
  | none => true
  | some registry =>
    match registry.entry resource.id with
    | none => resource.kind == .compute
    | some entry => entry.permitsInterval start end_ &&
      !occupancies.any fun o => o.resourceId != resource.id &&
        overlaps start end_ o.startsAt o.endsAt &&
        (registry.entry o.resourceId).any fun other => entry.conflicts other

def capacityAvailable (s : SchedulingSnapshot) (role : RoleId) (resource : Resource)
    (demand : ResourceRequirement) (start : TimestampMs) (end_ : Option TimestampMs)
    (selected : List RoleSchedulingSelection) : Bool :=
  let occupancies := s.selectedOccupancies selected start end_
  let physical := occupancies.filter (·.physical resource.id)
  s.topologyAvailable resource start end_ occupancies &&
    if demand.allocationMode = .exclusive then
      intervalAvailable physical start end_ resource.capacity resource.capacity
    else
      match s.contextCapacities.get? role with
      | some context =>
        let parentSelected := selected.any fun other =>
          (s.contextCapacities.get? other.roleId).any fun o => o.ownerAxis == context.ownerAxis
        let needsParent := !parentSelected &&
          context.parentStartsAt.all fun p => decide (start < p)
        (if needsParent then
          intervalAvailable physical start context.parentStartsAt context.units resource.capacity
        else intervalAvailable physical start none 0 resource.capacity) &&
        intervalAvailable (occupancies.filter (·.onAxis resource.id context.ownerAxis)) start end_
          demand.units context.units
      | none => intervalAvailable physical start end_ demand.units resource.capacity

end SchedulingSnapshot

/-! ### Admission of a decision -/

/-- Candidates of a Task's Roles (`CandidateSet`). -/
structure CandidateSet where
  taskRef : TaskRef
  roles : OrdMap RoleId (List NodeId)
  roleOperations : OrdMap RoleId OperationRef
  actors : OrdMap RoleId ActorId
  distinctActorGroups : List (List ActorId)
  physicalEntities : OrdMap NodeId PhysicalEntityId

def selectionMatches (g : ExecutionGroup) (task : TaskRef) (s : RoleSchedulingSelection) : Bool :=
  (g.roleRequirement task s.roleId).any fun role =>
    let shared := role.resources.any fun d => d.allocationMode == .divisible
    (if shared then
        s.resourceRequirements == role.resources &&
          s.resourceCapacities.length == role.resources.length &&
          (s.resourceCapacities.zip role.resources).all fun (cap, d) => decide (d.units ≤ cap)
      else s.resourceRequirements.isEmpty && s.resourceCapacities.isEmpty) &&
      s.resourceIds.length == role.resources.length &&
      s.resourceUnits.length == role.resources.length &&
      (s.resourceUnits.zip role.resources).all fun (u, d) => u == d.units

def selectedModes (g : ExecutionGroup) (d : TaskSchedulingDecision) :
    List (ResourceId × ResourceAllocationMode) :=
  d.selections.flatMap fun s => (g.roleRequirement d.taskRef s.roleId).elim [] fun role =>
    (s.resourceIds.zip role.resources).map fun (id, demand) => (id, demand.allocationMode)

def sharedOrDistinct : List (ResourceId × ResourceAllocationMode) → Bool
  | [] => true
  | (id, mode) :: rest => (rest.all fun e => e.1 != id ||
      (mode == .divisible && e.2 == .divisible)) && sharedOrDistinct rest

def validateDecisionAgainstGroup (g : ExecutionGroup) (d : TaskSchedulingDecision) :
    Except ControlError Unit := do
  let task ← okOr (g.taskExecution d.taskRef)
    (.invalidProposal "scheduling decision references a Task outside its Group")
  let roles := d.selections.map (·.roleId)
  refuse (OrdSet.ofList roles != OrdSet.ofList task.roleScopes.keys || !decide roles.Nodup ||
      !(d.selections.all (selectionMatches g d.taskRef)) || !sharedOrDistinct (selectedModes g d))
    (.invalidProposal "scheduling decision differs from authoritative Task requirements")

/-- One selection of `validate_capacity_decision`. -/
def ControlPlane.selectionAvailable (e : Evidence) (snapshot : SchedulingSnapshot)
    (g : ExecutionGroup) (d : TaskSchedulingDecision) (earlier : List RoleSchedulingSelection)
    (s : RoleSchedulingSelection) : Except ControlError Unit := do
  let node ← okOr (e.node s.nodeId) (.unknownNode s.nodeId)
  let role ← okOr (g.roleRequirement d.taskRef s.roleId)
    (.invalidProposal "validated scheduling Role")
  (s.resourceIds.zip role.resources).forM fun (id, demand) => do
    let resource ← okOr (node.resources.find? fun r => r.id == id)
      (.invalidProposal "scheduled resource is absent")
    refuse (!snapshot.capacityAvailable s.roleId resource demand d.startsAt d.endsAt earlier)
      (.assignmentUnavailable
        "joint resource demand conflicts with the original capacity calendar")

def selectionEligible (e : Evidence) (g : ExecutionGroup) (d : TaskSchedulingDecision)
    (s : RoleSchedulingSelection) : Except ControlError Unit := do
  let role ← okOr (g.roleRequirement d.taskRef s.roleId)
    (.invalidProposal "decision structure was validated above")
  refuse (!e.eligible s.nodeId role none) (.invalidProposal
    s!"scheduled node {s.nodeId} is no longer eligible for role {s.roleId}")
  let node ← okOr (e.node s.nodeId) (.unknownNode s.nodeId)
  refuse (!(s.resourceIds.zip role.resources).all fun (id, demand) =>
      node.resources.any fun r => servesDemand r id demand)
    (.invalidProposal
      s!"scheduled role {s.roleId} resources no longer satisfy node ownership or capacity")

/-- The checks of `reserve_scheduled_task`; returns the next calendar version. -/
def validateReservation (e : Evidence) (candidates : CandidateSet)
    (group : ExecutionGroupId) (d : TaskSchedulingDecision) : Except ControlError Nat := do
  refuse (d.snapshotVersion != c.calendarVersion)
    (.invalidProposal "Scheduler decision uses a stale Control calendar snapshot")
  refuse (c.scheduledTasks.contains d.taskRef)
    (.invalidProposal "Task already has a Control scheduling reservation")
  refuse (d.endsAt.all fun endsAt => decide (endsAt ≤ d.startsAt))
    (.invalidProposal "scheduling reservation requires a positive bounded interval")
  refuse (d.latestActivationAt.any fun latest => decide (latest < d.startsAt))
    (.invalidProposal "scheduling reservation starts after its activation deadline")
  refuse (decide (d.startsAt < e.now))
    (.invalidProposal "scheduling reservation starts before current Controller time")
  let g ← lookupGroup c group
  let task ← okOr (g.taskExecution d.taskRef)
    (.invalidProposal "scheduled Task is absent from its Group")
  refuse (g.missionId != d.taskRef.missionId || task.lifecycle != .ready) (.invalidProposal
    "only a Ready Task in the same Mission Group can reserve a scheduling interval")
  validateDecisionAgainstGroup g d
  refuse (candidates.taskRef != d.taskRef || d.selections.any fun s =>
      !(candidates.roles.get? s.roleId).any fun nodes => nodes.contains s.nodeId)
    (.invalidProposal "scheduling decision is outside its current Candidate Set")
  d.selections.forM (selectionEligible e g d)
  let next ← okOr (checkedSucc c.calendarVersion)
    (.allocationInvariant "Control calendar version overflow")
  let snapshot ← c.schedulingSnapshotForTask e.now group d.taskRef
  c.validateTopologyDecision d
  checkAgainstEarlier (ControlPlane.selectionAvailable e snapshot g d) [] d.selections
  pure next

def reserveScheduledTask (e : Evidence) (candidates : CandidateSet) (group : ExecutionGroupId)
    (d : TaskSchedulingDecision) : ControlM Unit := do
  let k ← get
  let next ← check (validateReservation k.control e candidates group d)
  modifyControl fun c =>
    { c with
      scheduledTasks := c.scheduledTasks.insert d.taskRef
        { topologyRecoveryAssignments := ∅, groupId := group, decision := d,
          phase := .scheduled, reason := "" }
      calendarVersion := next }

/-- The checks of `preempt_future_task`. -/
def validatePreemption (task : TaskRef) (expectedVersion : Nat)
    (now : TimestampMs) : Except ControlError (ScheduledTaskReservation × Nat) := do
  refuse (c.calendarVersion != expectedVersion)
    (.invalidProposal "future preemption uses a stale calendar generation")
  let r ← okOr (c.scheduledTask task)
    (.invalidProposal "future preemption has no scheduled target")
  let group ← lookupGroup c r.groupId
  let t ← okOr (group.taskExecution task)
    (.invalidProposal "future preemption lacks current Task authority")
  refuse (r.phase != .scheduled || !group.lifecycle.working ||
      decide (r.decision.startsAt ≤ now) || t.lifecycle != .ready || !t.assignments.isEmpty ||
      (c.reservations.values.any fun held => held.taskRef == task) ||
      (r.decision.selections.any fun s => s.resourceIds.any c.reservations.contains) ||
      c.pendingRecoveryCommitments.values.any fun p => p.taskRef == task)
    (.invalidProposal "preemption requires an unbound, uncommitted, strictly future Ready Task")
  let next ← okOr (checkedSucc c.calendarVersion)
    (.allocationInvariant "calendar generation exhausted")
  pure (r, next)

def preemptFutureTask (task : TaskRef) (expectedVersion : Nat) (now : TimestampMs) :
    ControlM ScheduledTaskReservation := do
  let k ← get
  let (r, next) ← check (validatePreemption k.control task expectedVersion now)
  modifyControl fun c =>
    { c with scheduledTasks := c.scheduledTasks.erase task, calendarVersion := next }
  pure r

namespace ControlPlane

def consumeScheduledTask (task : TaskRef) : ControlPlane :=
  if c.scheduledTasks.contains task then
    { c with
      scheduledTasks := c.scheduledTasks.erase task
      calendarVersion := saturatingSucc c.calendarVersion }
  else c

def invalidateScheduledTask (task : TaskRef) (reason : String) :
    ControlPlane :=
  match c.scheduledTasks.get? task with
  | some r =>
    if r.phase = .activated then c
    else
      { c with
        scheduledTasks := c.scheduledTasks.insert task { r with phase := .invalidated, reason }
        calendarVersion := saturatingSucc c.calendarVersion }
  | none => c

def cancelScheduledMission (mission : MissionId) : ControlPlane :=
  let kept := c.scheduledTasks.retain fun t _ => t.missionId != mission
  if kept.entries.length < c.scheduledTasks.entries.length then
    { c with scheduledTasks := kept, calendarVersion := saturatingSucc c.calendarVersion }
  else c

def scheduledResourceConflict (resource : ResourceId) (task : TaskRef) :
    Option (TaskRef × RoleId) :=
  (c.liveFutures (some task)).findSome? fun r =>
    (r.decision.selections.find? fun s => s.resourceIds.contains resource).map fun s =>
      (r.decision.taskRef, s.roleId)

def changedPools (e : Evidence) (ledger : CapacityLedger) :
    Except ControlError (OrdMap ResourceId Nat) :=
  (ledger.allocations.entries.filter fun (id, r) =>
      c.capacityLedger.allocations.get? id != some r).foldlM (fun pools (_, r) => do
    let resource ← okOr ((e.node r.original.nodeId).bind fun node =>
        node.resources.find? fun x => x.id == r.original.resourceId)
      (.assignmentUnavailable "original allocated pool is unavailable")
    pure (pools.insert r.original.resourceId resource.capacity)) ∅

/-- A commitment must not break a future promise. -/
def validateCapacityCalendar (e : Evidence) (ledger : CapacityLedger)
    (task : TaskRef) : Except ControlError Unit := do
  let occupancies := c.quantitativeOccupancies ledger e.now (some task)
  let pools ← c.changedPools e ledger
  pools.entries.forM fun (id, capacity) =>
    refuse (!intervalAvailable (occupancies.filter (·.physical id)) e.now none 0 capacity)
      (.assignmentUnavailable "quantitative Commit conflicts with original future capacity")

end ControlPlane

end RoboGuide.Control
