import RoboGuide.Control.Authority

/-!
# `RoboGuide.Control.Topology`: space and time declarations of resources

`core/control/src/resource_topology.rs`: with a topology registry installed, a selection
must respect the openings and the spatial conflicts of its resources, against held
reservations and against future ones.
-/

namespace RoboGuide.Control

open Domain Lib
open Fallible (refuse okOr checkAgainstEarlier)

/-- Two half-open intervals share an instant; no end means unbounded. -/
def overlaps (left : TimestampMs) (leftEnd : Option TimestampMs) (right : TimestampMs)
    (rightEnd : Option TimestampMs) : Bool :=
  (leftEnd.all fun e => decide (right < e)) && (rightEnd.all fun e => decide (left < e))

def bookingComponent (registry : ResourceTopologyRegistry) : String :=
  let id := registry.registryId
  let revision := registry.revision
  s!"resource-topology-booking/{id}/{revision}"

/-- The estimate of a decision that was frozen from a registry's booking budget, with the
source it names. -/
def TaskSchedulingDecision.bookingEstimate (d : TaskSchedulingDecision) :
    Option (TaskDurationEstimate × String) :=
  d.durationEstimate.bind fun estimate =>
    match estimate.source with
    | .roboGuide component =>
      if "resource-topology-booking/".toList.isPrefixOf component.toList
      then some (estimate, component) else none
    | .node _ _ => none

namespace ControlPlane

def plannedEnd (c : ControlPlane) (task : TaskRef) : Option TimestampMs :=
  (c.scheduledTask task).bind (·.decision.endsAt)

def registeredInTopology (registry : ResourceTopologyRegistry) (node : NodeId)
    (resource : Resource) : Except ControlError Unit :=
  if resource.kind = .compute then
    refuse (registry.entry resource.id).isSome
      (.invalidProposal "Compute resource cannot hide spatial/calendar interpretation")
  else
    refuse (!(registry.entry resource.id).any fun entry =>
        entry.nodeId == node && entry.kind == resource.kind)
      (.invalidProposal "Space/Time declaration lacks exact current deployment topology")

def validateTopologyRegistration (c : ControlPlane) (registry : ResourceTopologyRegistry)
    (node : NodeId) (registration : NodeRegistration) : Except ControlError Unit := do
  registration.resources.forM (registeredInTopology registry node)
  c.reservations.values.forM fun held =>
    refuse (held.topology.any fun t => t.entry.nodeId == node &&
        !registration.resources.any fun r =>
          r.id == t.entry.resourceId && r.kind == t.entry.kind)
      (.invalidProposal "registration removed an original spatial/calendar resource")

/-- The holder is the Context the Role belongs to. -/
def topologyOwnerReusable (c : ControlPlane) (held : Reservation) (task : TaskRef)
    (role : RoleId) : Bool :=
  held.groupId.any fun group =>
    isContextOwner held.owner && (c.capacityOwner group task role).toOption == some held.owner

/-- A Context's reservation may be used again while its own planned end allows. -/
def reusableUntil (c : ControlPlane) (held : Reservation) (task : TaskRef) (role : RoleId)
    (now : TimestampMs) (end_ : Option TimestampMs) : Bool :=
  c.topologyOwnerReusable held task role && held.topology.any fun original =>
    original.plannedEnd.all fun limit =>
      (end_.any fun e => decide (e ≤ limit)) && decide (now < limit)

/-- The checks of one declared resource against what is held and what is scheduled. -/
def checkTopologyEntry (c : ControlPlane) (registry : ResourceTopologyRegistry) (task : TaskRef)
    (a : RoleAssignment) (id : ResourceId) (entry : ResourceTopologyEntry) (now : TimestampMs)
    (end_ : Option TimestampMs) : Except ControlError Unit := do
  c.reservations.entries.forM fun (heldId, held) =>
    refuse ((held.topology.any fun t => entry.conflicts t.entry) &&
        !(id == heldId && c.reusableUntil held task a.roleId now end_))
      (.resourceConflict id held.taskRef held.roleId)
  c.scheduledTasks.values.forM fun future =>
    if future.phase == .scheduled && future.decision.taskRef != task &&
        overlaps now end_ future.decision.startsAt future.decision.endsAt then
      future.decision.selections.forM fun selection =>
        refuse (selection.resourceIds.any fun other =>
            (registry.entry other).any fun o => entry.conflicts o)
          (.resourceConflict id future.decision.taskRef selection.roleId)
    else .ok ()

def topologyEntries (registry : ResourceTopologyRegistry) (assignments : List RoleAssignment) :
    List (RoleAssignment × ResourceId × ResourceTopologyEntry) :=
  assignments.flatMap fun a => a.resourceIds.filterMap fun id =>
    (registry.entry id).map fun entry => (a, id, entry)

def validateTopologyAssignments (c : ControlPlane) (e : Evidence) (task : TaskRef)
    (assignments : List RoleAssignment) : Except ControlError Unit :=
  match c.resourceTopologyRegistry with
  | none => .ok ()
  | some registry =>
    let end_ := c.plannedEnd task
    checkAgainstEarlier (fun earlierAssignments a => do
      let node ← okOr (e.node a.nodeId) (.unknownNode a.nodeId)
      c.validateTopologyRegistration registry a.nodeId node
      checkAgainstEarlier (fun earlier (a, id, entry) => do
        refuse (entry.nodeId != a.nodeId || !entry.permitsInterval e.now end_)
          (.assignmentUnavailable
            "original resource owner or complete time opening is unavailable")
        refuse (earlier.any fun (_, _, previous) => entry.conflicts previous)
          (.assignmentUnavailable
            "joint Role batch has intersecting exclusive spatial declarations")
        c.checkTopologyEntry registry task a id entry e.now end_)
        (topologyEntries registry earlierAssignments) (topologyEntries registry [a]))
      [] assignments

/-- The budget and the age of a frozen estimate against the registry it names. -/
def validateBookingEstimate (policy : ResourceTopologyRegistry) (d : TaskSchedulingDecision)
    (estimate : TaskDurationEstimate) : Except ControlError Unit :=
  refuse (estimate.durationMs != policy.bookingDurationMs ||
      estimate.validForMs != policy.bookingMaxAgeMs ||
      decide (d.startsAt < estimate.receivedAt) ||
      d.endsAt.all fun endsAt => (checkedSub endsAt estimate.receivedAt).all fun age =>
        decide (policy.bookingMaxAgeMs < age))
    (.invalidProposal "booking changed original declared budget or Mission age")

/-- The registry whose booking budget applies to a decision: the one its estimate was
frozen from, else the installed one. -/
def bookingPolicy (c : ControlPlane) (current : ResourceTopologyRegistry)
    (d : TaskSchedulingDecision) : Except ControlError ResourceTopologyRegistry :=
  match d.bookingEstimate with
  | none => .ok current
  | some (estimate, component) => do
    let policy ← okOr
      (c.resourceTopologyHistory.values.find? fun registry =>
        component == bookingComponent registry)
      (.invalidProposal "booking lost original deployment source")
    validateBookingEstimate policy d estimate
    return policy

def topologyBookingRegistry (c : ControlPlane) (d : TaskSchedulingDecision) :
    Except ControlError ResourceTopologyRegistry := do
  let current ← okOr c.resourceTopologyRegistry
    (.invalidProposal "booking has no original topology policy")
  let policy ← c.bookingPolicy current d
  refuse (d.endsAt.any fun endsAt => (checkedSub endsAt d.startsAt).all fun duration =>
      decide (policy.bookingDurationMs < duration))
    (.invalidProposal "booking exceeds original deployment duration")
  return policy

def originalTopologyReservation (c : ControlPlane) (e : Evidence) (id : ResourceId)
    (task : TaskRef) (contextLifetime : Bool) : Option ResourceTopologyReservation := do
  let current ← c.resourceTopologyRegistry
  let registry := ((c.scheduledTask task).bind fun r =>
    (c.topologyBookingRegistry r.decision).toOption).getD current
  let entry ← registry.entry id
  let taskEnd := c.plannedEnd task
  let plannedEnd := if contextLifetime then
      (entry.windows.find? fun w => decide (w.startsAt ≤ e.now) &&
        taskEnd.any fun t => decide (t ≤ w.endsAt)).map (·.endsAt)
    else taskEnd
  some { revision := registry.revision, entry, admittedAt := e.now, plannedEnd }

/-- The declared resources of a decision are on its nodes, open in its interval and apart. -/
def selectionFits (d : TaskSchedulingDecision)
    (entries : List (RoleAssignment × ResourceId × ResourceTopologyEntry)) :
    Except ControlError Unit :=
  checkAgainstEarlier (fun earlier (a, _, entry) =>
    refuse (entry.nodeId != a.nodeId || !entry.permitsInterval d.startsAt d.endsAt ||
        earlier.any fun (_, _, other) => entry.conflicts other)
      (.assignmentUnavailable "complete future spatial/calendar selection conflicts"))
    [] entries

def validateTopologyDecision (c : ControlPlane) (d : TaskSchedulingDecision) :
    Except ControlError Unit :=
  match c.resourceTopologyRegistry with
  | none => .ok ()
  | some registry =>
    let entries := topologyEntries registry d.proposedAssignments
    if entries.isEmpty then .ok ()
    else do
      let _ ← c.topologyBookingRegistry d
      selectionFits d entries

def boundTopologyAllowed (c : ControlPlane) (task : TaskRef) (assignments : List RoleAssignment)
    (now : TimestampMs) : Bool :=
  match c.resourceTopologyRegistry with
  | none => true
  | some registry =>
    let entries := topologyEntries registry assignments
    let outside := (c.scheduledTask task).any fun r =>
      decide (now < r.decision.startsAt) || r.decision.endsAt.any fun e => decide (e ≤ now)
    if !entries.isEmpty && outside then false
    else entries.all fun (a, id, entry) =>
      entry.nodeId == a.nodeId && (c.reservations.get? id).any fun held =>
        ((held.taskRef == task && held.roleId == a.roleId) ||
            c.topologyOwnerReusable held task a.roleId) &&
          held.topology.any fun original =>
            original.entry == entry && decide (original.admittedAt ≤ now) &&
              (original.plannedEnd.all fun e => decide (now < e)) &&
              entry.permitsInterval now original.plannedEnd

end ControlPlane

end RoboGuide.Control
