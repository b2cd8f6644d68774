import RoboGuide.Control.Configuration
import RoboGuide.Lib.Succession

/-!
# `RoboGuide.Control.TopologyCheckpoint`: the topology part of a restored plane

`validate_resource_topology_checkpoint` (`core/control/src/resource_topology.rs`): the
history of registries is gapless and ends with the installed one, every held resource still
has the declaration it was admitted under, and neither held resources nor scheduled
decisions exclude one another.
-/

namespace RoboGuide.Control

open Domain Lib
open Fallible (refuse okOr checkAgainstEarlier)

def followsRegistry (previous : Option ResourceTopologyRegistry) (revision : Nat)
    (registry : ResourceTopologyRegistry) : Bool :=
  match previous with
  | none => registry.revision == 1
  | some old => old.registryId == registry.registryId && checkedSucc old.revision == some revision

def validateTopologyRevision (previous : Option ResourceTopologyRegistry) (revision : Nat)
    (registry : ResourceTopologyRegistry) : Except ControlError Unit := do
  refuse (!registry.valid) (.invalidProposal registry.refusal)
  refuse (revision != registry.revision || !followsRegistry previous revision registry)
    (.invalidProposal "resource topology original history is discontinuous")

namespace ControlPlane

variable (c : ControlPlane)

def topologyEntry (id : ResourceId) : Option ResourceTopologyEntry :=
  c.resourceTopologyRegistry.bind (·.entry id)

def declaredEntries (assignments : List RoleAssignment) :
    List (RoleAssignment × ResourceId × ResourceTopologyEntry) :=
  match c.resourceTopologyRegistry with
  | none => []
  | some registry => topologyEntries registry assignments

/-- A held resource has the declaration it was admitted under, or never had one. -/
def heldTopologyValid (id : ResourceId) (held : Reservation) : Bool :=
  match held.topology, c.topologyEntry id with
  | none, none => true
  | some original, some current =>
    original.entry == current && original.entry.resourceId == id &&
      (c.resourceTopologyHistory.get? original.revision).bind (·.entry id) == some current &&
      original.entry.permitsInterval original.admittedAt original.plannedEnd
  | _, _ => false

/-- Replacements are recorded for an activated Task with a registry installed, in place of a
selection of as many resources. -/
def recoveryProjectionValid (record : ScheduledTaskReservation) : Bool :=
  record.topologyRecoveryAssignments.entries.isEmpty ||
    (c.resourceTopologyRegistry.isSome && record.phase == .activated &&
      record.topologyRecoveryAssignments.entries.all fun (role, replacement) =>
        replacement.roleId == role &&
          (record.decision.selections.find? fun s => s.roleId == role).any fun original =>
            original.resourceIds.length == replacement.resourceIds.length)

/-- The declared resources of one scheduled decision, each against those before it. -/
def validateScheduledTopology (record : ScheduledTaskReservation) : Except ControlError Unit :=
  checkAgainstEarlier (fun earlier (a, _, entry) => do
    refuse (entry.nodeId != a.nodeId ||
        !entry.permitsInterval record.decision.startsAt record.decision.endsAt)
      (.invalidProposal "future topology original interval/owner changed")
    refuse (earlier.any fun (_, _, other) => entry.conflicts other)
      (.invalidProposal "future joint spatial choices conflict"))
    [] (c.declaredEntries record.decision.proposedAssignments)

/-- Two scheduled decisions overlap in time and select resources that exclude each other. -/
def scheduledIntersect (first later : ScheduledTaskReservation) : Bool :=
  overlaps first.decision.startsAt first.decision.endsAt later.decision.startsAt
      later.decision.endsAt &&
    (c.declaredEntries first.decision.proposedAssignments).any fun left =>
      (c.declaredEntries later.decision.proposedAssignments).any fun right =>
        left.2.2.conflicts right.2.2

def scheduledIn (phase : SchedulingReservationPhase) : List ScheduledTaskReservation :=
  c.scheduledTasks.values.filter fun record => record.phase == phase

def validateResourceTopologyCheckpoint : Except ControlError Unit := do
  refuse (decide (1024 < c.resourceTopologyHistory.entries.length))
    (.invalidProposal "resource topology history exceeds bound")
  let last ← checkSuccession validateTopologyRevision none c.resourceTopologyHistory.entries
  refuse (last != c.resourceTopologyRegistry)
    (.invalidProposal "resource topology current generation lacks original history")
  c.reservations.entries.forM fun (id, held) =>
    refuse (!c.heldTopologyValid id held)
      (.invalidProposal "held resource lost original topology or complete interval")
  refuse (!decide ((c.reservations.values.filterMap (·.topology)).Pairwise
      fun left right => left.entry.conflicts right.entry = false))
    (.invalidProposal "active original spatial reservations conflict")
  c.scheduledTasks.values.forM fun record =>
    refuse (!c.recoveryProjectionValid record) (.invalidProposal
      "calendar recovery projection lacks original roles or active topology authority")
  (c.scheduledTasks.values.filter fun record => record.phase != .invalidated).forM fun record =>
    c.validateTopologyDecision record.decision
  (c.scheduledIn .scheduled).forM c.validateScheduledTopology
  refuse (!decide ((c.scheduledIn .scheduled).Pairwise
      fun first later => c.scheduledIntersect first later = false))
    (.invalidProposal "retained future spatial calendars intersect")

end ControlPlane

end RoboGuide.Control
