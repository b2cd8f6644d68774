import RoboGuide.Domain.Identity
import RoboGuide.Lib.OrdMap

/-!
# `RoboGuide.Domain.Resource`: resources, demands and deployment geometry

`core/domain/src/resource.rs` and `core/domain/src/resource_topology.rs`. Unit counts are
`u32` in the source and are only ever added up in `u64` or `i128`, so they are plain
numbers here. The constructors refuse a zero demand or a zero capacity; that is a field of
the two structures.
-/

namespace RoboGuide.Domain

inductive ResourceKind where
  | space | compute | time
deriving DecidableEq, Repr

/-- The place of a category in the derived order. -/
def ResourceKind.rank : ResourceKind → Nat
  | .space => 0
  | .compute => 1
  | .time => 2

inductive ResourceAllocationMode where
  | exclusive | divisible
deriving DecidableEq, Repr

/-- One quantitative demand of a Role. -/
structure ResourceRequirement where
  kind : ResourceKind
  units : Nat
  allocationMode : ResourceAllocationMode
  resourceClass : Option String
  /-- `new` refuses zero units. -/
  units_pos : 0 < units
deriving DecidableEq

structure Resource where
  id : ResourceId
  kind : ResourceKind
  capacity : Nat
  allocationMode : ResourceAllocationMode
  resourceClass : Option String
  /-- `new` refuses zero capacity. -/
  capacity_pos : 0 < capacity
deriving DecidableEq

structure ResourceTimeWindow where
  startsAt : TimestampMs
  endsAt : TimestampMs
deriving DecidableEq

structure PointMm where
  x : Int
  y : Int
  z : Int
deriving DecidableEq

/-- The coordinates by axis. -/
def PointMm.axes (p : PointMm) : List Int := [p.x, p.y, p.z]

/-- Occupied volume of a space resource, as an axis-aligned box with a clearance. -/
structure ResourceSpaceFootprint where
  conflictDomain : String
  frame : String
  anchorRevision : String
  lowerMm : PointMm
  upperMm : PointMm
  clearanceMm : Nat
deriving DecidableEq

/-- Bounds of `i64`. -/
def i64Min : Int := -2 ^ 63
def i64Max : Int := 2 ^ 63 - 1

namespace ResourceSpaceFootprint

/-- Bounds of one axis: nonempty, and the clearance stays inside `i64`. -/
def axisValid (clearance lower upper : Int) : Bool :=
  decide (lower < upper) && decide (i64Min ≤ lower - clearance) &&
    decide (upper + clearance ≤ i64Max)

/-- `validate`: bounded reference texts, positive extent, representable clearance. -/
def valid (f : ResourceSpaceFootprint) : Bool :=
  [f.conflictDomain, f.frame, f.anchorRevision].all
      (fun value => !isBlank value && decide (value.utf8ByteSize ≤ 256)) &&
    (f.lowerMm.axes.zip f.upperMm.axes).all fun b => axisValid f.clearanceMm b.1 b.2

/-- Two footprints exclude each other. Different conflict domains never do; an invalid
footprint or an incomparable frame always does. -/
def conflicts (f g : ResourceSpaceFootprint) : Bool :=
  if f.conflictDomain ≠ g.conflictDomain then false
  else if !f.valid || !g.valid || f.frame ≠ g.frame || f.anchorRevision ≠ g.anchorRevision then
    true
  else
    ((f.lowerMm.axes.zip f.upperMm.axes).zip (g.lowerMm.axes.zip g.upperMm.axes)).all fun b =>
      decide (b.1.1 - f.clearanceMm ≤ b.2.2 + g.clearanceMm) &&
        decide (b.2.1 - g.clearanceMm ≤ b.1.2 + f.clearanceMm)

end ResourceSpaceFootprint

structure ResourceTopologyEntry where
  resourceId : ResourceId
  nodeId : NodeId
  kind : ResourceKind
  space : Option ResourceSpaceFootprint
  timeDomain : Option String
  windows : List ResourceTimeWindow
deriving DecidableEq

namespace ResourceTopologyEntry

/-- Windows are nonempty, ascending and separated; `previous` is the last end seen. -/
def windowsCanonical : Option TimestampMs → List ResourceTimeWindow → Bool
  | _, [] => true
  | previous, w :: rest =>
    decide (w.startsAt < w.endsAt) && previous.all (fun e => decide (e < w.startsAt)) &&
      windowsCanonical (some w.endsAt) rest

/-- The shape that the kind asks for. -/
def shapeValid (e : ResourceTopologyEntry) : Bool :=
  decide (e.windows.length ≤ 128) &&
    match e.kind with
    | .compute => false
    | .space => e.space.isSome && e.timeDomain.isNone
    | .time => e.space.isNone && !e.windows.isEmpty &&
        e.timeDomain.any (fun d => !isBlank d && decide (d.utf8ByteSize ≤ 256))

/-- `validate`: shape by kind, a valid footprint and canonical windows. -/
def valid (e : ResourceTopologyEntry) : Bool :=
  e.shapeValid && e.space.all (·.valid) && windowsCanonical none e.windows

/-- The text with which `validate` refuses an entry that is not valid. -/
def refusal (e : ResourceTopologyEntry) : String :=
  if !e.shapeValid then "resource topology kind, footprint or calendar is invalid"
  else if !e.space.all (·.valid) then
    "resource footprint reference, bounds or clearance is invalid"
  else "resource windows overlap or lack canonical positive bounds"

/-- The identity comes after that of the entry before. -/
def follows (e : ResourceTopologyEntry) (earlier : List ResourceTopologyEntry) : Bool :=
  earlier.getLast?.all fun old => decide (old.resourceId < e.resourceId)

/-- The frame and anchor are those of the conflict domain's earlier entries. -/
def framed (e : ResourceTopologyEntry) (earlier : List ResourceTopologyEntry) : Bool :=
  e.space.all fun s => earlier.all fun old => old.space.all fun o =>
    o.conflictDomain != s.conflictDomain ||
      (o.frame == s.frame && o.anchorRevision == s.anchorRevision)

/-- Whether the calendar allows `[start, end)`; an open end needs an unrestricted entry. -/
def permitsInterval (e : ResourceTopologyEntry) (start : TimestampMs)
    (stop : Option TimestampMs) : Bool :=
  e.valid && stop.all (fun s => decide (start < s)) &&
    (e.windows.isEmpty ||
      stop.any fun s => e.windows.any fun w => decide (w.startsAt ≤ start) && decide (s ≤ w.endsAt))

/-- Two entries exclude each other: the same resource, time domain or space. -/
def conflicts (e f : ResourceTopologyEntry) : Bool :=
  e.resourceId == f.resourceId ||
    (match e.timeDomain, f.timeDomain with
      | some a, some b => a == b
      | _, _ => false) ||
    (match e.space, f.space with
      | some a, some b => a.conflicts b
      | _, _ => false)

end ResourceTopologyEntry

structure ResourceTopologyRegistry where
  registryId : String
  revision : Nat
  stopTimeoutMs : Nat
  bookingDurationMs : Nat
  bookingMaxAgeMs : Nat
  resources : List ResourceTopologyEntry
deriving DecidableEq

/-- Entries are valid, in strict order of identity, and agree on the frame and anchor of each
conflict domain; `earlier` are the entries before. -/
def topologyEntriesValid (earlier : List ResourceTopologyEntry) :
    List ResourceTopologyEntry → Bool
  | [] => true
  | e :: rest =>
    e.valid && e.follows earlier && e.framed earlier && topologyEntriesValid (earlier ++ [e]) rest

/-- The text of the first of these checks that fails. -/
def topologyEntriesRefusal (earlier : List ResourceTopologyEntry) :
    List ResourceTopologyEntry → String
  | [] => ""
  | e :: rest =>
    if !e.valid then e.refusal
    else if !e.follows earlier then
      "resource topology identities are duplicated or not canonical"
    else if !e.framed earlier then "one spatial conflict domain cannot hide incompatible frames"
    else topologyEntriesRefusal (earlier ++ [e]) rest

namespace ResourceTopologyRegistry

/-- The schema and clock constants are left out. -/
def boundsValid (r : ResourceTopologyRegistry) : Bool :=
  !isBlank r.registryId && decide (r.registryId.utf8ByteSize ≤ 128) && r.revision != 0 &&
    r.stopTimeoutMs != 0 && decide (r.stopTimeoutMs ≤ 3600000) &&
    r.bookingDurationMs != 0 && decide (r.bookingDurationMs ≤ 3600000) &&
    decide (r.bookingDurationMs ≤ r.bookingMaxAgeMs) &&
    decide (r.bookingMaxAgeMs ≤ 604800000) && decide (r.resources.length ≤ 4096)

/-- `validate`. -/
def valid (r : ResourceTopologyRegistry) : Bool :=
  r.boundsValid && topologyEntriesValid [] r.resources

/-- The text with which `validate` refuses a registry that is not valid. -/
def refusal (r : ResourceTopologyRegistry) : String :=
  if !r.boundsValid then "resource topology schema, clock, identity or bounds are invalid"
  else topologyEntriesRefusal [] r.resources

def entry (r : ResourceTopologyRegistry) (id : ResourceId) :
    Option ResourceTopologyEntry :=
  r.resources.find? fun e => e.resourceId == id

end ResourceTopologyRegistry

/-- What a reservation remembers of the registry it was admitted under. -/
structure ResourceTopologyReservation where
  revision : Nat
  entry : ResourceTopologyEntry
  admittedAt : TimestampMs
  plannedEnd : Option TimestampMs
deriving DecidableEq

end RoboGuide.Domain
