import RoboGuide.Control.Topology
import RoboGuide.State.Nodes

/-!
# `RoboGuide.Control.Registration`: what a node registration may declare

The resource checks of `core/control/src/node.rs`: a declared resource belongs to no other
registered node, and commitments that are still held stay declared.
-/

namespace RoboGuide.Control

open Domain Lib State
open Fallible (refuse okOr check)

/-- `owns_resource`, of any kind. -/
def NodeRegistration.ownsResource (r : NodeRegistration) (id : ResourceId) : Bool :=
  r.resources.any fun resource => resource.id == id

def ensureResourceIdentitiesAvailable (state : SharedNodeState) (node : NodeId)
    (registration : NodeRegistration) : Except ControlError Unit :=
  state.entries.forM fun (owner, snapshot) =>
    if owner = node then .ok ()
    else registration.resources.forM fun resource =>
      let id := resource.id
      refuse (snapshot.registration.ownsResource id) (.invalidProposal
        s!"resource identity {id} is already advertised by node {owner}, not node {node}")

/-- A declared resource serves the units committed from its pool. -/
def coversShared (c : ControlPlane) (node : NodeId) (resource : Resource) : Bool :=
  resource.allocationMode == .divisible && resource.kind == .compute &&
    decide (c.capacityLedger.committedUnits resource.id ≤ resource.capacity) &&
    !c.capacityLedger.allocations.values.any fun record =>
      record.original.resourceId == resource.id &&
        (record.original.nodeId != node ||
          some record.original.resourceClass != resource.resourceClass)

/-- One declared resource against the commitments. -/
def ensureResourceCovers (c : ControlPlane) (node : NodeId) (registration : NodeRegistration)
    (resource : Resource) : Except ControlError Unit := do
  refuse (decide (0 < c.capacityLedger.committedUnits resource.id) &&
      !coversShared c node resource)
    (.invalidProposal
      "registration cannot replace or understate original quantitative ownership")
  refuse (resource.allocationMode == .divisible && (!registration.quantitative ||
      resource.kind != .compute || resource.resourceClass.isNone))
    (.invalidProposal
      "quantitative resources require explicit Node Contract v0.13 and unit class")
  let id := resource.id
  refuse (c.reservations.contains id && c.quotaLedger.claims.values.any fun claim =>
      claim.resourceId == some id &&
        (claim.kind != resource.kind || decide (resource.capacity < claim.units)))
    (.invalidProposal s!"resource {id} cannot cover its original committed demand")

def ensureDeclaredCapacityCoversCommitments (c : ControlPlane) (node : NodeId)
    (registration : NodeRegistration) : Except ControlError Unit := do
  c.resourceTopologyRegistry.toList.forM fun registry =>
    c.validateTopologyRegistration registry node registration
  (c.capacityLedger.allocations.values.filter fun record => record.original.nodeId == node).forM
    fun record => refuse (!registration.ownsResource record.original.resourceId)
      (.invalidProposal "registration removed an original quantitatively allocated resource")
  registration.resources.forM (ensureResourceCovers c node registration)

/-- The units a replacement of a committed resource must offer. -/
def requiredUnits (c : ControlPlane) (resource : Resource) : Nat :=
  let shared := c.capacityLedger.committedUnits resource.id
  if 0 < shared then shared
  else ((c.quotaLedger.claims.values.find? fun claim =>
      claim.resourceId == some resource.id).map (·.units)).getD resource.capacity

def ensureCommittedResourcesRemainDeclared (c : ControlPlane)
    (current replacement : NodeRegistration) : Except ControlError Unit :=
  current.resources.forM fun resource =>
    let id := resource.id
    refuse ((c.reservations.contains id ||
        decide (0 < c.capacityLedger.committedUnits id)) &&
        !replacement.resources.any fun next =>
          next.id == id && next.kind == resource.kind &&
            next.allocationMode == resource.allocationMode &&
            next.resourceClass == resource.resourceClass &&
            decide (requiredUnits c resource ≤ next.capacity))
      (.invalidProposal s!"registration update changes committed resource {id}")

end RoboGuide.Control
