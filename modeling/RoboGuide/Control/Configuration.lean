import RoboGuide.Control.Recovery

/-!
# `RoboGuide.Control.Configuration`: what a deployment tells Control

`register_mission_tenant` (`tenant.rs`), `install_physical_entity_registry` (`lib.rs` with
`registry_provenance.rs`), `accept_resource_topology_registry` (`resource_topology.rs`) and
`accept_resource_quota_registry` (`lib.rs`). None of them touches a Group.
-/

namespace RoboGuide.Control

open Domain Lib
open Fallible (refuse okOr check)

variable (c : ControlPlane)

def registerMissionTenant (mission : MissionId) (tenant : String) : ControlM Unit := do
  let k ← get
  check (refuse (isBlank tenant || decide (128 < tenant.utf8ByteSize))
    (.invalidProposal "Mission tenant is invalid"))
  check (refuse ((k.control.missionTenant mission).any fun previous => previous != tenant)
    (.invalidProposal "Mission tenant is immutable"))
  modifyControl fun c => { c with missionTenants := c.missionTenants.insert mission tenant }

/-- `validate_successor` of the registry provenance. -/
def RegistryProvenance.validateSuccessor (current candidate : RegistryProvenance) :
    Except ControlError Unit := do
  refuse (current.registryId != candidate.registryId)
    (.invalidProposal "physical entity registry identity changed")
  refuse (decide (candidate.highestRevision < current.highestRevision))
    (.invalidProposal "physical entity registry revision moved backwards")
  refuse (candidate.highestRevision == current.highestRevision &&
      candidate.content != current.content)
    (.invalidProposal "physical entity registry changed without a new revision")

/-- A bound physical executor is still where the binding says. -/
def bindingInRegistry (snapshot : PhysicalEntityRegistrySnapshot) (b : ActorBinding) : Bool :=
  b.physicalEntityId.all fun entity =>
    snapshot.entity entity == some b.nodeId && b.registryId == some snapshot.registryId &&
      b.registryRevision.any fun revision => decide (revision ≤ snapshot.revision)

/-- The checks of `install_physical_entity_registry`. -/
def validateRegistryInstall (snapshot : PhysicalEntityRegistrySnapshot) :
    Except ControlError Unit := do
  c.registryProvenance.toList.forM fun current =>
    current.validateSuccessor (.fromSnapshot snapshot)
  c.actorBindings.values.forM fun b =>
    refuse (!bindingInRegistry snapshot b)
      (.actorBindingRequiresReconciliation b.missionId b.actorId b.nodeId)

def ControlPlane.withRegistry (snapshot : PhysicalEntityRegistrySnapshot) :
    ControlPlane :=
  { c with
    registryProvenance := some (.fromSnapshot snapshot)
    physicalEntityRegistry := some snapshot }

def installPhysicalEntityRegistry (snapshot : PhysicalEntityRegistrySnapshot) :
    ControlM Unit := do
  let k ← get
  check (validateRegistryInstall k.control snapshot)
  modifyControl (·.withRegistry snapshot)

/-- `validate_binding` of the registry provenance. -/
def RegistryProvenance.validateBinding (p : RegistryProvenance) (b : ActorBinding) :
    Except ControlError Unit :=
  refuse (b.physicalEntityId.isSome && (b.registryId != some p.registryId ||
      !b.registryRevision.any fun revision => decide (revision ≤ p.highestRevision)))
    (.invalidProposal "checkpoint Actor binding exceeds registry anti-rollback provenance")

/-- What `restore` checks about the provenance in a checkpoint. -/
def validateProvenanceCheckpoint : Except ControlError Unit := do
  refuse (c.registryProvenance.isNone &&
      c.actorBindings.values.any fun b => b.physicalEntityId.isSome)
    (.invalidProposal ("physical Actor checkpoint lacks registry anti-rollback provenance; " ++
      "trusted checkpoint migration required"))
  c.registryProvenance.toList.forM fun p => c.actorBindings.values.forM p.validateBinding

def takeoverInRegistry (registry : PhysicalEntityRegistrySnapshot)
    (a : ActorTakeoverAuthorization) : Bool :=
  registry.registryId == a.registryId && registry.revision == a.registryRevision &&
    registry.entity a.previousEntityId == some a.previousNodeId &&
    registry.entity a.replacementEntityId == some a.replacementNodeId

def validatePhysicalEntityRegistryOnRestore : Except ControlError Unit := do
  refuse (c.physicalEntityRegistry.isNone &&
      c.actorBindings.values.any fun b => b.physicalEntityId.isSome)
    (.invalidProposal "restored physical ActorBindings require a current deployment registry")
  c.physicalEntityRegistry.toList.forM fun registry =>
    c.pendingRecoveryCommitments.values.forM fun r =>
      refuse (!r.actorTakeover.all (takeoverInRegistry registry)) (.invalidProposal
        "restored Actor takeover commitment requires its exact deployment registry")

def ControlPlane.withoutRegistry : ControlPlane :=
  { c with physicalEntityRegistry := none }

/-- The registry part of a restart (`restore`, then the server's `main`): the provenance is
checked, the deployment's snapshot installed, and the result validated. -/
def restartWithRegistry (snapshot : PhysicalEntityRegistrySnapshot) : ControlM Unit := do
  let k ← get
  check (validateProvenanceCheckpoint k.control)
  modifyControl (·.withoutRegistry)
  installPhysicalEntityRegistry snapshot
  let k ← get
  check (validatePhysicalEntityRegistryOnRestore k.control)

def topologyHeld : List ResourceId :=
  c.reservations.keys ++ (c.scheduledTasks.values.filter fun r => r.phase != .invalidated).flatMap
    fun r => r.decision.selections.flatMap (·.resourceIds)

def ControlPlane.withTopology (registry : ResourceTopologyRegistry)
    (version : Nat) : ControlPlane :=
  { c with
    resourceTopologyRegistry := some registry
    resourceTopologyHistory := c.resourceTopologyHistory.insert registry.revision registry
    calendarVersion := version }

/-- What `accept_resource_topology_registry` checks; the next version of the calendar. -/
def validateTopologyRegistry (registry : ResourceTopologyRegistry)
    (expected : Nat) : Except ControlError Nat := do
  let old := c.resourceTopologyRegistry
  refuse (!registry.valid) (.invalidProposal registry.refusal)
  refuse ((old.elim 0 (·.revision)) != expected ||
      checkedSucc expected != some registry.revision ||
      (old.any fun o => o.registryId != registry.registryId) ||
      decide (1024 ≤ c.resourceTopologyHistory.entries.length))
    (.invalidProposal "resource topology original identity/revision conflicts")
  (topologyHeld c).forM fun id =>
    refuse (old.bind (·.entry id) != registry.entry id)
      (.invalidProposal "held resource topology cannot be added, removed or changed")
  okOr (checkedSucc c.calendarVersion)
    (.invalidProposal "resource topology calendar generation exhausted")

def acceptResourceTopologyRegistry (registry : ResourceTopologyRegistry) (expected : Nat) :
    ControlM Unit := do
  let k ← get
  let version ← check (validateTopologyRegistry k.control registry expected)
  modifyControl (·.withTopology registry version)

/-- The limits forbid a held resource without a claim: its tenant has one, or is unknown. -/
def ControlPlane.fencedBy (limits : List QuotaLimit) (held : Reservation) :
    Bool :=
  match c.reservationQuotaTenant held with
  | none => !limits.isEmpty
  | some tenant => limits.any fun limit => limit.tenantId == tenant

/-- The revision part of `accept_resource_quota_registry`. The first registry adopts the
limits there are. -/
def validateQuotaRevision (registry : ResourceQuotaRegistry)
    (expected : Nat) : Except ControlError Unit :=
  match c.resourceQuotaRegistry with
  | some previous => do
    refuse (previous.revision != expected)
      (.invalidProposal "resource quota expected revision conflicts")
    (previous.validatesSuccessor registry).mapError .invalidProposal
  | none => do
    refuse (expected != 0 || registry.revision != 1)
      (.invalidProposal "initial resource quota policy requires revision one")
    refuse (!c.quotaLedger.limits.isEmpty && c.quotaLedger.limits != registry.limits)
      (.invalidProposal "initial quota policy must exactly adopt legacy configured limits")

/-- What `accept_resource_quota_registry` checks; the limits to install, or nothing if the
registry is the installed one. -/
def validateQuotaRegistry (registry : ResourceQuotaRegistry)
    (expected : Nat) : Except ControlError (Option (List QuotaLimit)) := do
  registry.validate.mapError .invalidProposal
  if c.resourceQuotaRegistry.any fun previous =>
      previous == registry && previous.revision == expected then
    return none
  validateQuotaRevision c registry expected
  refuse (decide (1024 ≤ c.resourceQuotaHistory.entries.length))
    (.invalidProposal "resource quota policy history is full")
  c.quotaUnaccountedResources.keys.forM fun id =>
    refuse ((c.reservations.get? id).any (c.fencedBy registry.limits)) (.invalidProposal
      "legacy resource demand or tenant is unavailable under the proposed quota policy")
  let limits ← liftQuota (c.quotaLedger.replaceLimits registry.limits)
  return some limits

def ControlPlane.withQuotaRegistry (registry : ResourceQuotaRegistry)
    (limits : List QuotaLimit) : ControlPlane :=
  { c with
    resourceQuotaRegistry := some registry
    resourceQuotaHistory := c.resourceQuotaHistory.insert registry.revision registry
    quotaLedger := { c.quotaLedger with limits } }

def acceptResourceQuotaRegistry (registry : ResourceQuotaRegistry) (expected : Nat) :
    ControlM Unit := do
  let k ← get
  match ← check (validateQuotaRegistry k.control registry expected) with
  | some limits => modifyControl (·.withQuotaRegistry registry limits)
  | none => pure ()

end RoboGuide.Control
