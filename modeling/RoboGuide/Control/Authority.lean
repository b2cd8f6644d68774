import RoboGuide.Control.Lifecycle

/-!
# `RoboGuide.Control.Authority`: evidence, Actor authority and physical entities

What an operation reads besides the Control Plane (`SharedNodeStateReader`, eligibility,
policy gates) is an `Evidence` value; nothing is assumed about it, so every result holds
whatever nodes report. The rest is the Actor authority of `core/control/src/lib.rs` and
the continuity checks of `group/mod.rs`.
-/

namespace RoboGuide.Control

open Domain Lib
open Fallible (refuse okOr check)

variable (c : ControlPlane)

/-! ### Evidence -/

structure NodeRegistration where
  resources : List Resource
  operations : List OperationRef
  /-- Operations with isolated stop and context-preserving repetition. -/
  retryOperations : List OperationRef
  /-- The contract version supports quantitative resources. -/
  quantitative : Bool
deriving DecidableEq

inductive DecisionKind where
  | match_ | commit | bind | rebind
deriving DecidableEq

/-- The outside of Control at one call. -/
structure Evidence where
  now : TimestampMs
  nodes : OrdMap NodeId NodeRegistration
  /-- `node_is_eligible_for_role` and `…_operation`: lease, health, freshness, capability. -/
  eligible : NodeId → RoleRequirement → Option OperationRef → Bool
  /-- `decision_gates_allow`. -/
  gatesAllow : NodeId → RoleRequirement → Option OperationRef → DecisionKind → Bool
  /-- `node_tenant_allowed`. -/
  nodeTenantAllowed : MissionId → NodeId → Bool
  /-- The policy gates of the Task's Roles produce receipts to record. -/
  hasReceipts : TaskRef → Bool
  /-- Digest of the installed decision policy. -/
  decisionPolicyDigest : Option String

namespace Evidence

def node (e : Evidence) (id : NodeId) : Option NodeRegistration := e.nodes.get? id

/-- `tenant_state`: a Mission sees the nodes its tenant may use. -/
def tenantNode (e : Evidence) (mission : MissionId) (id : NodeId) : Option NodeRegistration :=
  if e.nodeTenantAllowed mission id then e.node id else none

end Evidence

def servesDemand (resource : Resource) (id : ResourceId) (demand : ResourceRequirement) : Bool :=
  resource.id == id && resource.kind == demand.kind &&
    decide (demand.units ≤ resource.capacity) &&
    resource.allocationMode == demand.allocationMode &&
    resource.resourceClass == demand.resourceClass

def ControlPlane.selectedResourcesMatchRegistration (node : NodeRegistration)
    (role : RoleRequirement) (selected : List ResourceId) : Bool :=
  selected.length == role.resources.length && decide selected.Nodup &&
    (selected.zip role.resources).all fun (id, demand) =>
      node.resources.any fun resource => servesDemand resource id demand &&
        decide (c.capacityLedger.committedUnits id ≤ resource.capacity)

/-! ### Actor authority -/

abbrev actorKey (mission : MissionId) (actor : ActorId) : MissionId ×ₗ ActorId :=
  toLex (mission, actor)

namespace ControlPlane

def groundedActorNode (mission : MissionId) (actor : ActorId) :
    Option NodeId := do
  let semantics ← c.missionBindingSemantics.get? mission
  let entity ← semantics.actorGrounding.get? actor
  let registry ← c.physicalEntityRegistry
  registry.entity entity

def actorNodeConstraint (mission : MissionId) (actor : ActorId) :
    Option NodeId :=
  c.actorNodeConstraints.get? (actorKey mission actor)

def actorCandidateRestriction (mission : MissionId) (actor : ActorId) :
    Option ActorCandidateRestriction :=
  c.actorCandidateRestrictions.get? (actorKey mission actor)

/-- The binding, else the grounding, else the placement. -/
def actorAuthorityNode (mission : MissionId) (actor : ActorId) :
    Option NodeId :=
  ((c.actorBinding mission actor).map (·.nodeId)).or
    ((c.groundedActorNode mission actor).or (c.actorNodeConstraint mission actor))

structure ResolvedEntity where
  entityId : PhysicalEntityId
  registryId : PhysicalEntityRegistryId
  revision : Nat
deriving DecidableEq

def intentEntity (semantics : MissionBindingSemantics)
    (registry : PhysicalEntityRegistrySnapshot) (mission : MissionId) (actor : ActorId)
    (node : NodeId) : Except ControlError PhysicalEntityId :=
  match semantics.actorGrounding.get? actor with
  | some entity =>
    match registry.entity entity with
    | some routed => do
      refuse (routed != node) (.invalidProposal
        s!"grounded actor {actor} may only bind node {routed} but intent is {node}")
      pure entity
    | none => .error (.actorGroundingUnresolved mission actor entity)
  | none => okOr (registry.entityForNode node) (.invalidProposal
      s!"node {node} has no routable physical entity in registry revision {registry.revision}")

def validateActorBindingIntent (mission : MissionId) (actor : ActorId)
    (node : NodeId) : Except ControlError (Option ResolvedEntity) := do
  refuse ((c.actorNodeConstraint mission actor).any fun n => n != node)
    (.invalidProposal "actor binding violates deployment placement constraint")
  refuse ((c.actorCandidateRestriction mission actor).any fun r => !r.allowedNodes.contains node)
    (.invalidProposal "actor binding violates deployment candidate restriction")
  match c.missionBindingSemantics.get? mission with
  | none => pure none
  | some semantics =>
    if semantics.requiresPhysicalEntities then
      let registry ← okOr c.physicalEntityRegistry (.invalidProposal
        "physical entity registry is not installed for MissionPlan v0.8 binding")
      let entity ← intentEntity semantics registry mission actor node
      pure (some ⟨entity, registry.registryId, registry.revision⟩)
    else pure none

end ControlPlane

def setActorNodeConstraint (mission : MissionId) (actor : ActorId) (node : NodeId) :
    ControlM Unit := do
  let k ← get
  let c := k.control
  check (refuse ((c.actorBinding mission actor).any fun b => b.nodeId != node)
    (.invalidProposal "actor placement conflicts with committed actor binding"))
  check (refuse ((c.actorCandidateRestriction mission actor).any fun r =>
      !r.allowedNodes.contains node)
    (.invalidProposal "actor placement conflicts with deployment candidate restriction"))
  match c.actorNodeConstraint mission actor with
  | some existing => check (refuse (existing != node)
      (.invalidProposal "mission actor already has a different placement constraint"))
  | none => modifyControl fun c =>
      { c with actorNodeConstraints := c.actorNodeConstraints.insert (actorKey mission actor) node }

/-- A lower-case hexadecimal SHA-256 text. -/
def validEvidenceDigest (value : String) : Bool :=
  value.utf8ByteSize == 71 && value.toList.take 7 == "sha256:".toList &&
    (value.toList.drop 7).all fun c => c.isDigit || ('a' ≤ c && c ≤ 'f')

def setActorCandidateRestriction (mission : MissionId) (actor : ActorId)
    (restriction : ActorCandidateRestriction) : ControlM Unit := do
  let k ← get
  let c := k.control
  check (refuse (restriction.allowedNodes == ∅ ||
      !validEvidenceDigest restriction.evidenceDigest)
    (.invalidProposal
      "actor candidate restriction is empty or lacks a valid evidence digest"))
  check (refuse
    (((c.actorBinding mission actor).any fun b => !restriction.allowedNodes.contains b.nodeId) ||
      (c.actorNodeConstraint mission actor).any fun n => !restriction.allowedNodes.contains n)
    (.invalidProposal "actor candidate restriction conflicts with binding or placement"))
  match c.actorCandidateRestriction mission actor with
  | some existing => check (refuse (existing != restriction)
      (.invalidProposal "mission actor already has a different candidate restriction"))
  | none => modifyControl fun c =>
      { c with actorCandidateRestrictions :=
          c.actorCandidateRestrictions.insert (actorKey mission actor) restriction }

/-! ### Actor continuity at Commit and Bind -/

def peerEntity (mission : MissionId)
    (selected : OrdMap ActorId PhysicalEntityId) (peer : ActorId) : Option PhysicalEntityId :=
  (selected.get? peer).or ((c.actorBinding mission peer).bind (·.physicalEntityId))

def checkDistinctPeers (mission : MissionId)
    (semantics : MissionBindingSemantics) (context : CoordinationContextId)
    (selected : OrdMap ActorId PhysicalEntityId) : Except ControlError Unit :=
  selected.entries.forM fun (actor, entity) =>
    (semantics.distinctPeers context actor).forM fun peer =>
      refuse (peerEntity c mission selected peer == some entity)
        (.distinctBindingUnsatisfiable mission actor peer entity)

/-- One assignment of `validate_proposal_physical_bindings`. -/
def selectPhysicalEntity (group : ExecutionGroup)
    (proposal : AssignmentProposal) (selected : OrdMap ActorId PhysicalEntityId)
    (a : RoleAssignment) : Except ControlError (OrdMap ActorId PhysicalEntityId) := do
  let mission := proposal.taskRef.missionId
  let role ← okOr (group.roleRequirement proposal.taskRef a.roleId)
    (.invalidProposal s!"Group omits role metadata for {a.roleId}")
  match role.actorId with
  | none => pure selected
  | some actor =>
    let entity ← okOr (proposal.rolePhysicalEntities.get? a.roleId)
      (.invalidProposal s!"proposal omits physical entity for role {a.roleId}")
    let resolved ← c.validateActorBindingIntent mission actor a.nodeId
    refuse (resolved.map (·.entityId) != some entity)
      (.invalidProposal s!"proposal physical entity changed for role {a.roleId}")
    refuse ((c.actorBinding mission actor).any fun b => b.physicalEntityId != some entity)
      (.invalidProposal "committed Actor cannot silently change physical entity")
    refuse ((selected.get? actor).any fun previous => previous != entity)
      (.invalidProposal s!"actor {actor} selects multiple physical entities in one Task")
    pure (selected.insert actor entity)

def validateProposalPhysicalBindings (group : ExecutionGroup)
    (execution : TaskExecution) (proposal : AssignmentProposal) : Except ControlError Unit :=
  match c.missionBindingSemantics.get? proposal.taskRef.missionId with
  | none => .ok ()
  | some semantics =>
    if semantics.requiresPhysicalEntities then do
      let selected ← proposal.assignments.foldlM (selectPhysicalEntity c group proposal) ∅
      checkDistinctPeers c proposal.taskRef.missionId semantics execution.contextId selected
    else .ok ()

def intendedBinding (plan : CommittedPlan) (actor : ActorId) (role : RoleId) (node : NodeId)
    (physical : Option ControlPlane.ResolvedEntity) : Except ControlError ActorBinding :=
  match physical, plan.rolePhysicalEntities.get? role with
  | some resolved, some committed => do
    refuse (resolved.entityId != committed) (.invalidProposal
      "committed physical entity no longer matches current deployment routing")
    pure { missionId := plan.taskRef.missionId, actorId := actor, nodeId := node,
           physicalEntityId := some resolved.entityId, registryId := some resolved.registryId,
           registryRevision := some resolved.revision }
  | some _, none =>
    .error (.invalidProposal s!"committed plan omits physical entity for role {role}")
  | none, some _ => .error (.invalidProposal
      s!"legacy Actor binding unexpectedly carries a physical entity for role {role}")
  | none, none =>
    .ok { missionId := plan.taskRef.missionId, actorId := actor, nodeId := node,
          physicalEntityId := none, registryId := none, registryRevision := none }

/-- One Role of `validate_authoritative_actor_assignments`. -/
def collectActorBinding (plan : CommittedPlan)
    (bindings : OrdMap ActorId ActorBinding) (role : RoleRequirement) :
    Except ControlError (OrdMap ActorId ActorBinding) :=
  match role.actorId with
  | none => .ok bindings
  | some actor => do
    let mission := plan.taskRef.missionId
    let a ← okOr (plan.assignments.find? fun a => a.roleId == role.roleId)
      (.invalidProposal s!"missing role {role.roleId}")
    let physical ← c.validateActorBindingIntent mission actor a.nodeId
    let binding ← intendedBinding plan actor role.roleId a.nodeId physical
    refuse ((c.actorBinding mission actor).any fun existing =>
        existing.nodeId != binding.nodeId ||
          existing.physicalEntityId != binding.physicalEntityId ||
          existing.registryId != binding.registryId)
      (.invalidProposal "mission actor is already bound to another physical executor")
    refuse ((bindings.get? actor).any fun previous => previous != binding) (.invalidProposal
      "one mission actor cannot bind multiple physical executors in one Task")
    pure (bindings.insert actor binding)

def ExecutionGroup.rolesOf (g : ExecutionGroup) (task : TaskRef) : List RoleRequirement :=
  (g.roleRequirements.entries.filter fun e => (ofLex e.1).1 == task).map (·.2)

def validateAuthoritativeActorAssignments (group : ExecutionGroup)
    (plan : CommittedPlan) : Except ControlError (OrdMap ActorId ActorBinding) := do
  let execution ← okOr (group.taskExecution plan.taskRef)
    (.invalidProposal "Task is absent from the Mission Group")
  let bindings ← (group.rolesOf plan.taskRef).foldlM (collectActorBinding c plan) ∅
  match c.missionBindingSemantics.get? plan.taskRef.missionId with
  | none => pure ()
  | some semantics =>
    let entities := OrdMap.ofList (bindings.entries.filterMap fun (actor, b) =>
      b.physicalEntityId.map fun e => (actor, e))
    checkDistinctPeers c plan.taskRef.missionId semantics execution.contextId entities
  pure bindings

end RoboGuide.Control
