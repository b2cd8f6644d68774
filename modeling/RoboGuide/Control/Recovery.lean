import RoboGuide.Control.Binding

/-!
# `RoboGuide.Control.Recovery`: replacing the binding of one Role

`core/control/src/reconciliation/pipeline.rs` and the Rebind of `group/group_lifecycle.rs`:
block the Group and release the Role, match candidates, propose, commit and rebind (or
abort) a replacement, with an Actor takeover where one is authorized.
-/

namespace RoboGuide.Control

open Domain Lib
open Fallible (refuse okOr check)

variable (c : ControlPlane)

/-! ### Starting a recovery -/

def recoveryAssignments (group : ExecutionGroup) (task : TaskRef) :
    Except ControlError (List RoleAssignment × Bool) :=
  match group.taskExecution task with
  | some execution => .ok (execution.assignments, true)
  | none => do
    refuse (!(group.taskExecutions == ∅ && group.taskRef == task))
      (.invalidProposal "recovery Task is not registered in this Group")
    pure (group.assignments, false)

/-- Unlike the release itself it looks a resource up in
both ownership tables. -/
def validateRoleRecoveryRelease (need : RoleRecoveryNeed) :
    Except ControlError Unit := do
  let group ← lookupGroup c need.groupId
  refuse (!group.lifecycle.working) (.invalidLifecycle group.lifecycle)
  let (assignments, taskScoped) ← recoveryAssignments group need.taskRef
  let assignment ← okOr (assignments.find? fun a =>
      a.roleId == need.roleId && a.nodeId == need.currentNodeId)
    (.invalidProposal "recovery need no longer matches the active group assignment")
  assignment.resourceIds.forM fun id => do
    let r ← okOr (c.bindingReservation id need.groupId need.taskRef need.roleId)
      (.invalidProposal s!"recovery binding {id} has no reservation")
    refuse (!roleReservationOwned r need.groupId need.taskRef need.roleId)
      (.invalidProposal s!"recovery does not own reservation {id}")
    refuse (taskScoped && r.scope == .context) (.invalidProposal
      "Context-scoped role bindings must end with their Context before recovery release")

/-- The second test of `begin_role_recovery`, after the preflight; returns whether the Role
belongs to a registered Task. -/
def recoveryStillNeeded (need : RoleRecoveryNeed) :
    Except ControlError Bool := do
  let group ← lookupGroup c need.groupId
  refuse (!group.lifecycle.working) (.invalidLifecycle group.lifecycle)
  let assignments := ((group.taskExecution need.taskRef).map (·.assignments)).getD
    group.assignments
  let taskScoped := (group.taskExecution need.taskRef).isSome
  refuse ((group.taskRef != need.taskRef && !taskScoped) ||
      !assignments.any fun a => a.roleId == need.roleId && a.nodeId == need.currentNodeId)
    (.invalidProposal "recovery need no longer matches the active group assignment")
  pure taskScoped

def beginRoleRecovery (need : RoleRecoveryNeed) : ControlM Unit := do
  let k ← get
  check (validateRoleRecoveryRelease k.control need)
  let taskScoped ← check (recoveryStillNeeded k.control need)
  blockGroup need.groupId
    s!"assigned node {need.currentNodeId} is unavailable for role {need.roleId}"
  if taskScoped then releaseTaskRoleBinding need.groupId need.taskRef need.roleId
  else releaseRoleBinding need.groupId need.roleId

def beginExecutionRecovery (need : RoleRecoveryNeed) : ControlM Unit := do
  let k ← get
  check (validateRoleRecoveryRelease k.control need)
  emit (.reconciliationRoleRecoveryRequired need.groupId need.taskRef need.roleId
    need.currentNodeId)
  beginRoleRecovery need

/-! ### Actor takeover -/

/-- The Group's own metadata, which the supplied one must equal. -/
def recoveryRole (group : ExecutionGroup) (requirement : TaskRequirement) (task : TaskRef)
    (roleId : RoleId) : Except ControlError RoleRequirement := do
  refuse (requirement.taskRef != task)
    (.invalidProposal "recovery context belongs to another task")
  let supplied ← okOr (requirement.roles.find? fun r => r.roleId == roleId)
    (.invalidProposal s!"task requirement has no recovery role {roleId}")
  match group.roleRequirement task roleId with
  | none => pure supplied
  | some authoritative =>
    refuse (authoritative != supplied) (.invalidProposal
      "recovery requirement differs from authoritative Execution Group role metadata")
    pure authoritative

def entityTaken (mission : MissionId) (actor : ActorId)
    (entity : PhysicalEntityId) (node : NodeId) : Bool :=
  c.actorBindings.entries.any fun (key, b) => (ofLex key).1 == mission &&
    (ofLex key).2 != actor && (b.physicalEntityId == some entity || b.nodeId == node)

def authorizeActorTakeover (need : RoleRecoveryNeed)
    (requirement : TaskRequirement) (previousEntity replacementEntity : PhysicalEntityId)
    (evidenceDigest : String) : Except ControlError ActorTakeoverAuthorization := do
  refuse (previousEntity == replacementEntity || !validEvidenceDigest evidenceDigest)
    (.invalidProposal
      "Actor takeover requires distinct entities and a canonical evidence digest")
  let group ← lookupGroup c need.groupId
  let role ← recoveryRole group requirement need.taskRef need.roleId
  refuse (group.lifecycle != .blocked ||
      (group.recoveryUnboundRole need.taskRef need.roleId).isNone)
    (.invalidProposal "Actor takeover requires the exact blocked unbound role")
  let actor ← okOr role.actorId
    (.invalidProposal "Actor takeover requires an Actor-bound role")
  let mission := requirement.taskRef.missionId
  let binding ← okOr (c.actorBinding mission actor)
    (.invalidProposal "Actor takeover requires an existing ActorBinding")
  refuse (binding.nodeId != need.currentNodeId)
    (.invalidProposal "Actor takeover source differs from the current ActorBinding")
  refuse ((c.missionBindingSemantics.get? mission).any fun s =>
      (s.actorGrounding.get? actor).isSome)
    (.invalidProposal "a Mission Actor grounded to one entity cannot migrate")
  let registry ← okOr c.physicalEntityRegistry
    (.invalidProposal "Actor takeover requires a current physical registry")
  let previousNode ← okOr (registry.entity previousEntity)
    (.invalidProposal "takeover source entity is not registered")
  let replacementNode ← okOr (registry.entity replacementEntity)
    (.invalidProposal "takeover replacement entity is not registered")
  refuse (previousNode != need.currentNodeId ||
      binding.physicalEntityId.any fun e => e != previousEntity)
    (.invalidProposal "takeover source entity does not match Actor authority")
  refuse (c.actorNodeConstraint mission actor).isSome (.invalidProposal
    "fixed Actor placement must be replaced by an explicit candidate restriction before takeover")
  refuse ((c.actorCandidateRestriction mission actor).any fun r =>
      !r.allowedNodes.contains replacementNode)
    (.invalidProposal "takeover replacement violates the admitted Actor candidate restriction")
  refuse (entityTaken c mission actor replacementEntity replacementNode) (.invalidProposal
    "takeover replacement is already authoritative for another Mission Actor")
  pure { groupId := need.groupId, taskRef := need.taskRef, roleId := need.roleId,
         actorId := actor, previousNodeId := need.currentNodeId,
         previousEntityId := previousEntity, replacementNodeId := replacementNode,
         replacementEntityId := replacementEntity, registryId := registry.registryId,
         registryRevision := registry.revision, evidenceDigest }

def takeoverSourceCurrent (b : ActorBinding) (a : ActorTakeoverAuthorization) : Bool :=
  b.nodeId == a.previousNodeId && b.physicalEntityId.all fun e => e == a.previousEntityId

def validateActorTakeover (need : RoleRecoveryNeed)
    (requirement : TaskRequirement) (a : ActorTakeoverAuthorization) :
    Except ControlError Unit := do
  refuse (a.groupId != need.groupId || a.taskRef != need.taskRef || a.roleId != need.roleId ||
      a.previousNodeId != need.currentNodeId)
    (.invalidProposal "Actor takeover authorization belongs to another recovery need")
  let group ← lookupGroup c need.groupId
  let role ← recoveryRole group requirement need.taskRef need.roleId
  refuse (role.actorId != some a.actorId)
    (.invalidProposal "Actor takeover authorization names another Actor")
  let binding ← okOr (c.actorBinding requirement.taskRef.missionId a.actorId)
    (.invalidProposal "ActorBinding disappeared")
  refuse (!takeoverSourceCurrent binding a)
    (.invalidProposal "Actor authority changed after takeover authorization")
  let registry ← okOr c.physicalEntityRegistry
    (.invalidProposal "physical registry disappeared")
  refuse (registry.registryId != a.registryId || registry.revision != a.registryRevision ||
      registry.entity a.previousEntityId != some a.previousNodeId ||
      registry.entity a.replacementEntityId != some a.replacementNodeId)
    (.invalidProposal "physical registry changed after takeover authorization")

/-! ### Candidates and proposal -/

structure RecoveryCandidateSet where
  stoppedOwnerAllowed : Bool
  groupId : ExecutionGroupId
  taskRef : TaskRef
  roleId : RoleId
  previousNodeId : NodeId
  candidateNodeIds : List NodeId
  operation : Option OperationRef
  actorTakeover : Option ActorTakeoverAuthorization
deriving DecidableEq

def supportsRetry (e : Evidence) (node : NodeId) (operation : Option OperationRef) : Bool :=
  operation.any fun o => (e.node node).any fun n => n.retryOperations.contains o

/-- The released slot of a blocked Group; it must still name the node of the need. -/
def blockedSlot (group : ExecutionGroup) (task : TaskRef) (role : RoleId) :
    Except ControlError UnboundRole := do
  refuse (group.lifecycle != .blocked) (.invalidLifecycle group.lifecycle)
  okOr (group.recoveryUnboundRole task role) (.invalidProposal "recovery role is not unbound")

def recoveryCandidates (e : Evidence) (need : RoleRecoveryNeed)
    (role : RoleRequirement) (mission : MissionId) (operation : Option OperationRef)
    (stoppedOwnerAllowed : Bool) (takeover : Option ActorTakeoverAuthorization) : List NodeId :=
  let authority := (takeover.map (·.replacementNodeId)).or
    (role.actorId.bind (c.actorAuthorityNode mission))
  let restriction := role.actorId.bind (c.actorCandidateRestriction mission)
  e.nodes.keys.filter fun node =>
    e.nodeTenantAllowed mission node && (stoppedOwnerAllowed || node != need.currentNodeId) &&
      (authority.all fun a => node == a) &&
        (restriction.all fun r => r.allowedNodes.contains node) &&
      e.eligible node role operation && (!stoppedOwnerAllowed || supportsRetry e node operation)

/-- `match_recovery_candidates_with_operation`; a takeover is validated first. -/
def matchRecoveryCandidates (e : Evidence) (need : RoleRecoveryNeed)
    (requirement : TaskRequirement) (operation : Option OperationRef) (stoppedOwnerAllowed : Bool)
    (takeover : Option ActorTakeoverAuthorization) : ControlM RecoveryCandidateSet := do
  let k ← get
  let c := k.control
  let role ← check do
    match takeover with
    | some a => validateActorTakeover c need requirement a
    | none => pure ()
    let group ← lookupGroup c need.groupId
    let role ← recoveryRole group requirement need.taskRef need.roleId
    let slot ← blockedSlot group need.taskRef need.roleId
    refuse (slot.previousNodeId != need.currentNodeId)
      (.invalidProposal "recovery need no longer matches the blocked group role")
    pure role
  let nodes := recoveryCandidates c e need role requirement.taskRef.missionId operation
    stoppedOwnerAllowed takeover
  emit (.recoveryCandidatesMatched need.groupId need.taskRef need.roleId nodes)
  pure { stoppedOwnerAllowed, groupId := need.groupId, taskRef := need.taskRef,
         roleId := need.roleId, previousNodeId := need.currentNodeId,
         candidateNodeIds := nodes, operation, actorTakeover := takeover }

def validateRecoveryResources (node : NodeRegistration) (role : RoleRequirement)
    (resources : List ResourceId) : Except ControlError Unit := do
  refuse (resources.length != role.resources.length) (.invalidProposal
    s!"recovery role {role.roleId} resources do not exactly cover its requirements")
  refuse (!decide resources.Nodup)
    (.invalidProposal "recovery proposal contains duplicate resources")
  refuse (!(resources.zip role.resources).all fun (id, demand) =>
      node.resources.any fun r => servesDemand r id demand)
    (.invalidProposal
      s!"recovery role {role.roleId} resources do not satisfy replacement kind/capacity")

/-- The replacement still supports the operation of the Role. -/
def checkOperation (node : NodeRegistration) (id : NodeId) (operation : Option OperationRef) :
    Except ControlError Unit :=
  match operation with
  | none => .ok ()
  | some o => refuse (!node.operations.contains o)
      (.invalidProposal s!"replacement node {id} no longer supports operation {o}")

def proposeRoleRecovery (e : Evidence) (candidates : RecoveryCandidateSet)
    (requirement : TaskRequirement) (selected : NodeId) (resources : List ResourceId) :
    ControlM RecoveryAssignmentProposal := do
  let k ← get
  check do
    refuse (!e.nodeTenantAllowed requirement.taskRef.missionId selected)
      (.invalidProposal "recovery candidate belongs to another tenant")
    let group ← lookupGroup k.control candidates.groupId
    let role ← recoveryRole group requirement candidates.taskRef candidates.roleId
    refuse (group.lifecycle != .blocked) (.invalidLifecycle group.lifecycle)
    refuse (group.recoveryUnboundRole candidates.taskRef candidates.roleId).isNone
      (.invalidProposal "recovery candidates do not match the blocked group role")
    refuse ((selected == candidates.previousNodeId && !candidates.stoppedOwnerAllowed) ||
        !candidates.candidateNodeIds.contains selected)
      (.invalidProposal s!"scheduler-selected node {selected} is not a recovery candidate")
    let node ← okOr (e.node selected) (.unknownNode selected)
    checkOperation node selected candidates.operation
    validateRecoveryResources node role resources
  emit (.recoveryAssignmentProposed candidates.groupId candidates.taskRef candidates.roleId
    selected resources)
  pure { stoppedOwnerAllowed := candidates.stoppedOwnerAllowed, groupId := candidates.groupId,
         taskRef := candidates.taskRef, roleId := candidates.roleId,
         previousNodeId := candidates.previousNodeId, replacementNodeId := selected,
         replacementResourceIds := resources, operation := candidates.operation,
         actorTakeover := candidates.actorTakeover }

/-! ### Commit, abort and Rebind -/

/-- `recovery_commitment_key`. -/
abbrev recoveryKey (group : ExecutionGroupId) (task : TaskRef) (role : RoleId) : RecoveryKey :=
  toLex (group, toLex (task, role))

def RecoveryAssignmentProposal.need (p : RecoveryAssignmentProposal) : RoleRecoveryNeed :=
  ⟨p.groupId, p.taskRef, p.roleId, p.previousNodeId⟩

def RecoveryAssignmentProposal.assignment (p : RecoveryAssignmentProposal) : RoleAssignment :=
  ⟨p.roleId, p.replacementNodeId, p.replacementResourceIds⟩

/-- The Actor part of `commit_role_recovery`. -/
def validateRecoveryActor (requirement : TaskRequirement)
    (role : RoleRequirement) (p : RecoveryAssignmentProposal) : Except ControlError Unit :=
  match p.actorTakeover with
  | some a => do
    validateActorTakeover c p.need requirement a
    refuse (p.replacementNodeId != a.replacementNodeId)
      (.invalidProposal "takeover proposal differs from its authorized standby")
  | none =>
    match role.actorId.bind fun actor =>
        (c.actorAuthorityNode requirement.taskRef.missionId actor).map fun n => (actor, n) with
    | none => .ok ()
    | some (actor, authority) =>
      let replacement := p.replacementNodeId
      refuse (replacement != authority) (.invalidProposal
        (s!"recovery replacement {replacement} violates actor {actor} authority on {authority}; " ++
          "explicit Actor rebind is required"))

def checkReplacementFree (role : RoleRequirement)
    (p : RecoveryAssignmentProposal) : Except ControlError Unit :=
  (p.replacementResourceIds.zip role.resources).forM fun (id, demand) =>
    if demand.allocationMode == .divisible then .ok ()
    else do
      match (c.reservations.get? id).or (c.capacityConflict id) with
      | some r => .error (.resourceConflict id r.taskRef r.roleId)
      | none => pure ()
      match c.scheduledResourceConflict id p.taskRef with
      | some (ownerTask, ownerRole) => .error (.resourceConflict id ownerTask ownerRole)
      | none => pure ()

/-- The node evidence of `commit_role_recovery`. -/
def validateReplacementNode (e : Evidence) (role : RoleRequirement)
    (p : RecoveryAssignmentProposal) : Except ControlError NodeRegistration := do
  let node ← okOr (e.node p.replacementNodeId) (.unknownNode p.replacementNodeId)
  let replacement := p.replacementNodeId
  refuse (!e.eligible replacement role none) (.invalidProposal
    s!"replacement node {replacement} is no longer eligible for role {role.roleId}")
  checkOperation node replacement p.operation
  refuse (!e.gatesAllow replacement role p.operation .rebind)
    (.assignmentUnavailable "replacement State policy evidence is unavailable")
  refuse (p.stoppedOwnerAllowed && !supportsRetry e replacement p.operation) (.invalidProposal
    "replacement no longer declares isolated stop and context-preserving repetition")
  pure node

/-- The checks of `commit_role_recovery` up to the ledgers; returns the Role. -/
def validateRecoveryCommit (e : Evidence) (requirement : TaskRequirement)
    (p : RecoveryAssignmentProposal) : Except ControlError RoleRequirement := do
  refuse (!e.nodeTenantAllowed requirement.taskRef.missionId p.replacementNodeId)
    (.invalidProposal "recovery commitment belongs to another tenant")
  let group ← lookupGroup c p.groupId
  let role ← recoveryRole group requirement p.taskRef p.roleId
  let slot ← blockedSlot group p.taskRef p.roleId
  refuse (slot.previousNodeId != p.previousNodeId ||
      (p.replacementNodeId == p.previousNodeId && !p.stoppedOwnerAllowed))
    (.invalidProposal "recovery proposal no longer matches the blocked group role")
  validateRecoveryActor c requirement role p
  refuse (c.pendingRecoveryCommitments.contains (recoveryKey p.groupId p.taskRef p.roleId))
    (.pendingRecoveryCommitmentExists p.groupId p.roleId)
  let node ← validateReplacementNode e role p
  validateRecoveryResources node role p.replacementResourceIds
  checkReplacementFree c role p
  c.validateTopologyAssignments e p.taskRef [p.assignment]
  pure role

def recoveryLedgers (e : Evidence) (mission : MissionId)
    (role : RoleRequirement) (p : RecoveryAssignmentProposal) :
    Except ControlError ControlPlane := do
  let capacity ← c.capacityCommitCandidate e p.groupId p.taskRef [p.assignment]
  refuse (role.resources.length != p.replacementResourceIds.length)
    (.invalidProposal "recovery quota demand differs from the exact Role requirement")
  let demands := exclusiveDemands p.replacementResourceIds role.resources
  let quota ← c.quotaCandidate mission demands
  match capacity with
  | some (ledger, quota) =>
    pure { c with
      capacityLedger := ledger, quotaLedger := quota
      calendarVersion := saturatingSucc c.calendarVersion }
  | none => pure (if demands.isEmpty then c else c.commitResourceQuotas demands quota)

/-- The reservation of a replacement's exclusive resource: Task-scoped whatever the Role's
scope is, and already in the Group. -/
def replacementReservation (e : Evidence) (p : RecoveryAssignmentProposal)
    (id : ResourceId) : Reservation where
  topology := c.originalTopologyReservation e id p.taskRef false
  taskRef := p.taskRef
  roleId := p.roleId
  groupId := some p.groupId
  scope := .task
  owner := .task p.taskRef

/-- One resource of a recovery Commit: an admitted pool is marked as bound, any other
resource is reserved. -/
def reserveReplacement (e : Evidence) (p : RecoveryAssignmentProposal) (c : ControlPlane)
    (id : ResourceId) : ControlPlane :=
  if (c.capacityLedger.binding id p.groupId p.taskRef p.roleId).isSome then
    c.updateBindingReservation id p.groupId p.taskRef p.roleId fun r =>
      { r with groupId := some p.groupId }
  else
    { c with reservations := c.reservations.insert id (replacementReservation c e p id) }

def RecoveryAssignmentProposal.committed (p : RecoveryAssignmentProposal) :
    CommittedRecoveryAssignment where
  stoppedOwnerAllowed := p.stoppedOwnerAllowed
  groupId := p.groupId
  taskRef := p.taskRef
  roleId := p.roleId
  previousNodeId := p.previousNodeId
  replacementNodeId := p.replacementNodeId
  committedResourceIds := p.replacementResourceIds
  operation := p.operation
  actorTakeover := p.actorTakeover

def commitRoleRecovery (e : Evidence) (requirement : TaskRequirement)
    (p : RecoveryAssignmentProposal) : ControlM CommittedRecoveryAssignment := do
  let k ← get
  let role ← check (validateRecoveryCommit k.control e requirement p)
  let charged ← check (recoveryLedgers k.control e requirement.taskRef.missionId role p)
  modifyControl fun _ =>
    let c := p.replacementResourceIds.foldl (reserveReplacement e p) charged
    let key := recoveryKey p.groupId p.taskRef p.roleId
    { c with pendingRecoveryCommitments := c.pendingRecoveryCommitments.insert key p.committed }
  emit (.recoveryAssignmentCommitted p.groupId p.taskRef p.roleId p.replacementNodeId
    p.replacementResourceIds)
  pure p.committed

/-- `validate_pending_recovery_commitment`. -/
def validatePendingCommitment (r : CommittedRecoveryAssignment) :
    Except ControlError Unit := do
  let pending ← okOr (c.pendingRecoveryCommitments.get? (recoveryKey r.groupId r.taskRef r.roleId))
    (.pendingRecoveryCommitmentNotFound r.groupId r.roleId)
  refuse (pending != r) (.pendingRecoveryCommitmentMismatch r.groupId r.roleId)

/-- `validate_recovery_commitment_reservations`. -/
def validateCommitmentReservations (r : CommittedRecoveryAssignment) :
    Except ControlError Unit :=
  r.committedResourceIds.forM fun id => do
    let held ← okOr (c.bindingReservation id r.groupId r.taskRef r.roleId)
      (.invalidProposal s!"pending recovery resource {id} has no reservation")
    refuse (!roleReservationOwned held r.groupId r.taskRef r.roleId)
      (.invalidProposal s!"resource {id} is not owned by the pending recovery commitment")

/-- The checks of `abort_role_recovery_commitment`. -/
def validateAbort (r : CommittedRecoveryAssignment) :
    Except ControlError Unit := do
  validatePendingCommitment c r
  let group ← lookupGroup c r.groupId
  refuse (group.lifecycle != .blocked) (.invalidLifecycle group.lifecycle)
  refuse (group.recoveryUnboundRole r.taskRef r.roleId).isNone
    (.invalidProposal "pending recovery commitment does not match the blocked Group")
  validateCommitmentReservations c r

def abortRoleRecoveryCommitment (r : CommittedRecoveryAssignment) : ControlM Unit := do
  let k ← get
  check (validateAbort k.control r)
  modifyControl fun c =>
    let c := (c.releaseResources r.committedResourceIds).releaseCapacityTask r.groupId r.taskRef
      (some r.roleId)
    { c with pendingRecoveryCommitments :=
        c.pendingRecoveryCommitments.erase (recoveryKey r.groupId r.taskRef r.roleId) }
  emit (.recoveryAssignmentAborted r.groupId r.taskRef r.roleId r.replacementNodeId
    r.committedResourceIds)

def takeoverBinding (mission : MissionId) (a : ActorTakeoverAuthorization) : ActorBinding where
  missionId := mission
  actorId := a.actorId
  nodeId := a.replacementNodeId
  physicalEntityId := some a.replacementEntityId
  registryId := some a.registryId
  registryRevision := some a.registryRevision

/-- The takeover part of `rebind_role_validated`. -/
def validateRebindTakeover (group : ExecutionGroup)
    (r : CommittedRecoveryAssignment) (a : ActorTakeoverAuthorization) :
    Except ControlError Unit := do
  let role ← okOr (group.roleRequirement r.taskRef r.roleId)
    (.invalidProposal "takeover commitment lacks authoritative role metadata")
  refuse (a.groupId != r.groupId || a.taskRef != r.taskRef || a.roleId != r.roleId ||
      a.previousNodeId != r.previousNodeId || a.replacementNodeId != r.replacementNodeId ||
      role.actorId != some a.actorId)
    (.invalidProposal "takeover commitment differs from its Actor authorization")
  let binding ← okOr (c.actorBinding r.taskRef.missionId a.actorId)
    (.invalidProposal "takeover ActorBinding disappeared")
  refuse (!takeoverSourceCurrent binding a)
    (.invalidProposal "takeover source no longer owns Actor authority")
  let registry ← okOr c.physicalEntityRegistry
    (.invalidProposal "takeover requires current deployment topology")
  refuse (registry.registryId != a.registryId || registry.revision != a.registryRevision ||
      registry.entity a.replacementEntityId != some a.replacementNodeId)
    (.invalidProposal "takeover deployment topology changed before Rebind")

/-- Put the replacement back where the Role was released, or last. -/
def insertAssignment (assignments : List RoleAssignment) (index : Nat) (a : RoleAssignment) :
    List RoleAssignment :=
  assignments.insertIdx (min index assignments.length) a

def CommittedRecoveryAssignment.assignment (r : CommittedRecoveryAssignment) : RoleAssignment :=
  ⟨r.roleId, r.replacementNodeId, r.committedResourceIds⟩

def reboundGroup (group : ExecutionGroup) (r : CommittedRecoveryAssignment)
    (slot : UnboundRole) : Except ControlError ExecutionGroup :=
  match group.taskExecution r.taskRef with
  | some t => do
    refuse (t.assignments.any fun a => a.roleId == r.roleId)
      (.invalidProposal s!"role {r.roleId} is still bound in Task {r.taskRef}")
    pure { group.setTask r.taskRef (t.withAssignments
          (insertAssignment t.assignments slot.assignmentIndex r.assignment)) with
      taskUnboundRoles := group.taskUnboundRoles.erase (toLex (r.taskRef, r.roleId))
      lifecycle := .adapted }
  | none => do
    refuse (group.assignments.any fun a => a.roleId == r.roleId)
      (.invalidProposal s!"role {r.roleId} is still bound in Group {r.groupId}")
    pure { group with
      assignments := insertAssignment group.assignments slot.assignmentIndex r.assignment
      unboundRoles := group.unboundRoles.erase r.roleId
      lifecycle := .adapted }

/-- The checks of `rebind_role_validated`; returns the changed Group and the released slot. -/
def validateRebind (e : Evidence) (r : CommittedRecoveryAssignment) :
    Except ControlError (ExecutionGroup × UnboundRole) := do
  refuse (!e.nodeTenantAllowed r.taskRef.missionId r.replacementNodeId)
    (.invalidProposal "recovery binding crosses tenant authority")
  let group ← lookupGroup c r.groupId
  refuse (group.lifecycle != .blocked) (.invalidLifecycle group.lifecycle)
  refuse (group.taskRef != r.taskRef && (group.taskExecution r.taskRef).isNone)
    (.invalidProposal "committed recovery belongs to another task")
  validatePendingCommitment c r
  let slot ← okOr (group.recoveryUnboundRole r.taskRef r.roleId)
    (.invalidProposal s!"role {r.roleId} is not unbound for committed rebind")
  refuse (slot.previousNodeId != r.previousNodeId ||
      (r.replacementNodeId == r.previousNodeId && !r.stoppedOwnerAllowed))
    (.invalidProposal "committed recovery does not match the released role binding")
  validateCommitmentReservations c r
  match r.actorTakeover with
  | some a => validateRebindTakeover c group r a
  | none => pure ()
  let rebound ← reboundGroup group r slot
  pure (rebound, slot)

/-- The rest of Rebind: the Actor moves, the commitment is spent, and, under a topology
registry only, the calendar remembers the replacement. -/
def ControlPlane.finishRebind (r : CommittedRecoveryAssignment) :
    ControlPlane :=
  { c with
    actorBindings := match r.actorTakeover with
      | some a => c.actorBindings.insert (actorKey r.taskRef.missionId a.actorId)
          (takeoverBinding r.taskRef.missionId a)
      | none => c.actorBindings
    pendingRecoveryCommitments :=
      c.pendingRecoveryCommitments.erase (recoveryKey r.groupId r.taskRef r.roleId)
    scheduledTasks := if c.resourceTopologyRegistry.isSome then
        c.scheduledTasks.modify r.taskRef fun record =>
          { record with topologyRecoveryAssignments :=
              record.topologyRecoveryAssignments.insert r.roleId r.assignment }
      else c.scheduledTasks }

def rebindRoleValidated (e : Evidence) (r : CommittedRecoveryAssignment) : ControlM Unit := do
  let k ← get
  let (rebound, slot) ← check (validateRebind k.control e r)
  storeGroup r.groupId rebound
  modifyControl (·.finishRebind r)
  match r.actorTakeover with
  | some a => emit (.missionActorTakenOver a)
  | none => pure ()
  emit (.recoveryRebound r.groupId r.taskRef r.roleId slot.previousNodeId r.replacementNodeId)

/-- The evidence checks of `rebind_role_with_state`. -/
def validateRebindEvidence (e : Evidence) (r : CommittedRecoveryAssignment) :
    Except ControlError Unit := do
  refuse (!c.boundTopologyAllowed r.taskRef [r.assignment] e.now)
    (.assignmentUnavailable "original replacement topology interval expired")
  let group ← lookupGroup c r.groupId
  let role ← okOr (group.roleRequirement r.taskRef r.roleId)
    (.invalidProposal "recovery Role is absent")
  refuse
    ((!(e.node r.replacementNodeId).any fun node =>
        c.selectedResourcesMatchRegistration node role r.committedResourceIds) ||
      !e.eligible r.replacementNodeId role none ||
      (r.operation.any fun o => !e.eligible r.replacementNodeId role (some o)) ||
      !e.gatesAllow r.replacementNodeId role r.operation .rebind)
    (.assignmentUnavailable "replacement identity/State policy is no longer eligible")
  refuse (r.stoppedOwnerAllowed && !supportsRetry e r.replacementNodeId r.operation)
    (.invalidProposal
      "stopped replacement no longer supports isolated context-preserving recovery")

def rebindRoleWithState (e : Evidence) (r : CommittedRecoveryAssignment) : ControlM Unit := do
  let k ← get
  check (validateRebindEvidence k.control e r)
  rebindRoleValidated e r
  if e.hasReceipts r.taskRef then emit (.statePolicyDecision r.taskRef)

end RoboGuide.Control
