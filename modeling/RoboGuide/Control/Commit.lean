import RoboGuide.Control.Calendar

/-!
# `RoboGuide.Control.Commit`: proposals and Commit

`core/control/src/{proposal,coordination}.rs`, with the quota batch of `lib.rs` and the
capacity batch of `resource_allocations.rs`: a proposal is checked against candidates and
current evidence, and Commit turns it into reservations, allocations and quota claims.
-/

namespace RoboGuide.Control

open Domain Lib
open Fallible (refuse okOr check checkAgainstEarlier)

variable (c : ControlPlane)

/-! ### Proposals -/

/-- One Role of `propose`. -/
def validateProposedRole (e : Evidence) (mission : MissionId) (candidates : CandidateSet)
    (assignments : List RoleAssignment) (role : RoleRequirement) : Except ControlError Unit := do
  let a ← okOr (assignments.find? fun a => a.roleId == role.roleId)
    (.invalidProposal s!"missing role {role.roleId}")
  let nodes ← okOr (candidates.roles.get? role.roleId)
    (.invalidProposal s!"missing candidates for role {role.roleId}")
  refuse (!nodes.contains a.nodeId) (.invalidProposal
    s!"node {a.nodeId} is not a candidate for role {role.roleId}")
  let node ← okOr (e.tenantNode mission a.nodeId) (.unknownNode a.nodeId)
  refuse (!e.eligible a.nodeId role none) (.assignmentUnavailable
    s!"node {a.nodeId} is no longer eligible for role {role.roleId}")
  match candidates.roleOperations.get? role.roleId with
  | some operation =>
    refuse (!node.operations.contains operation ||
        !e.gatesAllow a.nodeId role (some operation) .match_)
      (.assignmentUnavailable
        s!"node {a.nodeId} no longer supports operation {operation} for role {role.roleId}")
  | none => pure ()
  refuse (a.resourceIds.length != role.resources.length ||
      !(a.resourceIds.zip role.resources).all fun (id, demand) =>
        node.resources.any fun r => servesDemand r id demand)
    (.invalidProposal
      s!"role {role.roleId} resources do not exactly satisfy its declared kinds and capacities")

def proposedModes (assignments : List RoleAssignment) (roles : List RoleRequirement) :
    List (ResourceId × ResourceAllocationMode) :=
  roles.flatMap fun role =>
    (assignments.find? fun a => a.roleId == role.roleId).elim [] fun a =>
      (a.resourceIds.zip role.resources).map fun (id, demand) => (id, demand.allocationMode)

def checkAssignedOnce (earlier : List (ResourceId × ResourceAllocationMode))
    (entry : ResourceId × ResourceAllocationMode) : Except ControlError Unit :=
  refuse (earlier.any fun o => o.1 == entry.1 && !(o.2 == .divisible && entry.2 == .divisible))
    (.invalidProposal s!"resource {entry.1} is assigned more than once")

def constrainedEntity (candidates : CandidateSet) (actors : List ActorId) (a : RoleAssignment) :
    Except ControlError (Option (ActorId × PhysicalEntityId)) :=
  match (candidates.actors.get? a.roleId).filter actors.contains with
  | none => .ok none
  | some actor => do
    let entity ← okOr (candidates.physicalEntities.get? a.nodeId)
      (.invalidProposal s!"constrained role {a.roleId} has no physical entity selection")
    pure (some (actor, entity))

/-- Actors that must be distinct select distinct entities within the proposal. -/
def checkDistinctActors (candidates : CandidateSet) (assignments : List RoleAssignment)
    (actors : List ActorId) : Except ControlError Unit := do
  let _ ← assignments.foldlM (fun occupied a => do
    match ← constrainedEntity candidates actors a with
    | none => pure occupied
    | some (actor, entity) =>
      match occupied.get? entity with
      | some previous => throw (.invalidProposal
          s!"actors {previous} and {actor} select the same physical entity {entity}")
      | none => pure (occupied.insert entity actor)) (∅ : OrdMap PhysicalEntityId ActorId)

def propose (e : Evidence) (requirement : TaskRequirement) (candidates : CandidateSet)
    (assignments : List RoleAssignment) : ControlM AssignmentProposal := do
  check do
    refuse (candidates.taskRef != requirement.taskRef)
      (.invalidProposal "candidate set belongs to another task")
    refuse (assignments.length != requirement.roles.length)
      (.invalidProposal "proposal must assign every role exactly once")
    checkAgainstEarlier (fun earlier role => do
      validateProposedRole e requirement.taskRef.missionId candidates assignments role
      checkAgainstEarlier checkAssignedOnce (proposedModes assignments earlier)
        (proposedModes assignments [role])) [] requirement.roles
    candidates.distinctActorGroups.forM (checkDistinctActors candidates assignments)
  emit (.proposalCreated requirement.taskRef)
  pure
    { taskRef := requirement.taskRef
      assignments
      roleOperations := candidates.roleOperations
      roleRequirements := OrdMap.ofList (requirement.roles.map fun r => (r.roleId, r))
      rolePhysicalEntities := OrdMap.ofList (assignments.filterMap fun a =>
        (candidates.physicalEntities.get? a.nodeId).map fun entity => (a.roleId, entity)) }

/-! ### Quota batches -/

structure QuotaDemand where
  resourceId : ResourceId
  kind : ResourceKind
  units : Nat
deriving DecidableEq

def exclusiveDemands (resources : List ResourceId) (required : List ResourceRequirement) :
    List QuotaDemand :=
  ((resources.zip required).filter fun p => p.2.allocationMode == .exclusive).map fun p =>
    ⟨p.1, p.2.kind, p.2.units⟩

def proposalQuotaDemands (p : AssignmentProposal) : Except ControlError (List QuotaDemand) :=
  p.assignments.foldlM (fun demands a =>
    if a.resourceIds.isEmpty then .ok demands
    else do
      let role ← okOr (p.roleRequirements.get? a.roleId)
        (.invalidProposal "resource quota requires the original Role requirement")
      refuse (a.resourceIds.length != role.resources.length) (.invalidProposal
        "resource quota demand differs from exact Role resource requirements")
      pure (demands ++ exclusiveDemands a.resourceIds role.resources)) []

def resourceClaim (tenant : String) (d : QuotaDemand) : QuotaClaim where
  tenantId := tenant
  kind := d.kind
  units := d.units
  resourceId := some d.resourceId
  allocationId := none

/-- Quota errors surface as invalid proposals with the same text. -/
def liftQuota {α : Type} (x : Except QuotaError α) : Except ControlError α :=
  x.mapError fun e => .invalidProposal (toString e)

def trackDemands (tenant : String) (demands : List QuotaDemand) (q : QuotaLedger) :
    Except ControlError QuotaLedger :=
  demands.foldlM (fun q d =>
    liftQuota (q.trackResource (resourceClaimId d.resourceId) (resourceClaim tenant d))) q

namespace ControlPlane

def resourceQuotaTenant (mission : MissionId) :
    Except ControlError String :=
  match c.missionTenant mission with
  | some tenant => .ok tenant
  | none => do
    refuse c.nodeIdentityRegistered
      (.invalidProposal "resource quota requires immutable Mission tenant registration")
    pure "local"

def reservationQuotaTenant (r : Reservation) : Option String :=
  (c.missionTenant r.taskRef.missionId).or (if c.nodeIdentityRegistered then none else some "local")

/-- A held resource whose demand was never accounted and may belong to the tenant. -/
def unaccountedFor (tenant : String) : Bool :=
  c.quotaUnaccountedResources.keys.any fun id => (c.reservations.get? id).any fun r =>
    (c.reservationQuotaTenant r).all fun owner => owner == tenant

/-- `validate_resource_quotas`; returns the ledger the batch would leave. -/
def quotaCandidate (mission : MissionId) (demands : List QuotaDemand) :
    Except ControlError QuotaLedger :=
  if demands.isEmpty then .ok c.quotaLedger
  else do
    let tenant ← c.resourceQuotaTenant mission
    refuse (c.unaccountedFor tenant &&
        demands.any fun d => c.quotaLedger.hasLimit tenant d.kind)
      (.invalidProposal
        "legacy resource demand is unavailable for a tenant/category with a quota limit")
    trackDemands tenant demands c.quotaLedger

/-- The state `commit_resource_quotas` leaves, given the ledger it computed. -/
def commitResourceQuotas (demands : List QuotaDemand) (q : QuotaLedger) :
    ControlPlane :=
  { c with
    quotaLedger := q
    quotaUnaccountedResources := demands.foldl (fun s d => s.erase d.resourceId)
      c.quotaUnaccountedResources }

/-! ### Capacity batches -/

def parentUnits (group : ExecutionGroupId) (owner : AllocationOwner)
    (demand : ResourceRequirement) : Except ControlError Nat :=
  match owner with
  | .task _ => .ok demand.units
  | .context .. => okOr (c.contextCapacityUnits group owner demand.resourceClass)
      (.invalidProposal "original Context capacity envelope is absent")

def capacityRequest (group : ExecutionGroupId) (task : TaskRef)
    (tenant : String) (a : RoleAssignment) (node : NodeRegistration) (id : ResourceId)
    (demand : ResourceRequirement) : Except ControlError CapacityRequest := do
  refuse (demand.kind != .compute || !node.quantitative || c.reservations.contains id)
    (.assignmentUnavailable
      "quantitative resource contract is unavailable or exclusively owned")
  let resource ← okOr (node.resources.find? fun r => r.id == id)
    (.invalidProposal "selected resource validated")
  let owner ← c.capacityOwner group task a.roleId
  let parentUnits ← c.parentUnits group owner demand
  let resourceClass ← okOr demand.resourceClass
    (.invalidProposal "quantitative unit class is absent")
  pure { resourceId := id, resourceClass, nodeId := a.nodeId, groupId := group, taskRef := task,
         roleId := a.roleId, tenantId := tenant, owner, units := demand.units, parentUnits,
         capacity := resource.capacity }

def admitDemand (group : ExecutionGroupId) (task : TaskRef) (tenant : String)
    (a : RoleAssignment) (node : NodeRegistration) (batch : CapacityLedger × QuotaLedger)
    (d : ResourceId × ResourceRequirement) :
    Except ControlError (CapacityLedger × QuotaLedger) :=
  match d.2.allocationMode with
  | .exclusive => do
    refuse (decide (0 < batch.1.committedUnits d.1)) (.assignmentUnavailable
      "exclusive resource has retained quantitative owners")
    let quota ← liftQuota (batch.2.trackResource (resourceClaimId d.1)
      (resourceClaim tenant ⟨d.1, d.2.kind, d.2.units⟩))
    pure (batch.1, quota)
  | .divisible => do
    let request ← c.capacityRequest group task tenant a node d.1 d.2
    let (ledger, grant) ← batch.1.admitCapacity request
    let quota ← liftQuota (batch.2.trackResource (.allocation grant.allocationId)
      (allocationClaim { grant with tenantId := tenant, resourceId := d.1 } grant.allocationId))
    pure (ledger, quota)

def admitAssignment (e : Evidence) (group : ExecutionGroupId)
    (g : ExecutionGroup) (task : TaskRef) (tenant : String)
    (batch : CapacityLedger × QuotaLedger) (a : RoleAssignment) :
    Except ControlError (CapacityLedger × QuotaLedger) := do
  let role ← okOr (g.roleRequirement task a.roleId)
    (.invalidProposal "quantitative Commit original Role is absent")
  let node ← okOr (e.node a.nodeId) (.unknownNode a.nodeId)
  refuse (!c.selectedResourcesMatchRegistration node role a.resourceIds)
    (.assignmentUnavailable "selected resource allocation contract no longer matches")
  (a.resourceIds.zip role.resources).foldlM (c.admitDemand group task tenant a node) batch

/-- Does any assignment demand or select a divisible resource? -/
def anyShared (e : Evidence) (g : ExecutionGroup) (task : TaskRef)
    (assignments : List RoleAssignment) : Bool :=
  assignments.any fun a =>
    ((g.roleRequirement task a.roleId).any fun role =>
      role.resources.any fun d => d.allocationMode == .divisible) ||
    (e.node a.nodeId).any fun node => node.resources.any fun r =>
      a.resourceIds.contains r.id && r.allocationMode == .divisible

def capacityCommitCandidate (e : Evidence) (group : ExecutionGroupId)
    (task : TaskRef) (assignments : List RoleAssignment) :
    Except ControlError (Option (CapacityLedger × QuotaLedger)) := do
  let g ← lookupGroup c group
  if anyShared e g task assignments then
    let tenant ← okOr (c.missionTenant task.missionId)
      (.invalidProposal "quantitative Commit requires immutable Mission tenant")
    refuse (c.quotaLedger.hasLimit tenant .compute && c.unaccountedFor tenant)
      (.invalidProposal "legacy tenant demand is unavailable under quantitative quota")
    let batch ← assignments.foldlM (c.admitAssignment e group g task tenant)
      (c.capacityLedger, c.quotaLedger)
    c.validateCapacityCalendar e batch.1 task
    pure (some batch)
  else pure none

end ControlPlane

/-! ### Commit -/

/-- One assignment of `validate_current_assignment_support`. -/
def validateAssignmentSupport (e : Evidence) (p : AssignmentProposal)
    (a : RoleAssignment) : Except ControlError Unit := do
  match p.rolePhysicalEntities.get? a.roleId with
  | none => pure ()
  | some entity =>
    let node ← okOr (c.physicalEntityRegistry.bind (·.entity entity)) (.invalidProposal
      s!"physical entity {entity} is absent from current deployment registry")
    refuse (node != a.nodeId) (.invalidProposal
      s!"physical entity {entity} no longer routes through proposed node {a.nodeId}")
  let role ← okOr (p.roleRequirements.get? a.roleId)
    (.invalidProposal s!"proposal lacks requirement for role {a.roleId}")
  let operation := p.roleOperations.get? a.roleId
  refuse (!e.eligible a.nodeId role operation || !e.gatesAllow a.nodeId role operation .commit)
    (.assignmentUnavailable
      s!"node {a.nodeId} no longer satisfies capability and operation for role {a.roleId}")
  let node ← okOr (e.tenantNode p.taskRef.missionId a.nodeId) (.unknownNode a.nodeId)
  refuse (a.resourceIds.length != role.resources.length) (.invalidProposal
    s!"role {a.roleId} selected resource coverage differs from its requirements")
  (a.resourceIds.zip role.resources).forM fun (id, demand) =>
    refuse (!node.resources.any fun r => servesDemand r id demand) (.assignmentUnavailable
      (s!"selected resource {id} is absent or no longer satisfies role {a.roleId} " ++
        s!"on node {a.nodeId}"))

def validateTaskAssignments (t : TaskExecution) (assignments : List RoleAssignment) :
    Except ControlError Unit := do
  refuse (OrdSet.ofList t.roleScopes.keys != OrdSet.ofList (assignments.map (·.roleId)))
    (.invalidProposal "committed assignments must exactly cover TaskExecution roles")
  refuse (!decide (assignments.map (·.roleId)).Nodup)
    (.invalidProposal "committed assignments contain duplicate roles")

def exclusiveSelection (p : AssignmentProposal) (a : RoleAssignment) : List ResourceId :=
  match p.roleRequirements.get? a.roleId with
  | none => a.resourceIds
  | some role => (a.resourceIds.zipIdx.filter fun e =>
      (role.resources[e.2]?).all fun d => d.allocationMode != .divisible).map (·.1)

def demandsDivisible (p : AssignmentProposal) : Bool :=
  p.assignments.any fun a => (p.roleRequirements.get? a.roleId).any fun role =>
    role.resources.any fun d => d.allocationMode == .divisible

/-- A scheduled Task commits exactly its decision, inside its window. -/
def matchesSchedule (r : ScheduledTaskReservation) (group : ExecutionGroupId)
    (p : AssignmentProposal) (now : TimestampMs) : Bool :=
  r.groupId == group && r.phase == .scheduled && decide (r.decision.startsAt ≤ now) &&
    (r.decision.endsAt.all fun e => decide (now < e)) &&
    (r.decision.latestActivationAt.all fun l => decide (now ≤ l)) &&
    r.decision.proposedAssignments == p.assignments

def assignmentOwner (t : TaskExecution) (task : TaskRef) (role : RoleId) :
    Except ControlError AllocationOwner :=
  match t.roleScope role with
  | .task => .ok (.task task)
  | .context => do
    let contextRole ← okOr (t.contextRole role)
      (.invalidProposal "Context-scoped role has no ContextRole")
    pure (.context task.missionId t.contextId contextRole)

def checkResourceFree (group : ExecutionGroupId) (task : TaskRef)
    (owner : AllocationOwner) (id : ResourceId) : Except ControlError Unit := do
  match (c.reservations.get? id).or (c.capacityConflict id) with
  | some r =>
    refuse (r.owner != owner || r.groupId != some group)
      (.resourceConflict id r.taskRef r.roleId)
  | none => pure ()
  match c.scheduledResourceConflict id task with
  | some (ownerTask, ownerRole) => .error (.resourceConflict id ownerTask ownerRole)
  | none => pure ()

/-- The checks of `commit_for_group_validated` before the exclusive resources are scanned;
returns the Task. -/
def validateBeforeScan (e : Evidence) (group : ExecutionGroupId)
    (p : AssignmentProposal) (capacity : Option (CapacityLedger × QuotaLedger)) :
    Except ControlError TaskExecution := do
  refuse (capacity.isNone && demandsDivisible p) (.invalidProposal
    "quantitative Group Commit requires current State and its complete original capacity batch")
  let g ← lookupGroup c group
  let t ← okOr (g.taskExecution p.taskRef)
    (.invalidProposal "Task is absent from the Mission Group")
  refuse (t.lifecycle != .ready) (.invalidProposal "only a ready Task can commit resources")
  validateTaskAssignments t p.assignments
  refuse (p.assignments.any fun a => (g.roleRequirement p.taskRef a.roleId).any fun required =>
      p.roleRequirements.get? a.roleId != some required)
    (.invalidProposal "Commit requirements differ from the original Group Role")
  validateProposalPhysicalBindings c g t p
  refuse ((c.scheduledTask p.taskRef).any fun r => !matchesSchedule r group p e.now)
    (.invalidProposal
      "scheduled Task commit does not match its live Group decision and activation window")
  p.assignments.forM fun a => do
    let _ ← assignmentOwner t p.taskRef a.roleId
  pure t

/-- The scan of the exclusive resources of one assignment. -/
def scanAssignment (group : ExecutionGroupId) (p : AssignmentProposal) (t : TaskExecution)
    (a : RoleAssignment) : Except ControlError Unit := do
  let owner ← assignmentOwner t p.taskRef a.roleId
  (exclusiveSelection p a).forM (checkResourceFree c group p.taskRef owner)

/-- The checks of `commit_for_group_validated` before anything is written; returns the Task. -/
def validateGroupCommit (e : Evidence) (group : ExecutionGroupId)
    (p : AssignmentProposal) (capacity : Option (CapacityLedger × QuotaLedger)) :
    Except ControlError TaskExecution := do
  let t ← validateBeforeScan c e group p capacity
  p.assignments.forM (scanAssignment c group p t)
  pure t

def committedReservation (e : Evidence) (t : TaskExecution) (task : TaskRef)
    (role : RoleId) (owner : AllocationOwner) (id : ResourceId) : Reservation :=
  { topology := c.originalTopologyReservation e id task (t.roleScope role == .context)
    taskRef := task
    roleId := role
    groupId := none
    scope := t.roleScope role
    owner }

/-- `entry(id).or_insert`: a reservation the same Context already holds is kept. -/
def ControlPlane.reserve (id : ResourceId) (r : Reservation) : ControlPlane :=
  if c.reservations.contains id then c
  else { c with reservations := c.reservations.insert id r }

def reserveAssignment (e : Evidence) (t : TaskExecution) (p : AssignmentProposal)
    (c : ControlPlane) (a : RoleAssignment) : ControlPlane :=
  match assignmentOwner t p.taskRef a.roleId with
  | .error _ => c
  | .ok owner => (exclusiveSelection p a).foldl (fun c id =>
      c.reserve id (committedReservation c e t p.taskRef a.roleId owner id)) c

def commitLedgers (p : AssignmentProposal)
    (capacity : Option (CapacityLedger × QuotaLedger)) : Except ControlError ControlPlane :=
  match capacity with
  | some (ledger, quota) => do
    let version ← okOr (checkedSucc c.calendarVersion)
      (.invalidProposal "calendar generation exhausted")
    pure { c with capacityLedger := ledger, quotaLedger := quota, calendarVersion := version }
  | none => do
    let demands ← proposalQuotaDemands p
    let quota ← c.quotaCandidate p.taskRef.missionId demands
    pure (if demands.isEmpty then c else c.commitResourceQuotas demands quota)

def commitForGroupValidated (e : Evidence) (group : ExecutionGroupId) (p : AssignmentProposal)
    (capacity : Option (CapacityLedger × QuotaLedger)) : ControlM CommittedPlan := do
  let k ← get
  let t ← check (validateGroupCommit k.control e group p capacity)
  let charged ← check (commitLedgers k.control p capacity)
  modifyControl fun _ => p.assignments.foldl (reserveAssignment e t p) charged
  emit (.planCommitted p.taskRef)
  pure
    { taskRef := p.taskRef, assignments := p.assignments,
      rolePhysicalEntities := p.rolePhysicalEntities, roleOperations := p.roleOperations,
      decisionPolicyDigest := e.decisionPolicyDigest }

/-- The checks of `commit_for_group_with_state` that come before the audit event; returns the
capacity batch. -/
def validateCommitSupport (e : Evidence) (group : ExecutionGroupId)
    (p : AssignmentProposal) :
    Except ControlError (Option (CapacityLedger × QuotaLedger)) := do
  c.validateTopologyAssignments e p.taskRef p.assignments
  p.assignments.forM (validateAssignmentSupport c e p)
  let demands ← proposalQuotaDemands p
  let _ ← c.quotaCandidate p.taskRef.missionId demands
  c.capacityCommitCandidate e group p.taskRef p.assignments

/-- The policy receipts are recorded before the remaining
checks, so a refused Commit can leave that event behind. -/
def commitForGroupWithState (e : Evidence) (group : ExecutionGroupId) (p : AssignmentProposal) :
    ControlM CommittedPlan := do
  let k ← get
  let capacity ← check (validateCommitSupport k.control e group p)
  if e.hasReceipts p.taskRef then emit (.statePolicyDecision p.taskRef)
  commitForGroupValidated e group p capacity

/-! ### Commit outside a Group -/

/-- One resource of `commit_validated`: free, and not scheduled for another Task. -/
def checkResourceUnheld (task : TaskRef) (id : ResourceId) : Except ControlError Unit := do
  match (c.reservations.get? id).or (c.capacityConflict id) with
  | some held => .error (.resourceConflict id held.taskRef held.roleId)
  | none => pure ()
  match c.scheduledResourceConflict id task with
  | some (ownerTask, ownerRole) => .error (.resourceConflict id ownerTask ownerRole)
  | none => pure ()

def reserveStandalone (e : Evidence) (task : TaskRef) (c : ControlPlane) (a : RoleAssignment) :
    ControlPlane :=
  a.resourceIds.foldl (fun c id =>
    let r : Reservation :=
      { topology := c.originalTopologyReservation e id task false
        taskRef := task, roleId := a.roleId, groupId := none, scope := .task, owner := .task task }
    { c with reservations := c.reservations.insert id r }) c

/-- The checks of `commit_validated`; the quota demands and the ledger after them. -/
def validateStandaloneCommit (p : AssignmentProposal) :
    Except ControlError (List QuotaDemand × QuotaLedger) := do
  refuse (demandsDivisible p)
    (.invalidProposal "quantitative Commit requires its original Mission Group")
  refuse (c.scheduledTask p.taskRef).isSome
    (.invalidProposal "a scheduled Task must commit through its owning Execution Group")
  p.assignments.forM fun a => a.resourceIds.forM (checkResourceUnheld c p.taskRef)
  let demands ← proposalQuotaDemands p
  let quota ← c.quotaCandidate p.taskRef.missionId demands
  return (demands, quota)

/-- The checks of `commit_with_state` before the audit event. -/
def validateStandaloneSupport (e : Evidence) (p : AssignmentProposal) :
    Except ControlError Unit := do
  refuse (p.rolePhysicalEntities != ∅)
    (.invalidProposal "physical Actor assignments require Mission Group Commit")
  c.validateTopologyAssignments e p.taskRef p.assignments
  p.assignments.forM (validateAssignmentSupport c e p)
  let demands ← proposalQuotaDemands p
  let _ ← c.quotaCandidate p.taskRef.missionId demands

def commitValidated (e : Evidence) (p : AssignmentProposal) : ControlM CommittedPlan := do
  let k ← get
  let charges ← check (validateStandaloneCommit k.control p)
  modifyControl fun c => p.assignments.foldl (reserveStandalone e p.taskRef)
    (if charges.1.isEmpty then c else c.commitResourceQuotas charges.1 charges.2)
  emit (.planCommitted p.taskRef)
  pure
    { taskRef := p.taskRef, assignments := p.assignments,
      rolePhysicalEntities := p.rolePhysicalEntities, roleOperations := p.roleOperations,
      decisionPolicyDigest := e.decisionPolicyDigest }

def commitWithState (e : Evidence) (p : AssignmentProposal) : ControlM CommittedPlan := do
  let k ← get
  check (validateStandaloneSupport k.control e p)
  if e.hasReceipts p.taskRef then emit (.statePolicyDecision p.taskRef)
  commitValidated e p

end RoboGuide.Control
