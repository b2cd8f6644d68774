import RoboGuide.Control.Commit

/-!
# `RoboGuide.Control.Binding`: Mission Groups and Bind

`core/control/src/group/mission_binding.rs`: a Group is created from an accepted plan with
one execution per Task, a Task becomes ready, and a committed plan is bound into it.
-/

namespace RoboGuide.Control

open Domain Lib
open Fallible (refuse okOr check)

/-! ### Groups of a plan -/

/-- The nonempty capacity declarations of a plan. -/
def planEnvelopes (plan : MissionPlan) : List (CoordinationContextId × ContextRole) :=
  plan.contexts.flatMap fun c =>
    (c.roles.filter fun r => !r.resourceEnvelope.isEmpty).map fun r => (c.contextId, r)

def plannedExecution (plan : MissionPlan) (task : PlannedTask) : TaskExecution where
  taskRef := task.taskRef
  contextId := task.continuity.contextId
  couplingMode := task.continuity.couplingModeOverride.getD
    (((plan.contexts.find? fun c => c.contextId == task.continuity.contextId).map
      (·.couplingMode)).getD .independent)
  lifecycle := .pending
  assignments := []
  roleScopes := OrdMap.ofList (task.requirement.roles.map fun r =>
    (r.roleId, task.continuity.resourceScope r.roleId))
  contextRoles := task.continuity.contextRoles

/-- The Group `create_mission_group` registers. -/
def missionGroup (id : ExecutionGroupId) (plan : MissionPlan) (first : PlannedTask) :
    ExecutionGroup :=
  { ExecutionGroup.newMission id plan.missionId first.taskRef with
    contextResourceEnvelopes := planEnvelopes plan
    roleRequirements := OrdMap.ofList (plan.tasks.flatMap fun t =>
      t.requirement.roles.map fun r => (toLex (t.taskRef, r.roleId), r))
    taskExecutions := OrdMap.ofList (plan.tasks.map fun t =>
      (t.taskRef, plannedExecution plan t)) }

/-- `register_mission_binding_semantics`. -/
def registerBindingSemantics (mission : MissionId) (semantics : MissionBindingSemantics) :
    ControlM Unit := do
  let k ← get
  match k.control.missionBindingSemantics.get? mission with
  | some existing => check (refuse (existing != semantics) (.invalidProposal
      s!"mission {mission} binding semantics conflict with the accepted plan"))
  | none => modifyControl fun c =>
      { c with missionBindingSemantics := c.missionBindingSemantics.insert mission semantics }

def createMissionGroup (id : ExecutionGroupId) (plan : MissionPlan) : ControlM Unit := do
  let k ← get
  check (refuse (k.control.groups.contains id)
    (.invalidProposal "execution group identity already exists"))
  registerBindingSemantics plan.missionId plan.bindingSemantics
  let first ← check (okOr plan.tasks.head? (.invalidProposal "validated Task Graph is nonempty"))
  let group := missionGroup id plan first
  emit (.executionGroupCreated id plan.missionId)
  modifyControl (·.setGroup id group)
  group.taskExecutions.values.forM fun t =>
    emit (.taskExecutionRegistered id t.taskRef t.contextId)

def readyTaskExecution (id : ExecutionGroupId) (task : TaskRef) : ControlM Unit :=
  moveTask id task (· == .pending) "only a pending Task can become ready" .ready
    (.taskExecutionReady id task)

/-! ### Bind -/

def bindableReservation (t : TaskExecution) (task : TaskRef) (role : RoleId)
    (group : ExecutionGroupId) (r : Reservation) : Bool :=
  match t.roleScope role with
  | .task => r.taskRef == task && r.roleId == role && r.groupId.isNone && r.owner == .task task
  | .context => (t.contextRole role).any fun contextRole =>
      r.scope == .context && r.owner == .context task.missionId t.contextId contextRole &&
        r.groupId.all fun g => g == group

/-- The checks of one assignment of `bind_task_execution_validated`. -/
def validateBindable (c : ControlPlane) (group : ExecutionGroupId) (t : TaskExecution)
    (task : TaskRef) (a : RoleAssignment) : Except ControlError Unit :=
  a.resourceIds.forM fun id => do
    let r ← okOr (c.bindingReservation id group task a.roleId)
      (.invalidProposal s!"committed resource {id} has no reservation")
    refuse (!bindableReservation t task a.roleId group r)
      (.invalidProposal s!"resource {id} is not a valid reservation for this Task")

/-- A ContextRole that is already bound keeps its node and resources. -/
def validateContextUnchanged (g : ExecutionGroup) (t : TaskExecution) (a : RoleAssignment) :
    Except ControlError Unit :=
  if t.roleScope a.roleId != .context then .ok ()
  else
    let existing := (t.contextRole a.roleId).bind fun r => g.contextBinding t.contextId r
    refuse (existing.any fun b => b.assignment.nodeId != a.nodeId ||
        b.assignment.resourceIds != a.resourceIds)
      (.invalidProposal "ContextRole binding changed across Tasks")

/-- The checks of `bind_task_execution_validated`. -/
def validateBind (c : ControlPlane) (e : Evidence) (group : ExecutionGroupId)
    (plan : CommittedPlan) :
    Except ControlError (ExecutionGroup × TaskExecution × OrdMap ActorId ActorBinding) := do
  let g ← lookupGroup c group
  let task := plan.taskRef
  refuse (plan.assignments.any fun a => !e.nodeTenantAllowed task.missionId a.nodeId)
    (.invalidProposal "Task binding crosses tenant authority")
  refuse (g.missionId != task.missionId)
    (.invalidProposal "Task belongs to another Mission than its Execution Group")
  let t ← okOr (g.taskExecution task) (.invalidProposal "Task is absent from the Mission DAG")
  refuse (t.lifecycle != .ready)
    (.invalidProposal "only a ready Task execution can accept committed bindings")
  validateTaskAssignments t plan.assignments
  let actors ← validateAuthoritativeActorAssignments c g plan
  refuse (!t.assignments.isEmpty)
    (.invalidProposal "Task execution already has committed bindings")
  plan.assignments.forM (validateBindable c group t task)
  plan.assignments.forM (validateContextUnchanged g t)
  pure (g, t, actors)

def bindReservations (group : ExecutionGroupId) (plan : CommittedPlan) (c : ControlPlane) :
    ControlPlane :=
  plan.assignments.foldl (fun c a => a.resourceIds.foldl (fun c id =>
    c.updateBindingReservation id group plan.taskRef a.roleId fun r =>
      { r with groupId := some group }) c) c

/-- `entry(key).or_insert`: the first Role that holds a resource of a ContextRole binds it. -/
def bindContext (t : TaskExecution) (task : TaskRef) (bindings : OrdMap String ContextBinding)
    (a : RoleAssignment) : OrdMap String ContextBinding :=
  if t.roleScope a.roleId = .context ∧ a.resourceIds ≠ [] then
    match t.contextRole a.roleId with
    | none => bindings
    | some contextRole =>
      let key := contextBindingKey t.contextId contextRole
      if bindings.contains key then bindings
      else bindings.insert key ⟨t.contextId, contextRole, task, a⟩
  else bindings

def boundGroup (g : ExecutionGroup) (t : TaskExecution) (plan : CommittedPlan) :
    ExecutionGroup :=
  { g.setTask plan.taskRef (t.withAssignments plan.assignments) with
    contextBindings := plan.assignments.foldl (bindContext t plan.taskRef) g.contextBindings }

/-- `entry(actor).or_insert` for the Actors of the Task, each with its event. -/
def bindActors (mission : MissionId) (task : TaskRef) (group : ExecutionGroupId)
    (actors : OrdMap ActorId ActorBinding) : ControlM Unit :=
  actors.entries.forM fun (actor, binding) => do
    modifyControl fun c =>
      if c.actorBindings.contains (actorKey mission actor) then c
      else { c with actorBindings := c.actorBindings.insert (actorKey mission actor) binding }
    emit (.missionActorBound mission actor binding.nodeId task group)

def bindTaskExecutionValidated (e : Evidence) (group : ExecutionGroupId) (plan : CommittedPlan) :
    ControlM Unit := do
  let k ← get
  let (g, t, actors) ← check (validateBind k.control e group plan)
  modifyControl (bindReservations group plan)
  storeGroup group (boundGroup g t plan)
  emit (.executionGroupBound group plan.taskRef)
  bindActors plan.taskRef.missionId plan.taskRef group actors

/-- The evidence checks of `bind_task_execution_with_state`. -/
def validateBindEvidence (c : ControlPlane) (e : Evidence) (group : ExecutionGroupId)
    (plan : CommittedPlan) : Except ControlError Unit := do
  refuse (!c.boundTopologyAllowed plan.taskRef plan.assignments e.now)
    (.assignmentUnavailable "original topology interval no longer permits binding")
  refuse (plan.decisionPolicyDigest != e.decisionPolicyDigest)
    (.assignmentUnavailable "State policy changed after Commit")
  let g ← lookupGroup c group
  plan.assignments.forM fun a => do
    let role ← okOr (g.roleRequirement plan.taskRef a.roleId)
      (.invalidProposal "Bind Role is absent")
    let operation := plan.roleOperations.get? a.roleId
    refuse
      ((!(e.node a.nodeId).any fun node =>
          c.selectedResourcesMatchRegistration node role a.resourceIds) ||
        !e.eligible a.nodeId role none ||
        (operation.any fun o => !e.eligible a.nodeId role (some o)) ||
        !e.gatesAllow a.nodeId role operation .commit ||
        !e.gatesAllow a.nodeId role operation .bind)
      (.assignmentUnavailable "Bind source evidence is no longer admissible")

def bindTaskExecutionWithState (e : Evidence) (group : ExecutionGroupId) (plan : CommittedPlan) :
    ControlM Unit := do
  let k ← get
  check (validateBindEvidence k.control e group plan)
  bindTaskExecutionValidated e group plan
  plan.assignments.forM fun _ =>
    if e.hasReceipts plan.taskRef then emit (.statePolicyDecision plan.taskRef) else pure ()

end RoboGuide.Control
