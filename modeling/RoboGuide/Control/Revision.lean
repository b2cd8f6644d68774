import RoboGuide.Control.Binding

/-!
# `RoboGuide.Control.Revision`: replacing a blocked Group by one of a revised plan

`core/control/src/group/revision.rs` with `validate_mission_group_plan`: the new Group is
built and the old one released on a copy, so a refused revision changes nothing.
-/

namespace RoboGuide.Control

open Domain Lib
open Fallible (refuse okOr check)

def validateGroupTaskRequirement (group : ExecutionGroup) (requirement : TaskRequirement) :
    Except ControlError Unit :=
  let expected := (group.roleRequirements.entries.filter fun e =>
    (ofLex e.1).1 == requirement.taskRef).map fun e => ((ofLex e.1).2, e.2)
  refuse (!expected.isEmpty && OrdMap.ofList expected !=
      OrdMap.ofList (requirement.roles.map fun r => (r.roleId, r)))
    (.invalidProposal "Task requirement differs from authoritative Execution Group role metadata")

/-- One Task of `validate_mission_group_plan`. -/
def validatePlannedTask (group : ExecutionGroup) (plan : MissionPlan) (task : PlannedTask) :
    Except ControlError Unit := do
  validateGroupTaskRequirement group task.requirement
  let execution ← okOr (group.taskExecution task.taskRef)
    (.invalidProposal "TaskRef sets were validated above")
  let planned := plannedExecution plan task
  refuse (execution.contextId != planned.contextId ||
      execution.roleScopes != planned.roleScopes ||
      execution.contextRoles != planned.contextRoles ||
      execution.couplingMode != planned.couplingMode)
    (.invalidProposal "MissionPlan continuity differs from the restored TaskExecution")

/-- One Context binding of `validate_mission_group_plan`. -/
def validatePlannedContext (group : ExecutionGroup) (plan : MissionPlan)
    (e : String × ContextBinding) : Except ControlError Unit := do
  let b := e.2
  let context ← okOr (plan.contexts.find? fun c => c.contextId == b.contextId)
    (.invalidProposal "restored Context binding is absent from the MissionPlan")
  let contextRole ← okOr (context.role b.contextRoleId)
    (.invalidProposal "restored ContextRole binding is absent from the MissionPlan")
  let origin ← okOr (group.taskExecution b.originTaskRef)
    (.invalidProposal "restored Context binding origin Task is absent")
  let role ← okOr (group.roleRequirement b.originTaskRef b.assignment.roleId)
    (.invalidProposal "restored Context binding origin role is absent")
  refuse (e.1 != contextBindingKey b.contextId b.contextRoleId ||
      origin.contextId != b.contextId ||
      origin.contextRole b.assignment.roleId != some b.contextRoleId ||
      origin.roleScope b.assignment.roleId != .context ||
      role.actorId != some contextRole.actorId)
    (.invalidProposal "restored Context binding differs from MissionPlan continuity")

def validateMissionGroupPlan (c : ControlPlane) (id : ExecutionGroupId) (plan : MissionPlan) :
    Except ControlError Unit := do
  let group ← lookupGroup c id
  refuse (group.missionId != plan.missionId || group.taskExecutions == ∅)
    (.invalidProposal "MissionPlan does not identify this Mission-level Group")
  refuse (OrdSet.ofList (plan.tasks.map (·.taskRef)) != OrdSet.ofList group.taskExecutions.keys)
    (.invalidProposal "MissionPlan Task DAG differs from the restored Execution Group")
  refuse (group.contextResourceEnvelopes != planEnvelopes plan) (.invalidProposal
    "restored Context capacity declarations differ from accepted MissionPlan")
  plan.tasks.forM (validatePlannedTask group plan)
  group.contextBindings.entries.forM (validatePlannedContext group plan)

def completedTasks (g : ExecutionGroup) : List TaskId :=
  (g.taskExecutions.values.filter fun t => t.lifecycle == .completed).map (·.taskRef.taskId)

def plannedTask (plan : MissionPlan) (task : TaskId) : Option PlannedTask :=
  plan.tasks.find? fun t => t.taskId == task

/-- The checks of `supersede_mission_group` on the old Group; returns its satisfied Tasks. The
goal of a plan is its Mission and objective. -/
def validateRevision (c : ControlPlane) (source target : ExecutionGroupId)
    (sourcePlan targetPlan : MissionPlan) : Except ControlError (List TaskId) := do
  validateMissionGroupPlan c source sourcePlan
  let group ← lookupGroup c source
  refuse (group.lifecycle != .blocked || group.supersededBy.isSome || source == target ||
      c.groups.contains target || sourcePlan.missionId != targetPlan.missionId ||
      sourcePlan.objective != targetPlan.objective ||
      sourcePlan.actors != targetPlan.actors ||
      sourcePlan.bindingSemantics != targetPlan.bindingSemantics)
    (.invalidProposal "revision source, target, original goal or Actor binding contract is invalid")
  (completedTasks group).forM fun task =>
    refuse ((plannedTask sourcePlan task).isNone ||
        plannedTask sourcePlan task != plannedTask targetPlan task)
      (.invalidProposal "revision changed or removed an actually satisfied Task")
  pure (completedTasks group)

/-- Tasks satisfied before the revision stay satisfied. -/
def carryCompleted (completed : List TaskId) (g : ExecutionGroup) : ExecutionGroup :=
  { g with taskExecutions := g.taskExecutions.mapValues fun _ t =>
      if completed.contains t.taskRef.taskId then t.withLifecycle .completed else t }

/-- The Group `id` is rewritten in place. -/
def modifyGroup (id : ExecutionGroupId) (f : ExecutionGroup → ExecutionGroup) : ControlM Unit :=
  modifyControl fun c => { c with groups := c.groups.modify id f }

/-- What `supersede_mission_group` does to its copy. -/
def reviseCandidate (source target : ExecutionGroupId) (targetPlan : MissionPlan)
    (completed : List TaskId) : ControlM Unit := do
  createMissionGroup target targetPlan
  modifyGroup target (carryCompleted completed)
  let k ← get
  check (validateMissionGroupPlan k.control target targetPlan)
  modifyGroup source fun g => { g with supersededBy := some target, lifecycle := .superseded }
  releaseGroup source

def supersedeMissionGroup (source target : ExecutionGroupId)
    (sourcePlan targetPlan : MissionPlan) : ControlM (List TaskId) := do
  let k ← get
  let completed ← check (validateRevision k.control source target sourcePlan targetPlan)
  match reviseCandidate source target targetPlan completed k with
  | .ok _ candidate => set candidate
  | .error e _ => throw e
  pure completed

end RoboGuide.Control
