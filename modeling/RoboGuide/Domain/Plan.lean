import RoboGuide.Domain.Resource

/-!
# `RoboGuide.Domain.Plan`: accepted Mission plans

The parts of `core/domain/src/{task_requirement,context,actor,mission}.rs` that Control and
orchestration read. Every check a constructor of the source makes is a Boolean test here,
and the structure carries the test's success as a field: a plan that the constructors
refuse cannot be built. `MissionPlan.valid` is `MissionPlan::new_with_actors`.

A Role's capability contracts are only compared and handed to the eligibility test, so they
stay texts. Execution relations, shared views, peer channels, memories and intents are read
by the runtime and by matching, not by the functions modelled here.
-/

namespace RoboGuide.Domain

open Lib

/-! ### Requirements -/

/-- A class text usable by a quantitative demand. -/
def validResourceClass (c : Option String) : Bool :=
  c.any fun value => !isBlank value && decide (value.utf8ByteSize ≤ 128)

structure RoleRequirement where
  roleId : RoleId
  actorId : Option ActorId
  contracts : List String
  resources : List ResourceRequirement
  /-- The constructors refuse two demands of one kind. -/
  kinds_distinct : (resources.map (·.kind)).Nodup
deriving DecidableEq

structure TaskTiming where
  earliestStartOffsetMs : Nat
  latestStartOffsetMs : Option Nat
  completionDeadlineOffsetMs : Option Nat
  estimatedDurationMs : Option Nat
deriving DecidableEq

structure TaskRequirement where
  taskRef : TaskRef
  roles : List RoleRequirement
  timing : TaskTiming
  roles_nonempty : roles ≠ []
  roles_distinct : (roles.map (·.roleId)).Nodup
deriving DecidableEq

/-! ### Contexts and actors -/

/-- How long a bound resource is held. -/
inductive ResourceBindingScope where
  | task | context
deriving DecidableEq, Repr

inductive ExecutionCouplingMode where
  | independent | sequentialHandoff | concurrentCooperation | tightlyCoupledCooperation
deriving DecidableEq, Repr

/-- One demand of a Context envelope: typed, positive, divisible Compute. -/
def validEnvelopeDemand (d : ResourceRequirement) : Bool :=
  d.kind == .compute && d.allocationMode == .divisible && validResourceClass d.resourceClass

structure ContextRole where
  contextRoleId : ContextRoleId
  actorId : ActorId
  resourceEnvelope : List ResourceRequirement
  envelope_valid : resourceEnvelope.length ≤ 1 ∧ resourceEnvelope.all validEnvelopeDemand = true
deriving DecidableEq

lemma ContextRole.no_envelope :
    ([] : List ResourceRequirement).length ≤ 1 ∧ [].all validEnvelopeDemand = true := by simp

structure CoordinationContext where
  contextId : CoordinationContextId
  roles : List ContextRole
  executorConstraints : List (OrdSet ContextRoleId)
  couplingMode : ExecutionCouplingMode
deriving DecidableEq

namespace CoordinationContext

def role (c : CoordinationContext) (id : ContextRoleId) : Option ContextRole :=
  c.roles.find? fun r => r.contextRoleId == id

/-- The Actors of a constraint; `none` when it names an unknown ContextRole. -/
def constraintActors (c : CoordinationContext) (ids : OrdSet ContextRoleId) :
    Option (List ActorId) :=
  ids.keys.mapM fun id => (c.role id).map (·.actorId)

/-- `new` and `with_executor_constraints`: distinct roles; each constraint names at least
two known ContextRoles of pairwise different Actors; no constraint is repeated. -/
def valid (c : CoordinationContext) : Bool :=
  decide (c.roles.map (·.contextRoleId)).Nodup &&
    c.executorConstraints.all (fun ids => decide (2 ≤ ids.keys.length) &&
      (c.constraintActors ids).any fun actors => decide actors.Nodup) &&
    decide c.executorConstraints.Nodup

end CoordinationContext

structure TaskContinuity where
  contextId : CoordinationContextId
  contextRoles : OrdMap RoleId ContextRoleId
  resourceScopes : OrdMap RoleId ResourceBindingScope
  couplingModeOverride : Option ExecutionCouplingMode
deriving DecidableEq

/-- The lifetime of one Role's resources; `Task` unless declared. -/
def TaskContinuity.resourceScope (c : TaskContinuity) (role : RoleId) : ResourceBindingScope :=
  (c.resourceScopes.get? role).getD .task

structure MissionActor where
  id : ActorId
  physicalEntity : Option PhysicalEntityId
deriving DecidableEq

/-! ### Tasks and plans -/

inductive TaskSatisfactionBasis where
  | executionReport
  | verifierEvidence (verifier predicate : String) (maxEvidenceAgeMs : Nat)
deriving DecidableEq, Repr

structure PlannedTask where
  /-- Description, execution intents and expected effect; Control only compares them. -/
  declaration : String
  requirement : TaskRequirement
  dependencies : List TaskId
  continuity : TaskContinuity
  satisfactionBasis : TaskSatisfactionBasis
  /-- Dependencies are distinct and do not name the Task itself. -/
  dependencies_valid : dependencies.Nodup ∧ requirement.taskRef.taskId ∉ dependencies
  /-- Continuity mentions only Roles of the Task. -/
  continuity_valid : ∀ r ∈ continuity.contextRoles.keys ++ continuity.resourceScopes.keys,
    r ∈ requirement.roles.map (·.roleId)
deriving DecidableEq

namespace PlannedTask

def taskRef (t : PlannedTask) : TaskRef := t.requirement.taskRef

def taskId (t : PlannedTask) : TaskId := t.taskRef.taskId

end PlannedTask

/-- Remove Tasks without open prerequisites until none is left; `false` on a cycle. Each
round removes at least one entry, so the number of entries bounds the rounds. -/
def drainsWithin : Nat → List (TaskId × List TaskId) → Bool
  | _, [] => true
  | 0, _ :: _ => false
  | fuel + 1, remaining =>
    let ready := (remaining.filter (·.2.isEmpty)).map (·.1)
    if ready.isEmpty then false
    else drainsWithin fuel ((remaining.filter fun e => !ready.contains e.1).map
      fun e => (e.1, e.2.filter fun d => !ready.contains d))

/-- `TaskGraph::new`: nonempty, one Mission, distinct ids, known dependencies, no cycle. -/
def taskGraphValid (mission : MissionId) (tasks : List PlannedTask) : Bool :=
  !tasks.isEmpty && tasks.all (fun t => t.taskRef.missionId == mission) &&
    decide (tasks.map (·.taskId)).Nodup &&
    tasks.all (fun t => t.dependencies.all fun d => (tasks.map (·.taskId)).contains d) &&
    drainsWithin tasks.length (tasks.map fun t => (t.taskId, t.dependencies))

/-- `TaskGraph::ready_tasks`: the open Tasks whose prerequisites are completed. -/
def TaskGraph.readyTasks (tasks : List PlannedTask) (completed : OrdSet TaskId) :
    List PlannedTask :=
  tasks.filter fun t => !completed.contains t.taskId && t.dependencies.all completed.contains

/-- The divisible demands of a Role are typed Compute and, for a Context-scoped Role, fit
the envelope its ContextRole declares. -/
def divisibleDemandsValid (context : CoordinationContext) (continuity : TaskContinuity)
    (role : RoleRequirement) : Bool :=
  role.resources.all fun demand =>
    demand.allocationMode ≠ .divisible ||
      (demand.kind == .compute && validResourceClass demand.resourceClass &&
        (continuity.resourceScope role.roleId ≠ .context ||
          (((continuity.contextRoles.get? role.roleId).bind context.role).bind fun cr =>
            cr.resourceEnvelope.find? fun item =>
              item.kind == demand.kind && item.resourceClass == demand.resourceClass).any
            fun limit => decide (demand.units ≤ limit.units)))

/-- One Task against the declared contexts: its context exists, its ContextRoles are known
and fill the same Actor, Context-scoped Roles have a ContextRole, and divisible demands are
covered. -/
def plannedTaskValid (contexts : List CoordinationContext) (task : PlannedTask) : Bool :=
  match contexts.find? fun c => c.contextId == task.continuity.contextId with
  | none => false
  | some context =>
    task.continuity.contextRoles.entries.all (fun e =>
      (context.role e.2).any fun cr =>
        ((task.requirement.roles.find? fun r => r.roleId == e.1).bind (·.actorId))
          == some cr.actorId) &&
    task.continuity.resourceScopes.entries.all (fun e =>
      e.2 ≠ .context || (task.continuity.contextRoles.get? e.1).isSome) &&
    task.requirement.roles.all (divisibleDemandsValid context task.continuity)

/-- `MissionPlan::new_with_actors`. -/
def missionPlanValid (mission : MissionId) (actors : List MissionActor)
    (tasks : List PlannedTask) (contexts : List CoordinationContext) : Bool :=
  taskGraphValid mission tasks && contexts.all (·.valid) &&
    decide (contexts.map (·.contextId)).Nodup && decide (actors.map (·.id)).Nodup &&
    contexts.all (fun c => c.roles.all fun r => (actors.map (·.id)).contains r.actorId) &&
    tasks.all (plannedTaskValid contexts)

structure MissionPlan where
  missionId : MissionId
  /-- The outcome of the goal. -/
  objective : String
  actors : List MissionActor
  tasks : List PlannedTask
  contexts : List CoordinationContext
  valid : missionPlanValid missionId actors tasks contexts = true
deriving DecidableEq

namespace MissionPlan

def task (p : MissionPlan) (ref : TaskRef) : Option PlannedTask :=
  p.tasks.find? fun t => t.taskRef == ref

end MissionPlan

/-! ### Binding semantics -/

structure ContextPhysicalBindingConstraint where
  contextId : CoordinationContextId
  contextRoleIds : OrdSet ContextRoleId
  actorIds : OrdSet ActorId
deriving DecidableEq

structure MissionBindingSemantics where
  actorGrounding : OrdMap ActorId PhysicalEntityId
  contextConstraints : List ContextPhysicalBindingConstraint
deriving DecidableEq

namespace MissionBindingSemantics

/-- The rules a plan declares. -/
def collect (actors : List MissionActor) (contexts : List CoordinationContext) :
    MissionBindingSemantics where
  actorGrounding := OrdMap.ofList
    (actors.filterMap fun a => a.physicalEntity.map fun e => (a.id, e))
  contextConstraints := contexts.flatMap fun c => c.executorConstraints.map fun ids =>
    { contextId := c.contextId
      contextRoleIds := ids
      actorIds := OrdSet.ofList ((c.constraintActors ids).getD []) }

/-- The other Actors that must not share an entity with `actor` in `context`. -/
def distinctPeers (s : MissionBindingSemantics) (context : CoordinationContextId)
    (actor : ActorId) : List ActorId :=
  (OrdSet.ofList ((s.contextConstraints.filter fun c =>
      c.contextId == context && c.actorIds.contains actor).flatMap (·.actorIds.keys))).keys.filter
    (· ≠ actor)

/-- Whether any rule speaks about physical entities. -/
def requiresPhysicalEntities (s : MissionBindingSemantics) : Bool :=
  !s.actorGrounding.keys.isEmpty || !s.contextConstraints.isEmpty

end MissionBindingSemantics

def MissionPlan.bindingSemantics (p : MissionPlan) : MissionBindingSemantics :=
  .collect p.actors p.contexts

end RoboGuide.Domain
