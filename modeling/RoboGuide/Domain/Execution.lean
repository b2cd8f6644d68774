import RoboGuide.Domain.Plan

/-!
# `RoboGuide.Domain.Execution`: Task executions, ownership and actor bindings

`core/domain/src/{task_execution,role_assignment,allocation,resource_grant,actor,
physical_entity}.rs`: the values Control stores about running Tasks, the resources they
hold and the physical executors of their Actors.
-/

namespace RoboGuide.Domain

open Lib

/-! ### Task executions -/

inductive TaskExecutionLifecycle where
  | pending | ready | active | blocked | awaitingSatisfaction | completed | failed
  | satisfactionRejected | cancelled
deriving DecidableEq, Repr

structure RoleAssignment where
  roleId : RoleId
  nodeId : NodeId
  resourceIds : List ResourceId
deriving DecidableEq

/-- One Task of a Mission-level Group. -/
structure TaskExecution where
  taskRef : TaskRef
  contextId : CoordinationContextId
  couplingMode : ExecutionCouplingMode
  lifecycle : TaskExecutionLifecycle
  assignments : List RoleAssignment
  roleScopes : OrdMap RoleId ResourceBindingScope
  contextRoles : OrdMap RoleId ContextRoleId
deriving DecidableEq

namespace TaskExecution

/-- The declared lifetime of a Role's resources; `Task` unless declared. -/
def roleScope (t : TaskExecution) (role : RoleId) : ResourceBindingScope :=
  (t.roleScopes.get? role).getD .task

def contextRole (t : TaskExecution) (role : RoleId) : Option ContextRoleId :=
  t.contextRoles.get? role

def withAssignments (t : TaskExecution) (assignments : List RoleAssignment) : TaskExecution :=
  { t with assignments }

def withLifecycle (t : TaskExecution) (lifecycle : TaskExecutionLifecycle) : TaskExecution :=
  { t with lifecycle }

end TaskExecution

/-! ### Ownership -/

inductive AllocationOwner where
  | task (taskRef : TaskRef)
  | context (missionId : MissionId) (contextId : CoordinationContextId)
      (contextRoleId : ContextRoleId)

def AllocationOwner.scope : AllocationOwner → ResourceBindingScope
  | .task _ => .task
  | .context .. => .context

/-- The text that orders owners; the source orders their JSON form. -/
def AllocationOwner.key : AllocationOwner → List String
  | .task t => [t.missionId.text, t.taskId.text]
  | .context m c r => [m.text, c.text, r.text]

lemma AllocationOwner.key_injective : Function.Injective AllocationOwner.key := by
  rintro (⟨⟨_, _⟩, ⟨_, _⟩⟩ | ⟨⟨_, _⟩, ⟨_, _⟩, ⟨_, _⟩⟩)
      (⟨⟨_, _⟩, ⟨_, _⟩⟩ | ⟨⟨_, _⟩, ⟨_, _⟩, ⟨_, _⟩⟩) h
  all_goals simp_all [AllocationOwner.key]

instance : LinearOrder AllocationOwner :=
  LinearOrder.lift' AllocationOwner.key AllocationOwner.key_injective

/-- Identity of a quantitative allocation. The source digests these values with SHA-256;
the digest is represented by what it digests, so equal identities mean equal values. -/
structure AllocationId where
  numbers : List Nat
  texts : List String

namespace AllocationId

/-- The pair that orders allocation identities. -/
def key (a : AllocationId) : List Nat ×ₗ List String := toLex (a.numbers, a.texts)

lemma key_injective : Function.Injective key := by
  rintro ⟨n, t⟩ ⟨n', t'⟩ h
  obtain ⟨rfl, rfl⟩ := Prod.mk.inj (toLex_inj.mp h)
  rfl

instance : LinearOrder AllocationId := LinearOrder.lift' key key_injective

end AllocationId

structure ResourceAllocationGrant where
  allocationId : AllocationId
  generation : Nat
  resourceId : ResourceId
  resourceClass : String
  nodeId : NodeId
  groupId : ExecutionGroupId
  owner : AllocationOwner
  tenantId : String
  taskRef : TaskRef
  roleId : RoleId
  units : Nat
  allocationUnits : Nat
  admittedCapacity : Nat
deriving DecidableEq

namespace ResourceAllocationGrant

/-- Everything of the grant but the borrowing Task, Role and
units; the Role of a Task-owned grant is part of the identity. -/
def originalAllocationId (g : ResourceAllocationGrant) : AllocationId where
  numbers := [g.generation, g.allocationUnits, g.admittedCapacity]
  texts := [g.resourceId.text, g.resourceClass, g.nodeId.text, g.groupId.text] ++
    (match g.owner with
      | .task t => ["task", t.missionId.text, t.taskId.text, g.roleId.text]
      | .context m c r => ["context", m.text, c.text, r.text]) ++ [g.tenantId]

/-- `validate`. -/
def valid (g : ResourceAllocationGrant) : Bool :=
  decide (0 < g.generation) && decide (0 < g.units) && decide (g.units ≤ g.allocationUnits) &&
    decide (g.allocationUnits ≤ g.admittedCapacity) &&
    !isBlank g.resourceClass && decide (g.resourceClass.utf8ByteSize ≤ 128) &&
    !isBlank g.tenantId && decide (g.tenantId.utf8ByteSize ≤ 128) &&
    g.allocationId == g.originalAllocationId &&
    (match g.owner with
      | .task t => t == g.taskRef
      | .context m _ _ => m == g.taskRef.missionId)

end ResourceAllocationGrant

/-! ### Actors and physical entities -/

structure ActorBinding where
  missionId : MissionId
  actorId : ActorId
  nodeId : NodeId
  physicalEntityId : Option PhysicalEntityId
  registryId : Option PhysicalEntityRegistryId
  registryRevision : Option Nat
deriving DecidableEq

structure PhysicalEntityRegistrySnapshot where
  registryId : PhysicalEntityRegistryId
  revision : Nat
  /-- The node each entity is reached through. -/
  entities : OrdMap PhysicalEntityId NodeId
  one_entity_per_node : entities.values.Nodup
deriving DecidableEq

namespace PhysicalEntityRegistrySnapshot

def entity (r : PhysicalEntityRegistrySnapshot) (id : PhysicalEntityId) : Option NodeId :=
  r.entities.get? id

def entityForNode (r : PhysicalEntityRegistrySnapshot) (node : NodeId) :
    Option PhysicalEntityId :=
  (r.entities.entries.find? fun e => e.2 == node).map (·.1)

end PhysicalEntityRegistrySnapshot

end RoboGuide.Domain
