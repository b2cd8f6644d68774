import RoboGuide.Control.Recovery

/-!
# `RoboGuide.Control.Checkpoint`: what a restored Control Plane must satisfy

`core/control/src/group/checkpoint.rs`: the checks `ControlPlane::restore` runs on Groups
and recovery commitments.
-/

namespace RoboGuide.Control

open Domain Lib
open Fallible (refuse okOr check checkAgainstEarlier)

/-! ### Groups -/

def validateCheckpointActorAssignment (c : ControlPlane) (group : ExecutionGroup)
    (task : TaskRef) (roleId : RoleId) (node : NodeId) : Except ControlError Unit := do
  let role ← okOr (group.roleRequirement task roleId)
    (.invalidProposal "checkpoint assignment lacks authoritative role metadata")
  match role.actorId with
  | none => pure ()
  | some actor =>
    refuse (c.actorAuthorityNode task.missionId actor != some node)
      (.invalidProposal "checkpoint assignment violates Actor binding or placement authority")

def unboundOf (group : ExecutionGroup) (task : TaskRef) : List (RoleId × UnboundRole) :=
  (group.taskUnboundRoles.entries.filter fun e => (ofLex e.1).1 == task).map fun e =>
    ((ofLex e.1).2, e.2)

def representedRoles (group : ExecutionGroup) (task : TaskRef) (t : TaskExecution) :
    List RoleId :=
  t.assignments.map (·.roleId) ++ (unboundOf group task).map (·.1)

def lifecycleName : TaskExecutionLifecycle → String
  | .pending => "Pending" | .ready => "Ready" | .active => "Active" | .blocked => "Blocked"
  | .awaitingSatisfaction => "AwaitingSatisfaction" | .completed => "Completed"
  | .failed => "Failed" | .satisfactionRejected => "SatisfactionRejected"
  | .cancelled => "Cancelled"

/-- The coverage a lifecycle demands, given whether all Roles are represented, none is, and
whether the Task has a recovery. -/
def coverageValid (l : TaskExecutionLifecycle) (exact empty recovering : Bool) : Bool :=
  match l with
  | .pending => empty
  | .ready => !recovering && (empty || exact)
  | .active | .blocked => exact
  | .awaitingSatisfaction => !recovering && exact
  | .completed => !recovering
  | .failed | .satisfactionRejected | .cancelled => exact

def validateTaskCheckpointCoverage (group : ExecutionGroup) (t : TaskExecution)
    (authoritative represented : List RoleId) : Except ControlError Unit :=
  if group.lifecycle = .released then
    refuse (!represented.isEmpty)
      (.invalidProposal "Released Mission Group retains TaskExecution bindings")
  else
    let exact := OrdSet.ofList represented == OrdSet.ofList authoritative
    let recovering := group.taskUnboundRoles.keys.any fun k => (ofLex k).1 == t.taskRef
    let name := lifecycleName t.lifecycle
    refuse (!coverageValid t.lifecycle exact represented.isEmpty recovering)
      (.invalidProposal
        s!"checkpoint TaskExecution {t.taskRef} has invalid assignment coverage for {name}")

/-- One Task of `validate_mission_group_checkpoint`. -/
def validateTaskCheckpoint (c : ControlPlane) (group : ExecutionGroup)
    (entry : TaskRef × TaskExecution) : Except ControlError Unit := do
  let task := entry.1
  let t := entry.2
  refuse (task != t.taskRef || task.missionId != group.missionId)
    (.invalidProposal "checkpoint TaskExecution identity differs from its Group key")
  refuse (t.contextRoles.keys.any fun r => !t.roleScopes.contains r)
    (.invalidProposal "checkpoint TaskExecution continuity references an unknown role")
  let authoritative := (group.rolesOf task).map (·.roleId)
  refuse (OrdSet.ofList t.roleScopes.keys != OrdSet.ofList authoritative)
    (.invalidProposal "checkpoint TaskExecution lacks exact authoritative role metadata")
  checkAgainstEarlier (fun earlier a => do
    refuse ((earlier.any fun b => b.roleId == a.roleId) || !authoritative.contains a.roleId)
      (.invalidProposal "checkpoint TaskExecution contains an unknown or duplicate assignment")
    validateCheckpointActorAssignment c group task a.roleId a.nodeId) [] t.assignments
  checkAgainstEarlier (fun earlier u => do
    refuse ((t.assignments.any fun a => a.roleId == u.1) || (earlier.any fun v => v.1 == u.1) ||
        !authoritative.contains u.1)
      (.invalidProposal "checkpoint Task recovery contains an unknown or duplicate role")
    validateCheckpointActorAssignment c group task u.1 u.2.previousNodeId) []
    (unboundOf group task)
  validateTaskCheckpointCoverage group t authoritative (representedRoles group task t)

def validateMissionGroupCheckpoint (c : ControlPlane) (group : ExecutionGroup) :
    Except ControlError Unit := do
  refuse (!group.assignments.isEmpty || group.unboundRoles != ∅)
    (.invalidProposal "Mission-level Group checkpoint contains legacy role state")
  group.taskExecutions.entries.forM (validateTaskCheckpoint c group)
  group.roleRequirements.entries.forM fun e =>
    refuse (e.2.roleId != (ofLex e.1).2 || (group.taskExecution (ofLex e.1).1).isNone ||
        (ofLex e.1).1.missionId != group.missionId)
      (.invalidProposal "checkpoint Group contains orphan authoritative role metadata")
  group.taskUnboundRoles.keys.forM fun k =>
    refuse (group.roleRequirement (ofLex k).1 (ofLex k).2).isNone
      (.invalidProposal "checkpoint Group contains orphan Task recovery state")

def validateLegacyGroupCheckpoint (c : ControlPlane) (group : ExecutionGroup) :
    Except ControlError Unit := do
  refuse (group.taskUnboundRoles != ∅ || group.contextBindings != ∅)
    (.invalidProposal "legacy Group checkpoint contains Mission-local binding state")
  group.roleRequirements.entries.forM fun e =>
    refuse ((ofLex e.1).1 != group.taskRef || (ofLex e.1).2 != e.2.roleId)
      (.invalidProposal "legacy Group checkpoint contains mismatched role metadata")
  let described := group.roleRequirements != ∅
  checkAgainstEarlier (fun earlier a => do
    refuse (earlier.any fun b => b.roleId == a.roleId)
      (.invalidProposal "legacy Group checkpoint contains a duplicate Role assignment")
    if described then
      validateCheckpointActorAssignment c group group.taskRef a.roleId a.nodeId
    else pure ()) [] group.assignments
  group.unboundRoles.entries.forM fun e => do
    refuse (group.assignments.any fun a => a.roleId == e.1)
      (.invalidProposal "legacy Group checkpoint Role is both bound and unbound")
    if described then
      validateCheckpointActorAssignment c group group.taskRef e.1 e.2.previousNodeId
    else pure ()

/-- Follow `superseded_by` from a Group; every step must reach a Group not seen before. The
number of Groups bounds the walk. -/
def followSuccessors (c : ControlPlane) : Nat → List ExecutionGroupId → ExecutionGroup →
    Except ControlError Unit
  | 0, _, _ => .error (.invalidProposal "superseded Group history contains a cycle")
  | fuel + 1, visited, current => do
    refuse (visited.contains current.groupId)
      (.invalidProposal "superseded Group history contains a cycle")
    match current.supersededBy with
    | none => pure ()
    | some next =>
      let successor ← okOr (c.group next)
        (.invalidProposal "superseded Group chain is incomplete")
      followSuccessors c fuel (current.groupId :: visited) successor

/-- The supersession part of `validate_group_checkpoint_authority`. -/
def validateSupersession (c : ControlPlane) (group : ExecutionGroup) :
    Except ControlError Unit := do
  refuse (group.lifecycle == .superseded)
    (.invalidProposal "incomplete Group supersession cannot be restored")
  match group.supersededBy with
  | none => pure ()
  | some targetId =>
    let target ← okOr (c.group targetId)
      (.invalidProposal "superseded Group lacks its actual successor")
    refuse (targetId == group.groupId || target.missionId != group.missionId ||
        group.lifecycle != .released)
      (.invalidProposal "invalid superseded Group authority")
    followSuccessors c (c.groups.entries.length + 1) [group.groupId] target

def validateMembershipVersion (group : ExecutionGroup) : Except ControlError Unit :=
  match group.membershipVersion with
  | none => .ok ()
  | some version => do
    refuse (version.generation == 0)
      (.invalidProposal "Group membership version is invalid")
    refuse (version.bindingsDigest != group.membershipDigest)
      (.invalidProposal "Group membership digest differs from current physical bindings")

/-- One Group of `validate_group_checkpoint_authority`. -/
def validateGroupCheckpoint (c : ControlPlane) (group : ExecutionGroup) :
    Except ControlError Unit := do
  validateSupersession c group
  refuse (group.taskRef.missionId != group.missionId)
    (.invalidProposal "checkpoint Group task belongs to another Mission")
  if group.taskExecutions != ∅ then validateMissionGroupCheckpoint c group
  else validateLegacyGroupCheckpoint c group
  validateMembershipVersion group

def validateCommitmentActor (c : ControlPlane) (r : CommittedRecoveryAssignment)
    (actor : Option ActorId) : Except ControlError Unit := do
  let mission := r.taskRef.missionId
  match r.actorTakeover with
  | none =>
    refuse (actor.any fun a => c.actorAuthorityNode mission a != some r.replacementNodeId)
      (.invalidProposal "checkpoint recovery commitment violates Actor authority")
  | some authorization =>
    let a ← okOr actor (.invalidProposal "checkpoint takeover commitment has no Actor role")
    let binding ← okOr (c.actorBinding mission a)
      (.invalidProposal "checkpoint takeover commitment has no ActorBinding")
    refuse (authorization.actorId != a || authorization.groupId != r.groupId ||
        authorization.taskRef != r.taskRef || authorization.roleId != r.roleId ||
        authorization.previousNodeId != binding.nodeId ||
        authorization.replacementNodeId != r.replacementNodeId)
      (.invalidProposal "checkpoint takeover commitment violates Actor authority")

/-- One recovery commitment of `validate_group_checkpoint_authority`. -/
def validateCommitmentCheckpoint (c : ControlPlane) (r : CommittedRecoveryAssignment) :
    Except ControlError Unit := do
  let group ← okOr (c.group r.groupId)
    (.invalidProposal "checkpoint recovery commitment references an unknown Group")
  let slot ← okOr (group.recoveryUnboundRole r.taskRef r.roleId)
    (.invalidProposal "checkpoint recovery commitment has no exact unbound Task/Role")
  refuse (slot.previousNodeId != r.previousNodeId)
    (.invalidProposal "checkpoint recovery commitment differs from its previous owner")
  let role := group.roleRequirement r.taskRef r.roleId
  refuse (group.taskExecutions != ∅ && role.isNone)
    (.invalidProposal "checkpoint recovery commitment lacks authoritative role metadata")
  validateCommitmentActor c r (role.bind (·.actorId))

/-- The memory requirements of Roles are left out. -/
def validateGroupCheckpointAuthority (c : ControlPlane) : Except ControlError Unit := do
  c.groups.values.forM (validateGroupCheckpoint c)
  c.pendingRecoveryCommitments.values.forM (validateCommitmentCheckpoint c)

end RoboGuide.Control
