import RoboGuide.Domain.Resource
import RoboGuide.Lib.Fallible

/-!
# `RoboGuide.Domain.Command`: role-scoped execution commands

`core/domain/src/execution/{command,session,recovery}.rs` and the Memory prerequisites of
`core/domain/src/memory_preparation.rs`, as far as the runtime reads them. What the runtime
only compares (resource grants, registration evidence, the dispatched generation and the
correlation identity, an intent's parameters) is one text.

The session digest is SHA-256 over the session's content; it is taken to be free of
collisions, so a digest is represented by the content it was computed from.
-/

namespace RoboGuide.Domain

open Lib Fallible

structure ExecutionIntent where
  operation : OperationRef
  parameters : String
deriving DecidableEq

/-! ### Sessions -/

structure ExecutionSessionSlot where
  taskId : TaskId
  roleId : RoleId
  actorId : ActorId
  dependencies : List TaskId
  independent : Bool
deriving DecidableEq

structure SessionContent where
  schemaVersion : String
  missionId : MissionId
  groupId : ExecutionGroupId
  slots : List ExecutionSessionSlot
deriving DecidableEq

/-- The immutable plan topology that travels with every command of a Group. -/
structure ExecutionSessionDescriptor extends SessionContent where
  digest : SessionContent
deriving DecidableEq

def executionSessionSchema : String := "roboguide.execution-session/v0.1"

/-- `windows(2).all(|pair| pair[0] < pair[1])`. -/
def strictlyIncreasing {α : Type} [LT α] [DecidableRel fun a b : α => a < b] : List α → Bool
  | a :: b :: rest => decide (a < b) && strictlyIncreasing (b :: rest)
  | _ => true

/-- The Tasks without a dependency left. -/
def readyTasks (remaining : OrdMap TaskId (OrdSet TaskId)) : OrdMap TaskId (OrdSet TaskId) :=
  remaining.retain fun _ dependencies => dependencies.entries.isEmpty

/-- One round: the ready Tasks go, and so do the dependencies on them. -/
def peelRound (remaining : OrdMap TaskId (OrdSet TaskId)) : OrdMap TaskId (OrdSet TaskId) :=
  (remaining.retain fun task _ => !(readyTasks remaining).contains task).mapValues
    fun _ dependencies => dependencies.retain fun dependency _ =>
      !(readyTasks remaining).contains dependency

/-- The loop of `validate_slot` over the Tasks that are not peeled yet. Every round removes
one at least, so as many rounds as there are Tasks are enough (`peelReady_succ`). -/
def peelReady : Nat → OrdMap TaskId (OrdSet TaskId) → Except String Unit
  | 0, remaining =>
    refuse (!remaining.entries.isEmpty) "execution session dependency graph contains a cycle"
  | fuel + 1, remaining =>
    if remaining.entries.isEmpty then .ok ()
    else if (readyTasks remaining).entries.isEmpty then
      .error "execution session dependency graph contains a cycle"
    else peelReady fuel (peelRound remaining)

namespace ExecutionSessionDescriptor

def canonicalDigest (s : ExecutionSessionDescriptor) : SessionContent := s.toSessionContent

def dependencyMap (s : ExecutionSessionDescriptor) : OrdMap TaskId (OrdSet TaskId) :=
  s.slots.foldl (fun remaining slot =>
    remaining.insert slot.taskId (slot.dependencies.foldl (fun set d => set.insert d ())
      ((remaining.get? slot.taskId).getD ∅))) ∅

def validateSlot (s : ExecutionSessionDescriptor) (missionId : MissionId)
    (groupId : ExecutionGroupId) (taskId : TaskId) (roleId : RoleId) : Except String Unit := do
  let slotKeys : List (TaskId ×ₗ RoleId) := s.slots.map fun slot =>
    toLex (slot.taskId, slot.roleId)
  let taskIds := s.slots.map (·.taskId)
  let canonicalSlots := strictlyIncreasing slotKeys
  let canonicalDependencies := s.slots.all fun slot =>
    strictlyIncreasing slot.dependencies &&
      slot.dependencies.all fun d => d != slot.taskId && taskIds.contains d
  refuse (s.schemaVersion != executionSessionSchema || s.missionId != missionId ||
      s.groupId != groupId || s.digest != s.canonicalDigest || s.slots.isEmpty ||
      !canonicalSlots || !canonicalDependencies ||
      !s.slots.any fun slot => slot.taskId == taskId && slot.roleId == roleId)
    "execution session identity, slot, or digest is invalid"
  let remaining := s.dependencyMap
  peelReady remaining.entries.length remaining

end ExecutionSessionDescriptor

/-! ### Recovery declarations -/

inductive ExecutionStopScope where
  | execution | executionGroup | unsupported
deriving DecidableEq, Repr

inductive ExecutionContinuation where
  | repeatAfterStop | unsupported
deriving DecidableEq, Repr

structure OperationRecoverySupport where
  operation : OperationRef
  stopScope : ExecutionStopScope
  continuation : ExecutionContinuation
deriving DecidableEq

def OperationRecoverySupport.supportsGroupContinuation (s : OperationRecoverySupport) : Bool :=
  s.stopScope == .executionGroup && s.continuation == .repeatAfterStop

def OperationRecoverySupport.supportsRoleRetry (s : OperationRecoverySupport) : Bool :=
  s.stopScope == .execution && s.continuation == .repeatAfterStop

structure ExecutionRecoverySupport where
  localSystemId : LocalSystemId
  support : OperationRecoverySupport
deriving DecidableEq

/-! ### Memory prerequisites -/

inductive MemoryKind where
  | execution | spatial | semantic | experience | artifact
deriving DecidableEq, Repr

/-- An exact Memory input a Role needs. -/
structure MemoryRequirement where
  selector : String
  kind : MemoryKind
  payloadSchema : String
  mediaType : String
  /-- The source contract `ScopedTypedMap` is declared. -/
  scopedTypedMap : Bool
deriving DecidableEq

def validateText (value : String) (max : Nat) : Except String Unit :=
  refuse (isBlank value || value.toList.head?.any isWhitespace ||
      value.toList.getLast?.any isWhitespace || decide (max < value.utf8ByteSize) ||
      value.toList.contains '*' || value.toList.any isControl)
    "Memory authority requires bounded exact identities and contracts"

namespace MemoryRequirement

def validate (r : MemoryRequirement) : Except String Unit := do
  validateText r.payloadSchema 256
  validateText r.mediaType 256
  refuse (r.scopedTypedMap && r.kind != .spatial)
    "scoped typed-map source requires Spatial Memory"

def validateSet (requirements : List MemoryRequirement) : Except String Unit := do
  refuse (decide (8 < requirements.length))
    "a Role supports at most eight exact Memory prerequisites"
  checkAgainstEarlier (fun earlier r => do
    r.validate
    refuse ((earlier.map (·.selector)).contains r.selector)
      "Role Memory prerequisites repeat an immutable selector") [] requirements

lemma validateSet_nil : validateSet [] = .ok () := rfl

end MemoryRequirement

/-! ### Commands -/

structure ExecutionCommand where
  memoryRequirements : List MemoryRequirement
  /-- Resource grants, registration evidence, generation and correlation identity. -/
  attachments : String
  taskRef : TaskRef
  groupId : ExecutionGroupId
  roleId : RoleId
  nodeId : NodeId
  intent : ExecutionIntent
  session : Option ExecutionSessionDescriptor
  recoverySupport : Option ExecutionRecoverySupport
  /-- `with_memory_requirements` is the only way to attach requirements. -/
  memories_valid : MemoryRequirement.validateSet memoryRequirements = .ok ()
deriving DecidableEq

namespace ExecutionCommand

/-- The declared recovery support is for another operation than the command's. -/
def recoveryMismatch (c : ExecutionCommand) : Bool :=
  c.recoverySupport.any fun declaration =>
    declaration.support.operation != c.intent.operation

end ExecutionCommand

end RoboGuide.Domain
