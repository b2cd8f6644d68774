import Mathlib

/-!
# `RoboGuide.Domain.Identity`: strongly typed identifiers

`core/domain/src/identity.rs` generates one newtype per identifier with the same body: a
text that is not blank. Here they are one family, indexed by the kind of thing an
identifier names, so that `NodeId` and `RoleId` cannot be mixed up and a blank identifier
cannot be built. Texts are compared as Rust compares strings, so maps keyed by identifiers
iterate in the source's order.
-/

namespace RoboGuide.Domain

/-- What an identifier names. -/
inductive IdKind where
  | mission | task | actor | physicalEntity | physicalEntityRegistry | node | role | resource
  | executionGroup | coordinationContext | contextRole | executionRelation | localSystem
  | lease
deriving DecidableEq, Repr

/-- The characters Rust's `str::trim` strips (Unicode `White_Space`). -/
def isWhitespace (c : Char) : Bool :=
  let n := c.toNat
  (9 ≤ n && n ≤ 13) || n == 0x20 || n == 0x85 || n == 0xA0 || n == 0x1680 ||
    (0x2000 ≤ n && n ≤ 0x200A) || n == 0x2028 || n == 0x2029 || n == 0x202F || n == 0x205F ||
    n == 0x3000

/-- `value.trim().is_empty()`. -/
def isBlank (s : String) : Bool := s.toList.all isWhitespace

/-- `char::is_control` (Unicode category `Cc`). -/
def isControl (c : Char) : Bool := c.toNat < 0x20 || (0x7F ≤ c.toNat && c.toNat ≤ 0x9F)

structure Ident (kind : IdKind) where
  /-- The stable text form. -/
  text : String
  /-- `new` refuses blank texts. -/
  nonblank : isBlank text = false

namespace Ident

variable {kind : IdKind}

lemma text_injective : Function.Injective fun i : Ident kind => i.text := by
  rintro ⟨a, _⟩ ⟨b, _⟩ h
  cases h
  rfl

instance : LinearOrder (Ident kind) := LinearOrder.lift' _ text_injective

instance : ToString (Ident kind) := ⟨Ident.text⟩

/-- The identifier constructor: refuses a blank text. -/
def new (kind : IdKind) (value : String) : Option (Ident kind) :=
  if h : isBlank value = false then some ⟨value, h⟩ else none

end Ident

abbrev MissionId := Ident .mission
abbrev TaskId := Ident .task
abbrev ActorId := Ident .actor
abbrev PhysicalEntityId := Ident .physicalEntity
abbrev PhysicalEntityRegistryId := Ident .physicalEntityRegistry
abbrev NodeId := Ident .node
abbrev RoleId := Ident .role
abbrev ResourceId := Ident .resource
abbrev ExecutionGroupId := Ident .executionGroup
abbrev CoordinationContextId := Ident .coordinationContext
abbrev ContextRoleId := Ident .contextRole
abbrev ExecutionRelationId := Ident .executionRelation
abbrev LocalSystemId := Ident .localSystem
abbrev LeaseId := Ident .lease

structure TaskRef where
  missionId : MissionId
  taskId : TaskId

namespace TaskRef

/-- The pair that orders Task references: Mission first, as the derived `Ord` does. -/
def key (t : TaskRef) : MissionId ×ₗ TaskId := toLex (t.missionId, t.taskId)

lemma key_injective : Function.Injective key := by
  rintro ⟨m, t⟩ ⟨m', t'⟩ h
  obtain ⟨rfl, rfl⟩ := Prod.mk.inj (toLex_inj.mp h)
  rfl

instance : LinearOrder TaskRef := LinearOrder.lift' key key_injective

instance : ToString TaskRef := ⟨fun t => s!"{t.missionId}/{t.taskId}"⟩

end TaskRef

/-- Milliseconds of the controller's clock. -/
abbrev TimestampMs := Nat

/-- Largest value of a `u64` counter. -/
def u64Max : Nat := 2 ^ 64 - 1

/-- `checked_add(1)` on a `u64` counter. -/
def checkedSucc (n : Nat) : Option Nat := if n < u64Max then some (n + 1) else none

/-- `checked_add` on `u64`. -/
def checkedAdd (a b : Nat) : Option Nat := if a + b ≤ u64Max then some (a + b) else none

/-- `saturating_add(1)` on a `u64` counter. -/
def saturatingSucc (n : Nat) : Nat := min (n + 1) u64Max

def checkedSub (m n : Nat) : Option Nat := if n ≤ m then some (m - n) else none

/-- Who produced a State record. -/
inductive StateSource where
  | node (nodeId : NodeId) (localSystemId : LocalSystemId)
  | roboGuide (component : String)
deriving DecidableEq

/-- The Node of a Node-owned producer. -/
def StateSource.nodeId : StateSource → Option NodeId
  | .node nodeId _ => some nodeId
  | .roboGuide _ => none

/-- An operation contract; Control and the runtime only compare it. -/
abbrev OperationRef := String

end RoboGuide.Domain
