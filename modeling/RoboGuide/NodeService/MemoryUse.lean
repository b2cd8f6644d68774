import RoboGuide.NodeService.Journal

/-!
# `RoboGuide.NodeService.MemoryUse`: use intervals of prepared Memory

`core/node-service/src/journal/{memory_use,memory_preparation}.rs` and
`core/domain/src/memory_use.rs`. A lease belongs to one prepared context. Its head row keeps
the highest admitted grant and whether the lease was revoked; commands and the requests to
providers are rows of their own. A grant removes the commands more than three generations
older, and with them their requests.

Every operation is one transaction. JSON values are their texts, whose characters SQL counts; a
command identity is the triple its text is formed from, which determines the text and is
determined by it.
-/

namespace RoboGuide.NodeService

open Domain Lib Fallible

/-! ### Clocks and budgets -/

structure ReceiverClockObservation where
  bootId : String
  timeNamespace : String
  lowerMs : Nat
  uncertaintyMs : Nat
deriving DecidableEq

structure MemoryReceiverBudget where
  bootId : String
  timeNamespace : Option String
  receivedLowerMs : Nat
  deadlineLowerMs : Nat
deriving DecidableEq

def memoryPreparationMaxBudgetMs : Nat := 120000
def memoryUseMaxBudgetMs : Nat := 30000

def ReceiverClockObservation.precise (now : ReceiverClockObservation) : Bool :=
  decide (1 ≤ now.uncertaintyMs) && decide (now.uncertaintyMs ≤ 1000)

/-- `MemoryReceiverBudget::admit`. -/
def MemoryReceiverBudget.admitted (now : ReceiverClockObservation) (validForMs : Nat) :
    Except JournalError MemoryReceiverBudget := do
  refuse (now.bootId == "" || now.timeNamespace == "" ||
      decide (128 < now.timeNamespace.utf8ByteSize) || !now.precise || validForMs == 0 ||
      decide (memoryPreparationMaxBudgetMs < validForMs) || decide (validForMs ≤ now.uncertaintyMs))
    (.invalidSpec "original Memory receive budget is unavailable")
  let deadline ← okOr (checkedAdd now.lowerMs validForMs)
    (.invalidSpec "Memory receive deadline overflow")
  pure ⟨now.bootId, some now.timeNamespace, now.lowerMs, deadline⟩

/-- Nothing on another boot or time namespace, or when time went back. -/
def MemoryReceiverBudget.remainingMs (b : MemoryReceiverBudget) (now : ReceiverClockObservation) :
    Nat :=
  if now.bootId != b.bootId || b.timeNamespace != some now.timeNamespace ||
      now.timeNamespace == "" || decide (now.lowerMs < b.receivedLowerMs) || !now.precise ||
      decide (memoryPreparationMaxBudgetMs < b.deadlineLowerMs - b.receivedLowerMs) then 0
  else b.deadlineLowerMs - min (now.lowerMs + now.uncertaintyMs) u64Max

/-! ### Records -/

structure GroupMembershipVersion where
  generation : Nat
  bindingsDigest : String
deriving DecidableEq

structure MemoryPreparationInput where
  importId : String
  providerId : String
  supportsUseLease : Bool
deriving DecidableEq

/-- A prepared context; `body` is the rest of its content. -/
structure MemoryPreparation where
  schema : String
  preparationId : String
  executionId : String
  nodeId : NodeId
  sourceSessionId : String
  tenantId : String
  groupId : ExecutionGroupId
  registryId : String
  registryRevision : Nat
  membership : GroupMembershipVersion
  inputs : List MemoryPreparationInput
  validForMs : Nat
  body : String
deriving DecidableEq

inductive MemoryUseOperation where
  | grant | revoke
deriving DecidableEq

structure MemoryUseCommandId where
  operation : MemoryUseOperation
  leaseId : String
  generation : Nat
deriving DecidableEq

instance MemoryUseCommandId.linearOrder : LinearOrder MemoryUseCommandId :=
  .lift' (fun id => toLex (id.operation == .revoke, toLex (id.leaseId, id.generation))) (by
    rintro ⟨⟨⟩, _, _⟩ ⟨⟨⟩, _, _⟩ h <;> simp_all)

structure MemoryUseControl where
  schema : String
  commandId : MemoryUseCommandId
  leaseId : String
  generation : Nat
  operation : MemoryUseOperation
  preparationId : String
  preparationDigest : String
  executionId : String
  nodeId : NodeId
  sourceSessionId : String
  tenantId : String
  groupId : ExecutionGroupId
  registryId : String
  registryRevision : Nat
  membership : GroupMembershipVersion
  configurationDigest : String
  validForMs : Nat
deriving DecidableEq

inductive MemoryUseStatus where
  | granted | revoked | unknown | rejected
deriving DecidableEq

/-- The outcome of a command; a provider comes with its retained reply. -/
structure MemoryUseReceipt where
  commandId : MemoryUseCommandId
  status : MemoryUseStatus
  remainingBudgetMs : Nat
  providers : List (String × String)
  body : String
deriving DecidableEq

structure JournalMemoryUseCommand where
  command : MemoryUseControl
  budget : MemoryReceiverBudget
  receipt : Option MemoryUseReceipt
deriving DecidableEq

structure JournalMemoryUseEffect where
  request : String
  receipt : Option String
deriving DecidableEq

/-- A context as it was admitted. -/
structure JournalMemoryPreparation where
  configurationDigest : String
  preparation : MemoryPreparation
  budget : MemoryReceiverBudget
deriving DecidableEq

/-- What a command keeps fixed for the whole life of its lease (`purpose`): everything but
its identity, operation, interval, policy revision and membership. -/
def MemoryUseControl.purpose (c : MemoryUseControl) : MemoryUseControl :=
  { c with
    commandId := ⟨.grant, "", 0⟩, operation := .grant, generation := 0, validForMs := 0
    registryRevision := 0, membership := ⟨0, ""⟩ }

structure MemoryUseHead where
  purpose : MemoryUseControl
  highestGeneration : Nat
  revoked : Bool
deriving DecidableEq

structure MemoryRules where
  /-- `memory_use_lease_id`. -/
  leaseId : String → String
  preparationDigest : MemoryPreparation → String
  validText : String → Nat → Bool
  validDigest : String → Bool
  /-- `MemoryPreparation::validate`. -/
  validPreparation : MemoryPreparation → Bool
  /-- `MemoryUseReceipt::validate`. -/
  validReceipt : MemoryUseReceipt → MemoryUseControl → MemoryPreparation → Bool
  /-- The bytes and the characters of its JSON text. -/
  preparationBytes : MemoryPreparation → Nat
  preparationLength : MemoryPreparation → Nat
  /-- `Value::is_object`. -/
  isObject : String → Bool

/-- The tables. The key of a request is its command and its provider. -/
structure MemoryJournal where
  preparations : OrdMap String JournalMemoryPreparation
  /-- The digest a context was revoked with. -/
  revocations : OrdMap String String
  heads : OrdMap String MemoryUseHead
  commands : OrdMap MemoryUseCommandId JournalMemoryUseCommand
  effects : OrdMap (MemoryUseCommandId ×ₗ String) JournalMemoryUseEffect

abbrev MemoryUseM := EStateM JournalError MemoryJournal

/-! ### Checks of a command -/

section

variable (x : MemoryRules)

def MemoryUseControl.validate (c : MemoryUseControl) : Except String Unit := do
  refuse (c.membership.generation == 0 || !x.validDigest c.membership.bindingsDigest)
    "Group membership requires a positive generation and exact SHA-256 digest"
  [(c.preparationId, 128), (c.tenantId, 128), (c.registryId, 128), (c.executionId, 1024),
    (c.sourceSessionId, 1024)].forM fun (text, bound) => refuse (!x.validText text bound)
      "Memory authority requires bounded exact identities and contracts"
  [c.preparationDigest, c.configurationDigest].forM fun digest => refuse (!x.validDigest digest)
    "Memory authority digest must be exact SHA-256"
  refuse (c.schema != "roboguide.memory-use-control/v0.1" ||
      c.leaseId != x.leaseId c.preparationId ||
      c.commandId != ⟨c.operation, c.leaseId, c.generation⟩ ||
      c.registryRevision == 0 || decide (2 ^ 63 ≤ c.registryRevision) ||
      decide (2 ^ 63 ≤ c.generation) || decide (2 ^ 63 ≤ c.membership.generation))
    "Memory-use schema, immutable identity or authority ordinal differs"
  refuse (match c.operation with
    | .grant => c.generation == 0 || c.validForMs == 0 ||
        decide (memoryUseMaxBudgetMs < c.validForMs)
    | .revoke => c.generation != 0 || c.validForMs != 0)
    "Memory-use operation, generation or receiver budget is invalid"

/-- The membership is older than `base`, or another one of the same generation. -/
def GroupMembershipVersion.differsFrom (m base : GroupMembershipVersion) : Bool :=
  decide (m.generation < base.generation) || (m.generation == base.generation && m != base)

def MemoryUseControl.validatePreparation (c : MemoryUseControl) (p : MemoryPreparation) :
    Except String Unit := do
  c.validate x
  refuse (!x.validPreparation p) "Memory preparation is invalid"
  refuse (p.schema != "roboguide.memory-preparation/v0.2" &&
      p.schema != "roboguide.memory-preparation/v0.3")
    "current Memory use requires original versioned use-capable preparation"
  refuse (c.preparationId != p.preparationId || c.preparationDigest != x.preparationDigest p ||
      c.executionId != p.executionId || c.nodeId != p.nodeId ||
      c.sourceSessionId != p.sourceSessionId || c.tenantId != p.tenantId ||
      c.groupId != p.groupId || c.registryId != p.registryId ||
      decide (c.registryRevision < p.registryRevision) || c.membership.differsFrom p.membership)
    "Memory-use command changes its original physical/logical/source purpose"

/-! ### Reads -/

namespace MemoryJournal

variable (j : MemoryJournal)

def readCommand (id : MemoryUseCommandId) : Except JournalError (Option JournalMemoryUseCommand) :=
  match j.commands.get? id with
  | none => .ok none
  | some row => do
    (row.command.validate x).mapError .invalidSpec
    refuse (row.command.commandId != id) (.corrupt "Memory-use stored command identity changed")
    pure (some row)

def readPreparation (id : String) : Except JournalError (Option JournalMemoryPreparation) :=
  match j.preparations.get? id with
  | none => .ok none
  | some row => do
    refuse (!x.validPreparation row.preparation) (.corrupt "Memory preparation is invalid")
    refuse (row.preparation.preparationId != id)
      (.corrupt "stored Memory preparation identity differs")
    pure (some row)

def validateEffectCoverage (receipt : MemoryUseReceipt) : Except JournalError Unit :=
  receipt.providers.forM fun (provider, reply) => do
    let effect ← okOr (j.effects.get? (toLex (receipt.commandId, provider)))
      (.corrupt "Memory-use provider receipt has no original effect intent")
    refuse (effect.receipt != some reply)
      (.corrupt "Memory-use provider proof changed from its original retained reply")

def currentMemoryUse (preparationId : String) (now : ReceiverClockObservation) :
    Except JournalError JournalMemoryUseCommand := do
  let lease := x.leaseId preparationId
  let head ← okOr (j.heads.get? lease) (.invalidSpec "current Memory-use permission is absent")
  refuse (head.revoked || j.revocations.contains preparationId || head.highestGeneration == 0)
    (.invalidSpec "current Memory-use permission was revoked")
  let found ← j.readCommand x ⟨.grant, lease, head.highestGeneration⟩
  let row ← okOr found (.corrupt "Memory-use head lost its current command")
  refuse (row.budget.remainingMs now == 0 || !row.receipt.any fun r => r.status == .granted)
    (.invalidSpec "current Memory-use permission is expired or ambiguous")
  let source ← j.readPreparation x preparationId
  let context ← okOr source (.corrupt "Memory-use lost its original prepared source")
  (row.command.validatePreparation x context.preparation).mapError .corrupt
  refuse (context.configurationDigest != row.command.configurationDigest)
    (.corrupt "Memory-use original configuration changed")
  row.receipt.toList.forM fun r => do
    refuse (!x.validReceipt r row.command context.preparation)
        (.corrupt "Memory-use receipt differs")
    j.validateEffectCoverage r
  pure row

/-! ### Admission -/

/-- A grant that follows an admitted one: contiguous, while the previous interval is granted
and lives. -/
def validateRenewal (command : MemoryUseControl) (head : MemoryUseHead)
    (now : ReceiverClockObservation) : Except JournalError Unit := do
  refuse (head.revoked || head.highestGeneration == 0)
    (.invalidSpec "Memory-use original interval was revoked")
  let found ← j.readCommand x ⟨.grant, command.leaseId, head.highestGeneration⟩
  let previous ← okOr found (.corrupt "Memory-use head lost its original command")
  refuse (command.generation != saturatingSucc head.highestGeneration ||
      previous.budget.remainingMs now == 0 ||
      (!previous.receipt.any fun r => r.status == .granted) ||
      decide (command.registryRevision < previous.command.registryRevision) ||
      command.membership.differsFrom previous.command.membership)
    (.invalidSpec "Memory-use renewal is revoked, expired, ambiguous, discontinuous or stale")

def validateGrant (command : MemoryUseControl) (now : ReceiverClockObservation)
    (remainingBudgetMs : Nat) : Except JournalError Unit := do
  refuse (remainingBudgetMs == 0 || decide (command.validForMs < remainingBudgetMs))
    (.invalidSpec "Memory-use original grant budget is unavailable")
  let source ← j.readPreparation x command.preparationId
  let context ← okOr source (.invalidSpec "Memory-use has no original prepared context")
  (command.validatePreparation x context.preparation).mapError .invalidSpec
  refuse (j.revocations.contains command.preparationId ||
      context.configurationDigest != command.configurationDigest ||
      context.preparation.inputs.any fun i => !i.supportsUseLease)
    (.invalidSpec "Memory-use original context is revoked or lacks explicit support")
  match j.heads.get? command.leaseId with
  | some head => j.validateRenewal x command head now
  | none =>
    refuse (command.generation != 1 || context.budget.remainingMs now == 0)
      (.invalidSpec "first Memory-use interval lacks its original live preparation")

def receiveCommand (command : MemoryUseControl) (now : ReceiverClockObservation)
    (remainingBudgetMs : Nat) : Except JournalError MemoryReceiverBudget := do
  refuse ((j.heads.get? command.leaseId).any fun head => head.purpose != command.purpose)
    (.invalidSpec "Memory-use original purpose/configuration changed")
  match command.operation with
  | .grant => j.validateGrant x command now remainingBudgetMs
  | .revoke => pure ()
  let budget ← MemoryReceiverBudget.admitted now
    (match command.operation with | .grant => remainingBudgetMs | .revoke => 10000)
  refuse (!j.heads.contains command.leaseId && decide (4096 ≤ j.heads.keys.length))
    (.invalidSpec "Memory-use authority is full")
  pure budget

def headAfter (command : MemoryUseControl) : MemoryUseHead :=
  match j.heads.get? command.leaseId with
  | none => ⟨command.purpose, command.generation, command.operation == .revoke⟩
  | some head => match command.operation with
    | .revoke => { head with revoked := true }
    | .grant => { head with highestGeneration := command.generation }

def prunes (command old : MemoryUseControl) : Bool :=
  command.operation == .grant && old.leaseId == command.leaseId && old.generation != 0 &&
    decide (old.generation < command.generation - 3)

/-- The rows a new command leaves. -/
def withCommand (command : MemoryUseControl) (budget : MemoryReceiverBudget) : MemoryJournal :=
  let commands := (j.commands.insert command.commandId ⟨command, budget, none⟩).retain
    fun _ row => !prunes command row.command
  { j with
    heads := j.heads.insert command.leaseId (j.headAfter command)
    commands
    effects := j.effects.retain fun key _ => commands.contains (ofLex key).1 }

end MemoryJournal

def admitMemoryUseControl (command : MemoryUseControl) (now : ReceiverClockObservation)
    (remainingBudgetMs : Nat) : MemoryUseM JournalMemoryUseCommand := do
  let j ← get
  check ((command.validate x).mapError .invalidSpec)
  match ← check (j.readCommand x command.commandId) with
  | some original => do
    check (refuse (original.command != command)
      (.invalidSpec "original Memory-use command changed"))
    pure original
  | none => do
    let budget ← check (j.receiveCommand x command now remainingBudgetMs)
    set (j.withCommand command budget)
    pure ⟨command, budget, none⟩

/-! ### Effects and receipts -/

/-- What `prepare_memory_use_effect` checks of a request that was not made before. -/
def MemoryJournal.validateEffect (j : MemoryJournal) (control : JournalMemoryUseCommand)
    (providerId request : String) (now : ReceiverClockObservation) : Except JournalError Unit := do
  refuse (control.budget.remainingMs now == 0)
    (.invalidSpec "original Memory-use effect budget expired")
  let source ← j.readPreparation x control.command.preparationId
  let context ← okOr source (.invalidSpec "Memory-use effect lost original context")
  refuse (!context.preparation.inputs.any fun i => i.providerId == providerId)
    (.invalidSpec "Memory-use effect names an unselected provider")
  match control.command.operation with
  | .grant => do
    let head ← okOr (j.heads.get? control.command.leaseId) (.corrupt "Query returned no rows")
    refuse (head.revoked || j.revocations.contains control.command.preparationId)
      (.invalidSpec "Memory-use effect was revoked before issue")
  | .revoke => pure ()
  refuse (decide (600 * 1024 < request.utf8ByteSize) || decide (256 * 1024 * 1024 <
      (j.effects.values.map fun e => e.request.length + e.receipt.elim 0 (·.length)).sum
        + request.utf8ByteSize))
    (.invalidSpec "Memory-use retained backend metadata is full")

def prepareMemoryUseEffect (commandId : MemoryUseCommandId) (providerId request : String)
    (now : ReceiverClockObservation) : MemoryUseM (Bool × JournalMemoryUseEffect) := do
  let j ← get
  let found ← check (j.readCommand x commandId)
  let control ← check (okOr found
    (.invalidSpec "Memory-use effect lacks durable control intent"))
  match j.effects.get? (toLex (commandId, providerId)) with
  | some original => do
    check (refuse (original.request != request)
      (.invalidSpec "original Memory-use backend request changed"))
    pure (false, original)
  | none => do
    check (j.validateEffect x control providerId request now)
    set { j with effects := j.effects.insert (toLex (commandId, providerId)) ⟨request, none⟩ }
    pure (true, ⟨request, none⟩)

def recordMemoryUseEffectReceipt (commandId : MemoryUseCommandId) (providerId receipt : String) :
    MemoryUseM Unit := do
  let j ← get
  check (refuse (decide (16 * 1024 < receipt.utf8ByteSize) || !x.isObject receipt)
    (.invalidSpec "Memory-use backend receipt exceeds its bound"))
  let original ← check (okOr (j.effects.get? (toLex (commandId, providerId)))
    (.invalidSpec "backend receipt has no original intent"))
  check (refuse (original.receipt.any fun old => old != receipt)
    (.invalidSpec "original Memory-use backend receipt changed"))
  set { j with effects :=
    j.effects.insert (toLex (commandId, providerId)) { original with receipt := some receipt } }

def recordMemoryUseReceipt (receipt : MemoryUseReceipt) : MemoryUseM MemoryUseReceipt := do
  let j ← get
  let found ← check (j.readCommand x receipt.commandId)
  let original ← check (okOr found
    (.invalidSpec "Memory-use receipt has no original command"))
  let source ← check (j.readPreparation x original.command.preparationId)
  let context ← check (okOr source
    (.invalidSpec "Memory-use receipt lost its original context"))
  check (refuse (!x.validReceipt receipt original.command context.preparation)
    (.invalidSpec "Memory-use receipt differs from its original command or bounds"))
  check (refuse (decide (original.budget.deadlineLowerMs - original.budget.receivedLowerMs <
      receipt.remainingBudgetMs))
    (.invalidSpec "Memory-use receipt renewed the original received budget"))
  check (j.validateEffectCoverage receipt)
  match original.receipt with
  | some old => do
    check (refuse (old != receipt) (.invalidSpec "original Memory-use receipt changed"))
    pure old
  | none => do
    set { j with commands :=
      j.commands.insert receipt.commandId { original with receipt := some receipt } }
    pure receipt

/-! ### Contexts -/

def prepareMemoryContext (preparation : MemoryPreparation) (now : ReceiverClockObservation)
    (validForMs : Nat) (configurationDigest : String) : MemoryUseM JournalMemoryPreparation := do
  let j ← get
  check (refuse (!x.validPreparation preparation) (.invalidSpec "Memory preparation is invalid"))
  check (refuse (!x.validDigest configurationDigest)
    (.invalidSpec "original Node configuration digest is invalid"))
  check (refuse (decide (256 * 1024 < x.preparationBytes preparation))
    (.invalidSpec "Memory context exceeds its bound"))
  check (refuse (j.revocations.contains preparation.preparationId)
    (.invalidSpec "Memory context was irreversibly revoked"))
  match ← check (j.readPreparation x preparation.preparationId) with
  | some original => do
    check (refuse (original.preparation != preparation ||
        original.configurationDigest != configurationDigest)
      (.invalidSpec "Memory context identity conflicts with its original admission"))
    pure original
  | none => do
    check (refuse (decide (4096 ≤ j.preparations.keys.length) || decide (64 * 1024 * 1024 <
        (j.preparations.values.map fun p => x.preparationLength p.preparation).sum +
          x.preparationBytes preparation))
      (.invalidSpec "Memory context journal is full"))
    let budget ← check (MemoryReceiverBudget.admitted now (min validForMs preparation.validForMs))
    check (refuse (j.preparations.values.any fun p =>
        p.preparation.executionId == preparation.executionId)
      (.corrupt "UNIQUE constraint failed: memory_preparations.execution_id"))
    set { j with preparations :=
      j.preparations.insert preparation.preparationId ⟨configurationDigest, preparation, budget⟩ }
    pure ⟨configurationDigest, preparation, budget⟩

def revokeMemoryContext (id digest : String) : MemoryUseM Unit := do
  let j ← get
  check (refuse ((j.revocations.get? id).any fun old => old != digest)
    (.invalidSpec "Memory revoke identity conflicts"))
  let source ← check (j.readPreparation x id)
  check (refuse (source.any fun context => x.preparationDigest context.preparation != digest)
    (.invalidSpec "Memory revoke names another original context"))
  check (refuse (!j.revocations.contains id && decide (4096 ≤ j.revocations.keys.length))
    (.invalidSpec "Memory revocation journal is full"))
  set { j with revocations := if j.revocations.contains id then j.revocations
    else j.revocations.insert id digest }

end

end RoboGuide.NodeService
