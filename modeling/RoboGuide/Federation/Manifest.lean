import RoboGuide.Domain.Identity
import RoboGuide.Lib.Fallible
import RoboGuide.Lib.Json
import RoboGuide.Lib.OrdMap

/-!
# `RoboGuide.Federation.Manifest`: what a federated transaction agrees on

`application/federation/execution.rs`: the manifest of a transaction, the Commit decision that
seals the prepared receipts of all participants, and the command the root sends to one of them.

What the functions below call and do not define is a parameter (`Codec`): the hash of a typed
identity, the length of the JSON text, and the decoder of Mission plans.
-/

namespace RoboGuide.Federation

open Domain Lib
open Fallible (refuse okOr)

/-- The functions of other components. -/
structure Codec where
  /-- `digest`: SHA-256 over the typed identity of a value. -/
  digest : Json → String
  /-- `serde_json::to_vec(value).len()`. -/
  textLength : Json → Nat
  /-- `decode_mission_plan`: the Mission and the objective of the goal. -/
  decodePlan : Json → Except String (String × String)

def schema : String := "roboguide.federation-execution/v0.1"

structure LocalPlan where
  plan : Json
  goalVerifier : Json
deriving DecidableEq

structure Manifest where
  schemaVersion : String
  transactionId : String
  coordinatorDomain : String
  tenantId : String
  objective : String
  budgetMs : Nat
  maxClockUncertaintyMs : Nat
  participants : OrdMap String LocalPlan
deriving DecidableEq

/-! ### JSON -/

/-- A `BTreeMap` of values. -/
def mapJson (m : OrdMap String Json) : Json := .object m.entries

/-- An `Option`, with `null` for absence. -/
def optionJson {α : Type} (f : α → Json) : Option α → Json
  | none => .null
  | some a => f a

def natJson (n : Nat) : Json := .unsigned (UInt64.ofNat n)

def Manifest.toJson (m : Manifest) : Json :=
  .object [("budget_ms", natJson m.budgetMs), ("coordinator_domain", .string m.coordinatorDomain),
    ("max_clock_uncertainty_ms", natJson m.maxClockUncertaintyMs),
    ("objective", .string m.objective),
    ("participants", mapJson (m.participants.mapValues fun _ p =>
      .object [("goal_verifier", p.goalVerifier), ("plan", p.plan)])),
    ("schema_version", .string m.schemaVersion), ("tenant_id", .string m.tenantId),
    ("transaction_id", .string m.transactionId)]

/-! ### Manifests -/

/-- `validate_transaction_id`. -/
def validTransactionId (id : String) : Bool :=
  !id.isEmpty && decide (id.utf8ByteSize ≤ 128) &&
    id.toList.all fun c => c.isAlphanum || c == '-' || c == '_' || c == '.'

def validDomain (domain : String) : Bool :=
  !domain.isEmpty && decide (domain.utf8ByteSize ≤ 128) &&
    !domain.toList.any fun c => isControl c || c == '/' || c == '?' || c == '#' || c == '*'

/-- One participant: a usable domain, a Mission of its own, and for the root the objective. -/
def validateParticipant (codec : Codec) (m : Manifest) (missions : List String)
    (entry : String × LocalPlan) : Except String (List String) := do
  refuse (!validDomain entry.1) "invalid explicit participant domain"
  let goal ← codec.decodePlan entry.2.plan
  refuse (missions.contains goal.1 ||
      (entry.1 == m.coordinatorDomain && goal.2 != m.objective))
    "participant Mission identities must be unique and root goal must retain global objective"
  pure (goal.1 :: missions)

def Manifest.validate (codec : Codec) (m : Manifest) : Except String Unit := do
  refuse (m.schemaVersion != schema || !validTransactionId m.transactionId ||
      m.tenantId.isEmpty || decide (128 < m.tenantId.utf8ByteSize) ||
      isBlank m.objective || decide (8192 < m.objective.utf8ByteSize) ||
      !(decide (1000 ≤ m.budgetMs) && decide (m.budgetMs ≤ 300000)) ||
      !(decide (1 ≤ m.maxClockUncertaintyMs) && decide (m.maxClockUncertaintyMs ≤ 10000)) ||
      decide (m.budgetMs ≤ m.maxClockUncertaintyMs) ||
      !(decide (2 ≤ m.participants.keys.length) && decide (m.participants.keys.length ≤ 16)) ||
      !m.participants.contains m.coordinatorDomain ||
      decide (2097152 < codec.textLength m.toJson))
    "invalid complete Federation execution manifest or original budget"
  let _ ← m.participants.entries.foldlM (validateParticipant codec m) []
  pure ()

/-! ### Decisions -/

structure Decision where
  manifestDigest : String
  prepared : OrdMap String Json
  digest : String
deriving DecidableEq

def Decision.seal (codec : Codec) (m : Manifest) (prepared : OrdMap String Json) : Decision :=
  let manifestDigest := codec.digest m.toJson
  { manifestDigest, prepared
    digest := codec.digest (.object [("manifest_digest", .string manifestDigest),
      ("prepared", mapJson prepared)]) }

def Decision.toJson (d : Decision) : Json :=
  .object [("digest", .string d.digest), ("manifest_digest", .string d.manifestDigest),
    ("prepared", mapJson d.prepared)]

/-! ### Commands -/

structure Command where
  schemaVersion : String
  manifest : Manifest
  nonce : String
  epoch : Option String
  decision : Option Decision
  commits : Option (OrdMap String Json)
deriving DecidableEq

def Command.toJson (c : Command) : Json :=
  .object [("commits", optionJson mapJson c.commits),
    ("decision", optionJson Decision.toJson c.decision),
    ("epoch", optionJson .string c.epoch), ("manifest", c.manifest.toJson),
    ("nonce", .string c.nonce), ("schema_version", .string c.schemaVersion)]

end RoboGuide.Federation
