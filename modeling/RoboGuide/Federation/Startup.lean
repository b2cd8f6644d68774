import RoboGuide.Federation.Root

/-!
# `RoboGuide.Federation.Startup`: what a restart accepts

`coordinator::validate`: before the Controller starts from a retained state, every profile is
installed again, and the wire bodies, clock translations and budgets of every transaction are
computed again from what the record holds.
-/

namespace RoboGuide.Federation

open Domain Lib
open Fallible (refuse okOr)

variable (profiles : OrdMap Nat Profile)

/-- The history of profiles, installed again. -/
def replayProfiles : Except String State :=
  profiles.values.foldlM installProfile .empty

/-- The deployment still has a profile that the history allows. -/
def validateConfigured (revisions : State)
    (configured : Option Profile) : Except String Unit :=
  if profiles.keys.isEmpty then pure ()
  else do
    let actual ← okOr configured "original Federation peer profile missing"
    let _ ← installProfile revisions actual
    pure ()

/-- Some profile of the history is older than v0.3. -/
def legacy : Bool :=
  profiles.values.any fun p => p.schemaVersion != .v03

/-- The largest request budget of the history. -/
def maximumRequest : Nat :=
  (profiles.values.map (·.requestBudgetMs)).foldr max 0

/-- The admission table covers the transactions exactly. -/
def validateOrigins (s : State) : Except String Unit :=
  refuse (if modern s.profiles then !s.origins.any fun o => o.keys == s.transactions.keys
      else s.origins.isSome)
    "original v0.3 admission coverage is missing or hidden"

def validateOrigin (s : State) (id : String) (r : Transaction) : Except String Unit :=
  match (s.origins.bind (·.get? id)).join with
  | some revision =>
    refuse (!r.stopObservation.any fun o => o.profileRevision == revision)
      "original admission lost stop observation declaration"
  | none =>
    refuse (!(r.stopObservation.isNone && (!modern s.profiles || legacy s.profiles)))
      "legacy transaction cannot borrow a new stop observation scope"

def validateStopBudget (r : Transaction) (original : StopObservation) (budget : OriginalBudget) :
    Except String Unit := do
  budget.validate
  refuse (budget.durationMs != original.durationMs || r.stopping.isNone ||
      !r.cleanupBudget.any fun cleanup => budget.hasSameStart cleanup)
    "original stop GET clock was renewed or changed"

def validateStopObservation (r : Transaction)
    (original : StopObservation) : Except String Unit := do
  let profile ← okOr (profiles.get? original.profileRevision)
    "original stop observation profile missing"
  refuse (profile.schemaVersion != .v03 ||
      profile.stopObservationBudgetMs != some original.durationMs ||
      original.budget.isSome != r.cleanupBudget.isSome)
    "original stop observation declaration or clock missing"
  original.budget.toList.forM (validateStopBudget r original)

/-- The clock translation of a participant, computed again from the retained exchange. -/
def validateClock (r : Transaction)
    (entry : String × ClockProof) : Except String Unit := do
  let intent ← okOr (r.intent entry.1 .probe) "original clock proof lost its send intent"
  let original ← okOr (r.probes.get? entry.1) "original clock proof lost its actual peer reply"
  let profile ← okOr (profiles.get? intent.profileRevision) "no such profile"
  let received ← okOr intent.receivedAtMs "original clock receive sample absent"
  let kernel ← okOr intent.receivedKernel "original receive kernel sample absent"
  let expected ← clockProof r.manifest profile intent original received (r.budget.remaining kernel)
  refuse (entry.2 != expected)
    "original clock translation changed its actual request/reply evidence"

def validateScope (r : Transaction) (phase : Phase) (intent : Intent) :
    Except String (Option OriginalBudget) :=
  if phase = .observeStop then do
    let scope ← okOr (r.stopScope.filter fun _ => r.stopping.isSome)
      "readonly stop query lacks its original declaration"
    refuse (!intent.budget.isWithin scope)
      "original readonly stop intent exceeds declared scope"
    pure (some scope)
  else pure none

def validateObservation (scope : Option OriginalBudget)
    (o : Observation) : Except String Unit := do
  o.budget.validate
  refuse (decide (maximumRequest profiles < o.budget.durationMs) ||
      scope.any fun scope => !o.budget.isWithin scope)
    "original peer observation budget differs"

def validateIntent (codec : Codec) (profiles : OrdMap Nat Profile) (r : Transaction)
    (domain : String) (entry : Phase × Intent) : Except String Unit := do
  let intent := entry.2
  intent.budget.validate
  refuse (decide (16 < intent.observations.length) ||
      !profiles.contains intent.profileRevision ||
      (profiles.get? intent.profileRevision).any fun p =>
        decide (p.requestBudgetMs < intent.budget.durationMs))
    "original peer intent wire/profile identity changed"
  let wire ← r.wireBody domain entry.1
  refuse (intent.requestDigest != codec.digest (optionJson Command.toJson wire))
    "original peer intent wire/profile identity changed"
  let scope ← validateScope r entry.1 intent
  intent.observations.forM (validateObservation profiles scope)

def validateIntents (codec : Codec) (profiles : OrdMap Nat Profile) (r : Transaction)
    (entry : String × OrdMap Phase Intent) : Except String Unit := do
  refuse (!r.manifest.participants.contains entry.1 || decide (8 < entry.2.keys.length))
    "original peer intent domains or phases invalid"
  entry.2.entries.forM (validateIntent codec profiles r entry.1)

def validateRecord (codec : Codec) (s : State) (entry : String × Transaction) :
    Except String Unit := do
  let r := entry.2
  r.manifest.validate codec
  r.budget.validate
  validateOrigin s entry.1 r
  r.stopObservation.toList.forM (validateStopObservation s.profiles r)
  refuse (r.rootEpoch.isEmpty || entry.1 != r.manifest.transactionId ||
      r.budget.durationMs != r.manifest.budgetMs ||
      r.nonces.keys != r.manifest.participants.keys ||
      (r.decision.any fun decision =>
        some (Decision.seal codec r.manifest r.prepared) != some decision) ||
      !r.released.keys.all fun domain => r.commits.contains domain)
    "original Federation root manifest, clocks or decision mismatch"
  r.clocks.entries.forM (validateClock s.profiles r)
  r.intents.entries.forM (validateIntents codec s.profiles r)

/-- `validate`, with the profile of the deployment that starts. -/
def validate (k : Capacity) (configured : Option Profile) (s : State) : Except String Unit := do
  refuse (decide (128 < s.transactions.keys.length) || decide (1024 < s.profiles.keys.length))
    "Federation coordinator history bound exceeded"
  let revisions ← replayProfiles s.profiles
  validateConfigured s.profiles revisions configured
  validateOrigins s
  s.transactions.entries.forM (validateRecord k.codec s)
  k.bounded s

end RoboGuide.Federation
