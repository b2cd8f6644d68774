import RoboGuide.Federation.Budget
import RoboGuide.Federation.Manifest

/-!
# `RoboGuide.Federation.Coordinator`: the record of the root

`application/federation/coordinator.rs`: what the root retains of a transaction, how retained
replies are reduced to receipts, and which phase each participant is in. Phases are recomputed
from the record each time; `reduce` is the only function that moves the record forward.
-/

namespace RoboGuide.Federation

open Domain Lib
open Fallible (refuse okOr check)

/-! ### Peer profiles -/

structure Peer where
  address : String
  serverName : String
  serverLeaf : String
  caFile : String
  caDigest : String
  clientCert : String
  clientLeaf : String
  clientKey : String
  principalId : String
deriving DecidableEq

/-- The generations of `roboguide.federation-peers`. -/
inductive PeerSchema where
  | v01 | v02 | v03
deriving DecidableEq

def PeerSchema.rank : PeerSchema → Nat
  | .v01 => 1
  | .v02 => 2
  | .v03 => 3

structure Profile where
  schemaVersion : PeerSchema
  profileId : String
  revision : Nat
  localDomain : String
  maxDriftPpm : Nat
  requestBudgetMs : Nat
  budgetScope : Option String
  stopObservationBudgetMs : Option Nat
  peers : OrdMap String Peer
deriving DecidableEq

def maximumRequestBudget (schemaVersion : PeerSchema) (scope : Option String) :
    Except String Nat :=
  match schemaVersion, scope with
  | .v01, none => .ok 10000
  | .v02, some "intent-publication-and-peer-io" => .ok 30000
  | .v03, some "intent-publication-and-peer-io" => .ok 30000
  | _, _ => .error "unsupported explicit Federation request-budget contract"

def Profile.validateShape (p : Profile) : Except String Unit := do
  let maximum ← maximumRequestBudget p.schemaVersion p.budgetScope
  refuse (p.profileId.isEmpty || p.revision == 0 ||
      !(decide (2 ≤ p.peers.keys.length) && decide (p.peers.keys.length ≤ 16)) ||
      !p.peers.contains p.localDomain || decide (1000 < p.maxDriftPpm) ||
      !(decide (100 ≤ p.requestBudgetMs) && decide (p.requestBudgetMs ≤ maximum)) ||
      (if p.schemaVersion = .v03 then
        !p.stopObservationBudgetMs.any fun b => decide (1000 ≤ b) && decide (b ≤ 300000)
      else p.stopObservationBudgetMs.isSome))
    "invalid explicit Federation peer profile"

/-! ### Records -/

/-- The phases of a participant, in the order of their names. -/
inductive Phase where
  | abort | commit | observe | observeStop | prepare | probe | release | stop
deriving DecidableEq

namespace Phase

def index : Phase → Nat
  | abort => 0
  | commit => 1
  | observe => 2
  | observeStop => 3
  | prepare => 4
  | probe => 5
  | release => 6
  | stop => 7

lemma index_injective : Function.Injective index := by
  intro a b h
  cases a <;> cases b <;> first | rfl | cases h

instance : LinearOrder Phase := LinearOrder.lift' index index_injective

/-- `matches!(phase, "observe" | "observe-stop")`: a GET, without a body. -/
def readsOnly (phase : Phase) : Bool := phase == .observe || phase == .observeStop

/-- `matches!(phase, "probe" | "prepare" | "commit")`. -/
def hasReceipt (phase : Phase) : Bool :=
  phase == .probe || phase == .prepare || phase == .commit

end Phase

structure Reply where
  status : Nat
  body : Json
  leaf : String
deriving DecidableEq

/-- `(200..300).contains(&reply.status)`. -/
def Reply.succeeded (reply : Reply) : Bool :=
  decide (200 ≤ reply.status) && decide (reply.status < 300)

structure Observation where
  budget : OriginalBudget
  sentAtMs : Nat
  reply : Option Reply
  error : Option String
deriving DecidableEq

structure Intent where
  requestDigest : String
  sentAtMs : Nat
  budget : OriginalBudget
  profileRevision : Nat
  reply : Option Reply
  receivedAtMs : Option Nat
  receivedKernel : Option KernelTime
  error : Option String
  observations : List Observation
deriving DecidableEq

structure StopObservation where
  profileRevision : Nat
  durationMs : Nat
  budget : Option OriginalBudget
deriving DecidableEq

structure ClockProof where
  sentAtMs : Nat
  receivedAtMs : Nat
  remoteReceivedAtMs : Nat
  remoteResponseAtMs : Nat
  minimumOffsetMs : Int
  maximumOffsetMs : Int
  remainingAtReceiveMs : Nat
deriving DecidableEq

structure Transaction where
  manifest : Manifest
  rootEpoch : String
  principal : String
  leaf : String
  certificateExpiresAtMs : Nat
  budget : OriginalBudget
  nonces : OrdMap String String
  probes : OrdMap String Json
  clocks : OrdMap String ClockProof
  prepared : OrdMap String Json
  decision : Option Decision
  commits : OrdMap String Json
  released : OrdSet String
  intents : OrdMap String (OrdMap Phase Intent)
  completed : OrdMap String Json
  stopping : Option String
  cleanupBudget : Option OriginalBudget
  stopObservation : Option StopObservation
  stopped : OrdSet String
deriving DecidableEq

variable (r : Transaction)

def Transaction.intent (domain : String) (phase : Phase) : Option Intent :=
  (r.intents.get? domain).bind (·.get? phase)

structure State where
  profiles : OrdMap Nat Profile
  transactions : OrdMap String Transaction
  origins : Option (OrdMap String (Option Nat))
deriving DecidableEq

def State.empty : State := ⟨∅, ∅, none⟩

/-! ### Installing a profile -/

def lastProfile (profiles : OrdMap Nat Profile) : Option Profile := profiles.values.getLast?

def validateSuccessor (profiles : OrdMap Nat Profile) (profile : Profile) : Except String Unit :=
  match profiles.entries.getLast? with
  | some (revision, previous) => do
    refuse (decide (profile.schemaVersion.rank < previous.schemaVersion.rank) ||
        checkedAdd revision 1 != some profile.revision ||
        previous.profileId != profile.profileId || previous.localDomain != profile.localDomain ||
        !previous.peers.keys.all fun domain => profile.peers.contains domain)
      "Federation peer profile regression or original domain removal"
    previous.peers.entries.forM fun (domain, peer) =>
      refuse ((profile.peers.get? domain).map (·.principalId) != some peer.principalId)
        "Federation peer stable principal changed"
  | none => refuse (profile.revision != 1) "first Federation peer profile must start at one"

def modern (profiles : OrdMap Nat Profile) : Bool :=
  profiles.values.any fun p => p.schemaVersion == .v03

/-- The admission table a profile installs: the first v0.3 profile marks every transaction that
is already there as older. -/
def installedOrigins (s : State) (profile : Profile) :
    Except String (Option (OrdMap String (Option Nat))) :=
  if profile.schemaVersion == .v03 && !modern s.profiles then do
    refuse s.origins.isSome "legacy original admission table conflicts"
    pure (some (s.transactions.mapValues fun _ _ => none))
  else pure s.origins

def installProfile (s : State) (profile : Profile) : Except String State := do
  profile.validateShape
  if lastProfile s.profiles = some profile then pure s
  else do
    validateSuccessor s.profiles profile
    refuse (decide (1024 ≤ s.profiles.keys.length))
      "original peer profile history capacity exhausted"
    let origins ← installedOrigins s profile
    pure { s with profiles := s.profiles.insert profile.revision profile, origins }

/-! ### Clock translations -/

def saturatingMul (a b : Nat) : Nat := min (a * b) u64Max

def saturatingAdd (a b : Nat) : Nat := min (a + b) u64Max

/-- The drift allowance of `clock_proof`. -/
def clockDrift (budgetMs maxDriftPpm : Nat) : Nat :=
  saturatingAdd ((saturatingMul budgetMs maxDriftPpm + 999999) / 1000000) 20

/-- `i64::try_from`. -/
def asI64 (n : Int) : Except String Int := do
  refuse (!(decide (-(2 ^ 63 : Int) ≤ n) && decide (n < (2 ^ 63 : Int)))) "clock offset overflow"
  pure n

def clockProof (m : Manifest) (profile : Profile) (intent : Intent) (reply : Json)
    (received remaining : Nat) : Except String ClockProof := do
  let first ← okOr (reply.field "received_at_ms").asU64 "actual peer receive sample missing"
  let last ← okOr (reply.field "response_at_ms").asU64 "actual peer response sample missing"
  let elapsed ← okOr (checkedSub received intent.sentAtMs)
    "local clock regressed across original peer I/O"
  let drift := clockDrift m.budgetMs profile.maxDriftPpm
  let lower : Int := last - received - drift
  let upper : Int := first - intent.sentAtMs + drift
  refuse (decide (last < first) || decide (upper < lower) ||
      decide ((m.maxClockUncertaintyMs : Int) < upper - lower) ||
      (reply.field "duration_ms").asU64 != some m.budgetMs)
    "actual peer clock interval exceeds original deployment uncertainty contract"
  let minimumOffsetMs ← asI64 lower
  let maximumOffsetMs ← asI64 upper
  pure
    { sentAtMs := intent.sentAtMs
      receivedAtMs := received
      remoteReceivedAtMs := first
      remoteResponseAtMs := last
      minimumOffsetMs, maximumOffsetMs
      remainingAtReceiveMs := min remaining (m.budgetMs - elapsed - drift) }

/-! ### Receipts -/

def goalReached (body : Json) : Bool :=
  body.field "mission_lifecycle" == .string "Completed" &&
    (body.field "goal_contract").isObject && (body.field "goal_receipts").isNonemptyArray

def directEffect (phase : Phase) (reply : Reply) : Option Json :=
  if reply.succeeded &&
      (!(phase == .stop || phase == .abort || phase == .observeStop) ||
        reply.body.field "resources_released" == .bool true) &&
      (phase != .observeStop || (reply.body.get? "stopped").any (· != .null)) &&
      (phase != .observe || goalReached reply.body) then some reply.body
  else none

def observedEffect (phase : Phase) (reply : Reply) : Option Json :=
  if reply.status != 200 then none
  else match phase with
    | .release => if reply.body.field "released" == .bool true then some reply.body else none
    | .observe => if goalReached reply.body then some reply.body else none
    | .stop | .abort | .observeStop =>
      if reply.body.field "stopped" != .null &&
          reply.body.field "resources_released" == .bool true then some reply.body
      else none
    | .probe => (reply.body.get? "probe").filter (· != .null)
    | .prepare => (reply.body.get? "prepared").filter (· != .null)
    | .commit => (reply.body.get? "committed").filter (· != .null)

def effect (intent : Intent) (phase : Phase) : Option Json :=
  (intent.reply.bind (directEffect phase)).or
    (intent.observations.reverse.findSome? fun o => o.reply.bind (observedEffect phase))

/-! ### Reduction -/

namespace Transaction

/-- `stopping.get_or_insert`. -/
def halt (reason : String) : Transaction :=
  { r with stopping := some (r.stopping.getD reason) }

def refusedCommand (phase : Phase) (intent : Intent) : Bool :=
  (phase == .probe || phase == .prepare || phase == .commit || phase == .release) &&
    intent.reply.any fun reply => decide (400 ≤ reply.status) && decide (reply.status < 500)

/-- A reply says that the participant stopped, or that its Mission did not succeed. -/
def reportsStop (reply : Reply) : Bool :=
  reply.status == 200 && ((reply.body.get? "stopped").any (· != .null) ||
    reply.body.field "mission_lifecycle" == .string "Failed" ||
    reply.body.field "mission_lifecycle" == .string "Cancelled")

/-- The stops a phase's replies ask for. -/
def haltFor (phase : Phase) (intent : Intent) (r : Transaction) : Transaction :=
  let r := if refusedCommand phase intent then r.halt "actual-participant-command-refused" else r
  if intent.reply.any reportsStop || intent.observations.any fun o => o.reply.any reportsStop then
    r.halt "actual-participant-stop-or-failure"
  else r

def namesReceipt (codec : Codec) (r : Transaction) (domain : String) (value : Json) : Bool :=
  value.field "manifest_digest" == .string (codec.digest r.manifest.toJson) &&
    value.field "domain" == .string domain &&
    value.field "transaction_id" == .string r.manifest.transactionId

/-- The first probe receipt, with its clock translation. -/
def retainProbe (profile : Profile) (r : Transaction) (domain : String) (intent : Intent)
    (value : Json) : Except String Transaction := do
  refuse (some (value.field "nonce") != (r.nonces.get? domain).map .string)
    "real peer probe nonce differs"
  refuse (!intent.reply.any Reply.succeeded)
    "original probe reply missing; clock translation remains unavailable"
  let received ← okOr intent.receivedAtMs "original actual response sample absent"
  let kernel ← okOr intent.receivedKernel "original actual receive kernel missing"
  let proof ← clockProof r.manifest profile intent value received (r.budget.remaining kernel)
  pure { r with
    clocks := if r.clocks.contains domain then r.clocks else r.clocks.insert domain proof
    probes := r.probes.insert domain value }

/-- A prepared receipt. The first one is kept. -/
def retainPrepared (domain : String) (value : Json) :
    Except String Transaction := do
  refuse (some (value.field "epoch") != (r.probes.get? domain).map (·.field "epoch") ||
      some (value.field "nonce") != (r.nonces.get? domain).map .string ||
      !(value.field "bindings").isNonemptyArray)
    "real preparation lacks original actual resource or epoch proof"
  pure { r with
    prepared := if r.prepared.contains domain then r.prepared
      else r.prepared.insert domain value }

/-- A Commit receipt. The first one is kept. -/
def retainCommit (codec : Codec) (r : Transaction) (domain : String) (value : Json) :
    Except String Transaction := do
  let decision ← okOr r.decision "peer Commit precedes durable root decision"
  refuse (value.field "decision_digest" != .string decision.digest ||
      some (value.field "prepared_digest") !=
        (r.prepared.get? domain).map fun p => .string (codec.digest p))
    "real peer Commit differs from original global decision"
  pure { r with
    commits := if r.commits.contains domain then r.commits else r.commits.insert domain value }

def retainObservedStop (codec : Codec) (r : Transaction) (domain : String) (value : Json) :
    Except String Transaction := do
  let probe := value.field "probe"
  refuse (r.stopping.isNone ||
      probe.field "manifest_digest" != .string (codec.digest r.manifest.toJson) ||
      probe.field "transaction_id" != .string r.manifest.transactionId ||
      probe.field "domain" != .string domain ||
      some (probe.field "nonce") != (r.nonces.get? domain).map .string)
    "readonly stop observation differs from original peer authority"
  pure { r with stopped := r.stopped.insert domain () }

def retainReceipt (codec : Codec) (profile : Profile) (r : Transaction) (domain : String)
    (phase : Phase) (intent : Intent) (value : Json) : Except String Transaction :=
  match phase with
  | .probe => if r.probes.contains domain then .ok r else r.retainProbe profile domain intent value
  | .prepare => r.retainPrepared domain value
  | .commit => r.retainCommit codec domain value
  | .release => .ok { r with released := r.released.insert domain () }
  | .stop | .abort => .ok { r with stopped := r.stopped.insert domain () }
  | .observeStop => r.retainObservedStop codec domain value
  | .observe => .ok { r with
      completed := if r.completed.contains domain then r.completed
        else r.completed.insert domain value }

/-- A receipt is compared with the transaction, then retained. -/
def receive (codec : Codec) (profile : Profile) (r : Transaction) (domain : String)
    (phase : Phase) (intent : Intent) (value : Json) : Except String Transaction := do
  refuse (phase.hasReceipt && !r.namesReceipt codec domain value)
    "real peer receipt differs from original global identity"
  r.retainReceipt codec profile domain phase intent value

/-- One turn of the inner loop of `reduce`. -/
def reduceIntent (codec : Codec) (profile : Profile) (domain : String) (entry : Phase × Intent) :
    EStateM String Transaction Unit := do
  modify (haltFor entry.1 entry.2)
  match effect entry.2 entry.1 with
  | none => pure ()
  | some value => do
    let r ← get
    let r ← check (r.receive codec profile domain entry.1 entry.2 value)
    set r

/-- All participants prepared: the decision. -/
def fixDecision (codec : Codec) (r : Transaction) : Transaction :=
  if r.decision.isNone && r.stopping.isNone &&
      r.prepared.keys.length == r.manifest.participants.keys.length then
    { r with decision := some (.seal codec r.manifest r.prepared) }
  else r

/-- It can fail after some receipts were retained. -/
def reduce (codec : Codec) (profile : Profile) : EStateM String Transaction Unit := do
  let r ← get
  r.manifest.participants.keys.forM fun domain => do
    let r ← get
    ((r.intents.get? domain).getD ∅).entries.forM (reduceIntent codec profile domain)
  modify (fixDecision codec)

/-! ### Phases -/

def phase (domain : String) : Option Phase :=
  if r.stopping.isSome then
    if r.stopped.contains domain then none
    else if !r.probes.contains domain then some .probe
    else if r.decision.isNone then some .abort
    else some .stop
  else if !r.probes.contains domain then some .probe
  else if r.probes.keys.length != r.manifest.participants.keys.length then none
  else if !r.prepared.contains domain then some .prepare
  else if r.decision.isNone then none
  else if !r.commits.contains domain then some .commit
  else if r.commits.keys.length != r.manifest.participants.keys.length then none
  else if !r.released.contains domain then some .release
  else if !r.completed.contains domain then some .observe
  else none

def stopScope : Option OriginalBudget := r.stopObservation.bind (·.budget)

def boundedPhase (domain : String) (kernel : KernelTime) : Option Phase :=
  if r.stopping.isSome && !r.stopped.contains domain &&
      r.cleanupBudget.any fun b => b.remaining kernel == 0 then
    (r.stopScope.filter fun b => decide (0 < b.remaining kernel)).map fun _ => .observeStop
  else r.phase domain

def phaseRemaining (phase : Phase) (kernel : KernelTime) : Nat :=
  if phase = .observeStop then (r.stopScope.map (·.remaining kernel)).getD 0
  else ((r.cleanupBudget.filter fun _ => r.stopping.isSome).getD r.budget).remaining kernel

def bodyEpoch (domain : String) (phase : Phase) :
    Except String (Option String) :=
  if phase = .probe then .ok none
  else some <$> okOr ((r.probes.get? domain).bind fun p => (p.field "epoch").asStr)
    "original actual peer epoch absent"

def body (domain : String) (phase : Phase) : Except String Command := do
  let nonce ← okOr (r.nonces.get? domain) "no nonce"
  let epoch ← r.bodyEpoch domain phase
  pure
    { schemaVersion := schema
      manifest := r.manifest
      nonce, epoch
      decision := if phase == .commit || phase == .release then r.decision else none
      commits := if phase == .release then some r.commits else none }

def wireBody (domain : String) (phase : Phase) :
    Except String (Option Command) :=
  if phase.readsOnly then .ok none else some <$> r.body domain phase

end Transaction

end RoboGuide.Federation
