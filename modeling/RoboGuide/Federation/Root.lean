import RoboGuide.Federation.Coordinator
import RoboGuide.Lib.Transition

/-!
# `RoboGuide.Federation.Root`: the turns of the root

The writing functions of `application/federation/coordinator.rs`. `submit` admits a manifest,
`admit_work` takes a turn for one participant and retains at most one intent or observation
before anything is sent, and `perform` retains the result of one request. Each runs as one
transaction: a refused call leaves the state as it was.

The clocks, the writer epoch, the current authorization and the peer profile of the deployment
are inputs of each call, and so is every reply. A restart keeps the state and is no move.
-/

namespace RoboGuide.Federation

open Domain Lib
open Fallible (refuse okOr check)

/-- `current_writer_epoch`: a profile or process and a number, so never empty. -/
structure WriterEpoch where
  text : String
  nonempty : text.isEmpty = false
deriving DecidableEq

structure Capacity where
  codec : Codec
  /-- `serde_json::to_vec(&coordinations).len()`. -/
  stateLength : State → Nat

def Capacity.bounded (k : Capacity) (s : State) : Except String Unit :=
  refuse (decide (16777216 < k.stateLength s))
    "original Federation retained authority capacity exhausted"

/-! ### Submission -/

/-- The inputs of `submit`. -/
structure Submission where
  manifest : Manifest
  profile : Profile
  authorized : Bool
  principal : String
  leaf : String
  expiresAtMs : Nat
  epoch : WriterEpoch
  kernel : KernelTime
  /-- The random nonce of each domain. -/
  nonce : String → String

def Submission.record (i : Submission) (budget : OriginalBudget) : Transaction where
  manifest := i.manifest
  rootEpoch := i.epoch.text
  principal := i.principal
  leaf := i.leaf
  certificateExpiresAtMs := i.expiresAtMs
  budget := budget
  nonces := i.manifest.participants.mapValues fun domain _ => i.nonce domain
  probes := ∅
  clocks := ∅
  prepared := ∅
  decision := none
  commits := ∅
  released := ∅
  intents := ∅
  completed := ∅
  stopping := none
  cleanupBudget := none
  stopObservation := i.profile.stopObservationBudgetMs.map fun durationMs =>
    ⟨i.profile.revision, durationMs, none⟩
  stopped := ∅

/-- The admission table with a new transaction. -/
def admittedOrigins (s : State) (i : Submission) :
    Except String (Option (OrdMap String (Option Nat))) :=
  if i.profile.schemaVersion == .v03 then do
    let origins ← okOr s.origins "original v0.3 admission table installed"
    pure (some (origins.insert i.manifest.transactionId (some i.profile.revision)))
  else pure s.origins

/-- The transaction of `submit` on the installed state: a replay adds nothing. -/
def submitTransaction (s : State) (i : Submission) : Except String State :=
  match s.transactions.get? i.manifest.transactionId with
  | some original => do
    refuse (original.manifest != i.manifest || original.principal != i.principal)
      "original root transaction identity conflicts"
    pure s
  | none => do
    refuse (decide (128 ≤ s.transactions.keys.length))
      "original global transaction capacity exhausted"
    let budget ← OriginalBudget.new i.kernel i.manifest.budgetMs
    let origins ← admittedOrigins s i
    pure { s with
      origins
      transactions := s.transactions.insert i.manifest.transactionId (i.record budget) }

def submit (k : Capacity) (s : State) (i : Submission) : Except String State := do
  i.manifest.validate k.codec
  i.profile.validateShape
  refuse (i.manifest.coordinatorDomain != i.profile.localDomain ||
      !i.manifest.participants.keys.all fun domain => i.profile.peers.contains domain)
    "manifest differs from actual root and configured peers"
  refuse (!i.authorized) "actual coordinator execution delegation, tenant or domains refused"
  let s ← installProfile s i.profile
  let s ← submitTransaction s i
  k.bounded s
  pure s

/-! ### Turns -/

/-- The inputs of `admit_work`. -/
structure Turn where
  id : String
  domain : String
  profile : Profile
  authorized : Bool
  kernel : KernelTime
  wallMs : Nat
  epoch : WriterEpoch
  /-- The clock the backoff is measured with. -/
  nowMs : Nat
  sentAtMs : Nat

structure Work where
  domain : String
  phase : Phase
  body : Option Command
  observation : Option Nat
deriving DecidableEq

/-- The root lost its permission or its budget. -/
def Turn.lost (t : Turn) (r : Transaction) : Bool :=
  t.epoch.text != r.rootEpoch || !t.authorized || r.budget.remaining t.kernel == 0 ||
    decide (r.certificateExpiresAtMs ≤ t.wallMs)

/-- The record after the replies that are already there were reduced. -/
def Turn.reduced (codec : Codec) (t : Turn) (r : Transaction) : Transaction :=
  let r := if t.lost r then r.halt "original-root-permission-or-budget-lost" else r
  match Transaction.reduce codec t.profile r with
  | .ok _ r => r
  | .error e r => r.halt e

def anchorStop (kernel : KernelTime) :
    Option StopObservation → Except String (Option StopObservation)
  | none => pure none
  | some original => do
    let budget ← OriginalBudget.new kernel original.durationMs
    pure (some { original with budget := some budget })

def startCleanup (kernel : KernelTime) (r : Transaction) : Except String Transaction :=
  if r.stopping.isSome && r.cleanupBudget.isNone then do
    let cleanup ← OriginalBudget.new kernel 30000
    let stopObservation ← anchorStop kernel r.stopObservation
    pure { r with cleanupBudget := some cleanup, stopObservation }
  else pure r

/-- The pause before the next observation. -/
def backoffMs (intent : Intent) : Nat := min (500 * 2 ^ min intent.observations.length 6) 30000

/-- The last time the participant was asked. -/
def lastSentMs (intent : Intent) : Nat :=
  (intent.observations.getLast?.map (·.sentAtMs)).getD intent.sentAtMs

def Transaction.setIntent (r : Transaction) (domain : String) (phase : Phase) (intent : Intent) :
    Transaction :=
  let phases := ((r.intents.get? domain).getD ∅).insert phase intent
  { r with intents := r.intents.insert domain phases }

/-- A further question about a command that was sent. -/
def observeAgain (t : Turn) (r : Transaction) (phase : Phase) (intent : Intent)
    (requestDigest : String) (timeout : Nat) : Except String (Transaction × Option Work) := do
  refuse (intent.requestDigest != requestDigest) "original peer wire identity changed"
  if t.nowMs - lastSentMs intent < backoffMs intent || 16 ≤ intent.observations.length then
    pure (r, none)
  else do
    let budget ← OriginalBudget.new t.kernel timeout
    pure (r.setIntent t.domain phase
        { intent with observations := intent.observations ++ [⟨budget, t.sentAtMs, none, none⟩] },
      some ⟨t.domain, phase, none, some intent.observations.length⟩)

def sendFirst (t : Turn) (r : Transaction) (phase : Phase) (wire : Option Command)
    (requestDigest : String) (timeout : Nat) : Except String (Transaction × Option Work) := do
  let budget ← OriginalBudget.new t.kernel timeout
  pure (r.setIntent t.domain phase
      ⟨requestDigest, t.sentAtMs, budget, t.profile.revision, none, none, none, none, []⟩,
    some ⟨t.domain, phase, wire, none⟩)

def work (codec : Codec) (t : Turn) (r : Transaction) (phase : Phase) :
    Except String (Transaction × Option Work) := do
  let timeout := min (r.phaseRemaining phase t.kernel) t.profile.requestBudgetMs
  if timeout = 0 then pure (r, none)
  else do
    let wire ← r.wireBody t.domain phase
    let requestDigest := codec.digest (optionJson Command.toJson wire)
    match r.intent t.domain phase with
    | some intent => observeAgain t r phase intent requestDigest timeout
    | none => sendFirst t r phase wire requestDigest timeout

/-- The turn on the record. A participant that was never asked has nothing to stop. -/
def takeTurn (codec : Codec) (t : Turn) (r : Transaction) :
    Except String (Transaction × Option Work) := do
  let r ← startCleanup t.kernel (t.reduced codec r)
  if r.stopping.isSome && (r.intent t.domain .probe).isNone && !r.probes.contains t.domain then
    pure ({ r with stopped := r.stopped.insert t.domain () }, none)
  else
    match r.boundedPhase t.domain t.kernel with
    | none => pure (r, none)
    | some phase => work codec t r phase

/-- The retained bytes are only checked when there is work to send. -/
def admitWork (k : Capacity) (s : State) (t : Turn) : Except String (State × Option Work) := do
  let s ← installProfile s t.profile
  let r ← okOr (s.transactions.get? t.id) "unknown original global transaction"
  refuse (!r.manifest.participants.contains t.domain) "unknown participant"
  let (r, work) ← takeTurn k.codec t r
  let s := { s with transactions := s.transactions.insert t.id r }
  if work.isSome then k.bounded s
  pure (s, work)

/-! ### Results -/

/-- The result of one request: which one, what came back, and when. -/
structure Result where
  id : String
  domain : String
  phase : Phase
  observation : Option Nat
  reply : Except String Reply
  receivedAtMs : Nat
  receivedKernel : KernelTime

/-- The result of an observation. Only an empty slot is filled. -/
def Observation.retain (o : Observation) (reply : Except String Reply) :
    Except String Observation := do
  refuse (o.reply.isSome || o.error.isSome) "original peer result already retained"
  match reply with
  | .ok value => pure { o with reply := some value }
  | .error e => pure { o with error := some e }

def Intent.retain (intent : Intent) (i : Result) : Except String Intent := do
  refuse (intent.reply.isSome || intent.error.isSome) "original peer result already retained"
  let intent := { intent with
    receivedAtMs := some i.receivedAtMs, receivedKernel := some i.receivedKernel }
  match i.reply with
  | .ok value => pure { intent with reply := some value }
  | .error e => pure { intent with error := some e }

def Intent.withResult (intent : Intent) (i : Result) : Except String Intent :=
  match i.observation with
  | none => intent.retain i
  | some index => do
    let o ← okOr intent.observations[index]? "no such observation"
    let o ← o.retain i.reply
    pure { intent with observations := intent.observations.set index o }

def retainResult (r : Transaction) (i : Result) : Except String Transaction := do
  let intent ← okOr (r.intent i.domain i.phase) "original peer intent disappeared"
  let intent ← intent.withResult i
  pure (r.setIntent i.domain i.phase intent)

/-- `perform`, after the request. -/
def perform (k : Capacity) (s : State) (i : Result) : Except String State := do
  let r ← okOr (s.transactions.get? i.id) "original transaction disappeared"
  let r ← retainResult r i
  let s := { s with transactions := s.transactions.insert i.id r }
  k.bounded s
  pure s

/-! ### Runs -/

inductive Move where
  | submit (input : Submission)
  | turn (input : Turn)
  | result (input : Result)

/-- One move. A refused one changes nothing. -/
def State.step (k : Capacity) (s : State) : Move → State
  | .submit i => match Federation.submit k s i with
    | .ok s' => s'
    | .error _ => s
  | .turn t => match admitWork k s t with
    | .ok (s', _) => s'
    | .error _ => s
  | .result i => match perform k s i with
    | .ok s' => s'
    | .error _ => s

/-- A run whose moves meet `condition` where they are made. -/
abbrev State.Run (k : Capacity) (condition : State → Move → Prop) : State → State → Prop :=
  Reaches (State.step k) condition

end RoboGuide.Federation
