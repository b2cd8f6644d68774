import RoboGuide.Domain.Identity
import RoboGuide.Lib.Fallible
import RoboGuide.Lib.OrdMap
import RoboGuide.Lib.Transition

/-!
# `RoboGuide.Replication.Certificates`: the leaves of the cluster members

`controller-replication/src/certificates.rs`: the trust of the infrastructure members in each
other. A member has a current leaf and at most one staged replacement; retiring and aborting
withdraw a leaf for ever. Every accepted operation is kept as a receipt, and `validate` replays
the receipts from the bootstrap.

`digest`, the SHA-256 over the encoded trust, is a parameter.

`apply_outcome` lists what `apply` can do: refuse, repeat the original receipt, or accept.
-/

namespace RoboGuide.Replication

open Domain Lib Fallible

/-! ### Records -/

inductive CertificateAction where
  | stage (previousLeaf newLeaf : String)
  | retire (stageCommandId previousLeaf newLeaf : String)
  | abort (stageCommandId previousLeaf newLeaf : String)
deriving DecidableEq

structure CertificateRequest where
  commandId : String
  expectedRevision : Nat
  member : Nat
  action : CertificateAction
deriving DecidableEq

structure MemberCertificates where
  current : String
  staged : Option String
  retired : OrdSet String
deriving DecidableEq

structure CertificateProbe where
  member : Nat
  presentedLeaf : String
  revision : Nat
  trustDigest : String
  target : Nat
  targetLeaf : String
  observerCaBundleDigest : String
  targetCaBundleDigest : String
deriving DecidableEq

structure CertificateReceipt where
  request : CertificateRequest
  caller : Nat
  callerLeaf : String
  revision : Nat
  probes : List CertificateProbe
deriving DecidableEq

structure CertificateTrust where
  schema : String
  bootstrap : OrdMap Nat String
  revision : Nat
  members : OrdMap Nat MemberCertificates
  receipts : List CertificateReceipt
deriving DecidableEq

structure CertificateMutation where
  request : CertificateRequest
  caller : Nat
  callerLeaf : String
  probes : List CertificateProbe
deriving DecidableEq

def maxCertificateCommands : Nat := 512

def validLeaf (value : String) : Bool :=
  let hex := value.toList.drop 7
  value.toList.take 7 == "sha256:".toList && hex.length == 64 &&
    hex.all fun c => c.isDigit || ('a' ≤ c && c ≤ 'f')

namespace CertificateTrust

def trustSchema : String := "roboguide.replica-certificate-trust/v0.1"

def initial (bootstrap : OrdMap Nat String) : Except String CertificateTrust := do
  refuse (!(decide (3 ≤ bootstrap.keys.length) && decide (bootstrap.keys.length ≤ 9)) ||
      bootstrap.contains 0 || (bootstrap.values.any fun leaf => !validLeaf leaf) ||
      (OrdSet.ofList bootstrap.values).keys.length != bootstrap.keys.length)
    "certificate bootstrap identity is invalid"
  pure
    { schema := trustSchema
      bootstrap
      revision := 0
      members := bootstrap.mapValues fun _ leaf => ⟨leaf, none, ∅⟩
      receipts := [] }

def admitted (entry : MemberCertificates) (leaf : String) : Bool :=
  !entry.retired.contains leaf && (entry.current == leaf || entry.staged == some leaf)

def admits (t : CertificateTrust) (member : Nat) (leaf : String) : Bool :=
  (t.members.get? member).any (admitted · leaf)

def original (t : CertificateTrust) (request : CertificateRequest) (caller : Nat) :
    Except String (Option CertificateReceipt) :=
  match t.receipts.find? fun entry => entry.request.commandId == request.commandId with
  | none => pure none
  | some receipt => do
    refuse (receipt.request != request || receipt.caller != caller)
      "certificate command id conflicts with its original request or caller"
    pure (some receipt)

/-! ### Checks of a new operation -/

def checkStage (t : CertificateTrust) (entry : MemberCertificates) (previousLeaf newLeaf : String)
    (probes : List CertificateProbe) : Except String Unit :=
  refuse (entry.current != previousLeaf || !validLeaf newLeaf ||
      decide (maxCertificateCommands < t.receipts.length + 2) || !probes.isEmpty ||
      t.members.values.any fun member =>
        member.staged.isSome || member.current == newLeaf || member.retired.contains newLeaf)
    "certificate stage has stale owner, pending stage or reused leaf"

/-- The stage that is retired or aborted is the last operation. -/
def checkPending (t : CertificateTrust) (entry : MemberCertificates) (member : Nat)
    (stageCommandId previousLeaf newLeaf : String) : Except String Unit := do
  let stage ← okOr (t.receipts.find? fun receipt => receipt.request.commandId == stageCommandId)
    "certificate retirement has no original stage"
  refuse (stage.request.member != member || stage.revision != t.revision ||
      stage.request.action != .stage previousLeaf newLeaf || entry.current != previousLeaf ||
      entry.staged != some newLeaf)
    "certificate retirement differs from original stage or member coverage"

variable (digest : CertificateTrust → String) {t : CertificateTrust}

/-- One TLS confirmation. Each member gives one. -/
def checkProbe (t : CertificateTrust) (target : Nat)
    (newLeaf : String) (covered : OrdSet Nat) (probe : CertificateProbe) :
    Except String (OrdSet Nat) := do
  refuse (covered.contains probe.member || !t.admits probe.member probe.presentedLeaf ||
      probe.revision != t.revision || probe.trustDigest != digest t || probe.target != target ||
      probe.targetLeaf != newLeaf || !validLeaf probe.observerCaBundleDigest ||
      !validLeaf probe.targetCaBundleDigest)
    "certificate retirement lacks exact fresh all-member TLS evidence"
  pure (covered.insert probe.member ())

/-- The TLS confirmations of all members. -/
def checkProbes (t : CertificateTrust) (target : Nat)
    (newLeaf : String) (probes : List CertificateProbe) : Except String Unit := do
  refuse (probes.length != t.members.keys.length) "retirement lacks all original member proofs"
  let covered ← probes.foldlM (checkProbe digest t target newLeaf) ∅
  refuse (covered.keys != t.members.keys) "certificate retirement member coverage differs"

def checkAction (t : CertificateTrust)
    (entry : MemberCertificates) (m : CertificateMutation) : Except String Unit :=
  match m.request.action with
  | .stage previousLeaf newLeaf => t.checkStage entry previousLeaf newLeaf m.probes
  | .retire stageCommandId previousLeaf newLeaf => do
    t.checkPending entry m.request.member stageCommandId previousLeaf newLeaf
    t.checkProbes digest m.request.member newLeaf m.probes
  | .abort stageCommandId previousLeaf newLeaf => do
    t.checkPending entry m.request.member stageCommandId previousLeaf newLeaf
    refuse (!m.probes.isEmpty) "abort cannot assert retirement TLS confirmations"

def checkNew (t : CertificateTrust) (m : CertificateMutation) :
    Except String MemberCertificates := do
  refuse (isBlank m.request.commandId || decide (128 < m.request.commandId.utf8ByteSize) ||
      m.request.expectedRevision != t.revision ||
      decide (maxCertificateCommands ≤ t.receipts.length))
    "certificate request revision/caller/identity/bounds differ"
  let entry ← okOr (t.members.get? m.request.member) "certificate target is not enrolled"
  t.checkAction digest entry m
  pure entry

/-! ### Apply -/

def advance (entry : MemberCertificates) : CertificateAction → MemberCertificates
  | .stage _ newLeaf => { entry with staged := some newLeaf }
  | .retire _ previousLeaf newLeaf =>
    ⟨newLeaf, none, entry.retired.insert previousLeaf ()⟩
  | .abort _ _ newLeaf => ⟨entry.current, none, entry.retired.insert newLeaf ()⟩

def receipt (t : CertificateTrust) (m : CertificateMutation) : CertificateReceipt :=
  ⟨m.request, m.caller, m.callerLeaf, t.revision + 1, m.probes⟩

/-- The trust after a new operation. -/
def accept (t : CertificateTrust) (entry : MemberCertificates) (m : CertificateMutation) :
    CertificateTrust :=
  { t with
    revision := t.revision + 1
    members := t.members.insert m.request.member (advance entry m.request.action)
    receipts := t.receipts ++ [t.receipt m] }

def apply (m : CertificateMutation) :
    EStateM String CertificateTrust CertificateReceipt := do
  let t ← get
  check (refuse (!t.admits m.caller m.callerLeaf) "current certificate caller is not admitted")
  let found ← check (t.original m.request m.caller)
  match found with
  | some receipt => pure receipt
  | none => do
    let entry ← check (t.checkNew digest m)
    set (t.accept entry m)
    pure (t.receipt m)

def mutation (r : CertificateReceipt) :
    CertificateMutation :=
  ⟨r.request, r.caller, r.callerLeaf, r.probes⟩

def replay (rebuilt : CertificateTrust)
    (r : CertificateReceipt) : Except String CertificateTrust :=
  match apply digest (mutation r) rebuilt with
  | .error e _ => .error e
  | .ok applied rebuilt' => do
    refuse (applied != r) "certificate original receipt differs"
    pure rebuilt'

def validate (t : CertificateTrust) : Except String Unit := do
  refuse (t.schema != trustSchema || decide (maxCertificateCommands < t.receipts.length) ||
      t.revision != t.receipts.length)
    "certificate authority schema/revision/bounds differ"
  let rebuilt ← initial t.bootstrap
  let rebuilt ← t.receipts.foldlM (replay digest) rebuilt
  refuse (rebuilt != t) "certificate current projection differs from original evidence"

/-! ### What `apply` does -/

/-- The outcomes of `apply`. -/
inductive Outcome (digest : CertificateTrust → String) (t : CertificateTrust)
    (m : CertificateMutation) :
      EStateM.Result String CertificateTrust CertificateReceipt → Prop where
  | refused (e : String) : Outcome digest t m (.error e t)
  | repeated {r : CertificateReceipt} (caller : t.admits m.caller m.callerLeaf = true)
      (found : t.original m.request m.caller = .ok (some r)) : Outcome digest t m (.ok r t)
  | accepted {entry : MemberCertificates} (caller : t.admits m.caller m.callerLeaf = true)
      (new : t.original m.request m.caller = .ok none) (checked : t.checkNew digest m = .ok entry) :
      Outcome digest t m (.ok (t.receipt m) (t.accept entry m))

lemma apply_outcome (t : CertificateTrust)
    (m : CertificateMutation) : Outcome digest t m (apply digest m t) := by
  unfold apply
  rw [run_get_bind, run_check_bind]
  cases hcaller : t.admits m.caller m.callerLeaf with
  | false => exact .refused _
  | true =>
    show Outcome digest t m ((check (t.original m.request m.caller) >>= _) t)
    rw [run_check_bind]
    cases horiginal : t.original m.request m.caller with
    | error e => exact .refused e
    | ok found =>
      cases found with
      | some => exact .repeated hcaller horiginal
      | none =>
        show Outcome digest t m ((check (t.checkNew digest m) >>= _) t)
        rw [run_check_bind]
        cases hchecked : t.checkNew digest m with
        | error e => exact .refused e
        | ok => exact .accepted hcaller horiginal hchecked

lemma apply_accepted {digest : CertificateTrust → String}
    {m : CertificateMutation} {entry : MemberCertificates}
    (hcaller : t.admits m.caller m.callerLeaf = true)
    (hnew : t.original m.request m.caller = .ok none) (hchecked : t.checkNew digest m = .ok entry) :
    apply digest m t = .ok (t.receipt m) (t.accept entry m) := by
  unfold apply
  rw [run_get_bind, run_check_bind, hcaller]
  show (check (t.original m.request m.caller) >>= _) t = _
  rw [run_check_bind, hnew]
  show (check (t.checkNew digest m) >>= _) t = _
  rw [run_check_bind, hchecked]
  rfl

lemma original_eq_none {request : CertificateRequest} {caller : Nat} :
    t.original request caller = .ok none ↔
      ∀ r ∈ t.receipts, r.request.commandId ≠ request.commandId := by
  unfold original
  constructor
  · intro h
    split at h
    · next hnone =>
      intro r hr
      simpa using List.find?_eq_none.mp hnone r hr
    · simp only [bind_eq_ok, pure_eq_ok] at h
      obtain ⟨_, -, h⟩ := h
      cases h
  · intro h
    rw [List.find?_eq_none.mpr fun r hr => by simpa using h r hr]
    rfl

/-- One call, accepted or not. -/
def step (t : CertificateTrust) (m : CertificateMutation) :
    CertificateTrust := state (apply digest m t)

/-- A sequence of calls. -/
abbrev Run : CertificateTrust → CertificateTrust → Prop :=
  Reaches (step digest) fun _ _ => True

lemma step_cases (t : CertificateTrust) (m : CertificateMutation) : step digest t m = t ∨
      ∃ entry, t.admits m.caller m.callerLeaf = true ∧ t.original m.request m.caller = .ok none ∧
        t.checkNew digest m = .ok entry ∧ step digest t m = t.accept entry m := by
  have houtcome := apply_outcome digest t m
  unfold step
  generalize apply digest m t = result at houtcome ⊢
  cases houtcome with
  | refused | repeated => exact .inl rfl
  | accepted caller new checked => exact .inr ⟨_, caller, new, checked, rfl⟩

end CertificateTrust

end RoboGuide.Replication
