import RoboGuide.Domain.Identity
import RoboGuide.Lib.Fallible
import RoboGuide.Lib.OrdMap

/-!
# `RoboGuide.Domain.Node`: health, liveness, leases and identities of nodes

`core/domain/src/node_health.rs`, `lease.rs`, `node_liveness_evidence.rs` and the parts of
`node_identity.rs` that Control reads.
-/

namespace RoboGuide.Domain

open Lib
open Fallible (refuse okOr)

/-! ### Health and liveness -/

inductive NodeHealth where
  | online | degraded | offline | safeStopped
deriving DecidableEq

def NodeHealth.isSchedulable : NodeHealth → Bool
  | .online | .degraded => true
  | .offline | .safeStopped => false

structure NodeStatus where
  health : NodeHealth
  observedAt : TimestampMs
deriving DecidableEq

/-- Reachability as RoboGuide observes it. -/
inductive NodeLiveness where
  | reachable | unreachable
deriving DecidableEq

structure NodeLivenessObservation where
  liveness : NodeLiveness
  observedAt : TimestampMs
deriving DecidableEq

inductive SharedStateError where
  | unknownNode (nodeId : NodeId)
  | staleObservation (nodeId : NodeId) (currentOrderingTime incomingOrderingTime : TimestampMs)
deriving DecidableEq

/-! ### Leases -/

inductive LeaseError where
  | invalidDuration
  | leaseExpired
deriving DecidableEq

def LeaseError.text : LeaseError → String
  | .invalidDuration => "invalid node lease duration"
  | .leaseExpired => "node lease has expired"

structure NodeLease where
  leaseId : LeaseId
  nodeId : NodeId
  issuedAt : TimestampMs
  /-- The first instant at which the lease is no longer active. -/
  expiresAt : TimestampMs
deriving DecidableEq

namespace NodeLease

def new (leaseId : LeaseId) (nodeId : NodeId) (issuedAt : TimestampMs) (durationMs : Nat) :
    Except LeaseError NodeLease := do
  refuse (durationMs == 0) .invalidDuration
  let expiresAt ← okOr (checkedAdd issuedAt durationMs) .invalidDuration
  pure ⟨leaseId, nodeId, issuedAt, expiresAt⟩

def isActiveAt (l : NodeLease) (now : TimestampMs) : Bool := decide (now < l.expiresAt)

def renew (l : NodeLease) (now : TimestampMs) (durationMs : Nat) :
    Except LeaseError NodeLease := do
  refuse (!l.isActiveAt now) .leaseExpired
  new l.leaseId l.nodeId now durationMs

open Fallible in
lemma new_eq_ok {leaseId : LeaseId} {nodeId : NodeId} {issuedAt : TimestampMs}
    {durationMs : Nat} {l : NodeLease} (h : new leaseId nodeId issuedAt durationMs = .ok l) :
    l = ⟨leaseId, nodeId, issuedAt, issuedAt + durationMs⟩ := by
  simp only [new, checkedAdd, bind_eq_ok, okOr_eq_ok, pure_eq_ok, Option.ite_none_right_eq_some,
    Option.some.injEq] at h
  obtain ⟨_, -, _, ⟨-, rfl⟩, rfl⟩ := h
  rfl

open Fallible in
lemma renew_eq_ok {l l' : NodeLease} {now : TimestampMs} {durationMs : Nat}
    (h : l.renew now durationMs = .ok l') : l' = ⟨l.leaseId, l.nodeId, now, now + durationMs⟩ := by
  simp only [renew, bind_eq_ok] at h
  obtain ⟨_, -, hnew⟩ := h
  exact new_eq_ok hnew

end NodeLease

structure NodeHeartbeat where
  nodeId : NodeId
  leaseId : LeaseId
  status : NodeStatus
deriving DecidableEq

structure NodeSessionLivenessEvidence where
  nodeId : NodeId
  sessionId : String
  leaseId : LeaseId
  activatedAt : TimestampMs
  firstSequence : Nat
  lastSequence : Nat
  firstReceivedAt : TimestampMs
  lastReceivedAt : TimestampMs
  maximumGapMs : Nat
  reportedHealth : Option NodeStatus
deriving DecidableEq

/-! ### Identities -/

inductive IdentityPhase where
  | active | prepared | overlap | revoked
deriving DecidableEq

structure AttestationReport where
  receivedAtMs : TimestampMs
  validUntilMs : TimestampMs
deriving DecidableEq

/-- `NodeIdentityRecord`, as far as admission reads it. -/
structure NodeIdentityRecord where
  /-- `required_for_admission` of the measurement policy, if there is one. -/
  attestationRequired : Option Bool
  attestationReport : Option AttestationReport
  currentDigest : String
  previousDigest : Option String
  phase : IdentityPhase
  notBeforeMs : TimestampMs
  /-- Zero means no end. -/
  expiresAtMs : TimestampMs
  overlapUntilMs : Option TimestampMs
deriving DecidableEq

structure NodeIdentityRegistry where
  records : OrdMap NodeId NodeIdentityRecord
deriving DecidableEq

namespace NodeIdentityRegistry

def accepts (r : NodeIdentityRegistry) (node : NodeId) (digest : String) (now : TimestampMs) :
    Bool :=
  (r.records.get? node).any fun record =>
    record.phase != .revoked && decide (record.notBeforeMs ≤ now) &&
      (record.expiresAtMs == 0 || decide (now < record.expiresAtMs)) &&
      (digest == record.currentDigest ||
        (record.phase == .overlap && record.previousDigest == some digest &&
          record.overlapUntilMs.any fun until_ => decide (now < until_)))

/-- The measurement that admission of the node asks for is current. -/
def attested (r : NodeIdentityRegistry) (node : NodeId) (now : TimestampMs) : Bool :=
  (r.records.get? node).any fun record =>
    record.attestationRequired.all fun required =>
      !required || record.attestationReport.any fun report =>
        decide (report.receivedAtMs ≤ now) && decide (now < report.validUntilMs)

end NodeIdentityRegistry

end RoboGuide.Domain
