import RoboGuide.Control.Authority
import RoboGuide.Lib.Transition

/-!
# `RoboGuide.Control.Federation`: cross-domain sessions

`core/control/src/federation.rs` and the three operations of `core/control/src/lib.rs` on the
table of sessions, which no other operation reads or writes.
-/

namespace RoboGuide.Control

open Domain Lib Fallible

inductive FederationSessionState where
  | prepared | committed | aborted
deriving DecidableEq

structure FederationSession where
  transactionId : String
  sourceDomain : String
  targetDomain : String
  tenantId : String
  sourceEpoch : Nat
  planDigest : String
  ownershipDigest : String
  deadline : TimestampMs
  state : FederationSessionState
deriving DecidableEq

/-- `valid_digest` makes the same checks. -/
abbrev validDigest := validEvidenceDigest

def FederationSession.validateAt (s : FederationSession) (now : TimestampMs) :
    Except String Unit :=
  refuse (isBlank s.transactionId || decide (256 < s.transactionId.utf8ByteSize) ||
      isBlank s.sourceDomain || decide (128 < s.sourceDomain.utf8ByteSize) ||
      isBlank s.targetDomain || decide (128 < s.targetDomain.utf8ByteSize) ||
      s.sourceDomain == s.targetDomain || decide (128 < s.tenantId.utf8ByteSize) ||
      s.sourceEpoch == 0 || !validDigest s.planDigest || !validDigest s.ownershipDigest ||
      decide (s.deadline ≤ now))
    "federation session identity or deadline is invalid"

/-- The table of sessions, by transaction. An operation that fails leaves it as it was. -/
abbrev FederationSessions := OrdMap String FederationSession

namespace FederationSessions

def prepareFederationSession (sessions : FederationSessions) (session : FederationSession)
    (now : TimestampMs) : Except ControlError FederationSessions := do
  refuse (session.state != .prepared || isBlank session.tenantId) (.invalidProposal
    "new federation prepare requires an exact tenant and Prepared phase")
  (session.validateAt now).mapError .invalidProposal
  refuse ((sessions.get? session.transactionId).any (· != session))
    (.invalidProposal "federation transaction identity conflicts")
  pure (sessions.insert session.transactionId session)

def commitFederationSession (sessions : FederationSessions) (transactionId : String)
    (sourceEpoch : Nat) (planDigest ownershipDigest : String) (now : TimestampMs) :
    Except ControlError FederationSessions := do
  let session ← okOr (sessions.get? transactionId)
    (.invalidProposal "unknown federation transaction")
  refuse (isBlank session.tenantId)
    (.invalidProposal "legacy federation tenant authority is unavailable")
  let same := session.sourceEpoch == sourceEpoch && session.planDigest == planDigest &&
    session.ownershipDigest == ownershipDigest
  if session.state = .committed && same then pure sessions
  else do
    refuse (session.state != .prepared || !same || decide (session.deadline ≤ now))
      (.invalidProposal "federation commit is stale, expired or identity-mismatched")
    pure (sessions.insert transactionId { session with state := .committed })

def abortFederationSession (sessions : FederationSessions) (transactionId : String)
    (now : TimestampMs) : Except ControlError FederationSessions := do
  let session ← okOr (sessions.get? transactionId)
    (.invalidProposal "unknown federation transaction")
  if session.state = .aborted then pure sessions
  else do
    refuse (session.state != .prepared || decide (session.deadline ≤ now))
      (.invalidProposal "federation abort is stale or no longer prepared")
    pure (sessions.insert transactionId { session with state := .aborted })

inductive Call where
  | prepare (session : FederationSession) (now : TimestampMs)
  | commit (transactionId : String) (sourceEpoch : Nat) (planDigest ownershipDigest : String)
      (now : TimestampMs)
  | abort (transactionId : String) (now : TimestampMs)

def call (sessions : FederationSessions) : Call → Except ControlError FederationSessions
  | .prepare session now => sessions.prepareFederationSession session now
  | .commit id epoch plan ownership now =>
    sessions.commitFederationSession id epoch plan ownership now
  | .abort id now => sessions.abortFederationSession id now

def step (sessions : FederationSessions) (c : Call) : FederationSessions :=
  (sessions.call c).toOption.getD sessions

/-- Any sequence of calls, accepted or refused. -/
abbrev Run : FederationSessions → FederationSessions → Prop := Reaches step fun _ _ => True

end FederationSessions

end RoboGuide.Control
