import RoboGuide.Control.Registration

/-!
# `RoboGuide.Control.Sessions`: registrations, sessions and leases of nodes

`core/control/src/node_session.rs` and the registration and heartbeat part of `node.rs`. A
registration issues a lease and removes the old session anchor. Three kinds of evidence renew
the lease: an interval of heartbeats of the session (`accept_session_liveness`), its health
(`accept_session_reported_health`) and single heartbeats (`accept_received_heartbeat`, and
`accept_heartbeat`, which reads neither the session nor the time of the decision).

Correlation identities are left out. The rest of Control is read only here: a call takes the
plane and the identity registry of its moment as a `NodeContext`.
-/

namespace RoboGuide.Control

open Domain Lib State
open Fallible (refuse okOr check)

/-! ### State -/

structure NodeSessionAnchor where
  certificateExpiresAtMs : Option TimestampMs
  certificateDigest : Option String
  sessionId : String
  leaseId : LeaseId
  admittedAt : TimestampMs
  durationMs : Nat
  acceptedSequence : Nat
  acceptedReceivedAt : TimestampMs
  acceptedHealthSequence : Nat
  acceptedHealthReceivedAt : TimestampMs
  fenced : Bool
deriving DecidableEq

inductive NodeEvent where
  | nodeRegistered (nodeId : NodeId) (leaseId : LeaseId)
  | nodeSessionLivenessAccepted (evidence : NodeSessionLivenessEvidence)
  | nodeHeartbeatAccepted (nodeId : NodeId) (leaseId : LeaseId)
  | nodeLeaseExpired (nodeId : NodeId) (leaseId : LeaseId)
deriving DecidableEq

structure NodePlane where
  leases : OrdMap NodeId NodeLease
  nodeSessions : OrdMap NodeId NodeSessionAnchor
  state : SharedNodeState
  events : List (TimestampMs × NodeEvent)

def NodePlane.empty : NodePlane := ⟨∅, ∅, ∅, []⟩

def NodePlane.logged (p : NodePlane) (timestamp : TimestampMs) (event : NodeEvent) : NodePlane :=
  { p with events := p.events ++ [(timestamp, event)] }

/-- What these operations read of the rest of Control. -/
structure NodeContext where
  control : ControlPlane
  nodeIdentityRegistry : Option NodeIdentityRegistry

abbrev NodeM := EStateM ControlError NodePlane

def NodePlane.identityTransportIsCurrent (p : NodePlane)
    (identities : Option NodeIdentityRegistry) (node : NodeId) (now : TimestampMs) : Bool :=
  identities.all fun registry => (p.nodeSessions.get? node).any fun session =>
    (session.certificateExpiresAtMs.any fun until_ => decide (now < until_)) &&
      session.certificateDigest.any fun digest => registry.accepts node digest now

def NodePlane.identityIsEligible (p : NodePlane) (identities : Option NodeIdentityRegistry)
    (node : NodeId) (now : TimestampMs) : Bool :=
  p.identityTransportIsCurrent identities node now &&
    identities.all fun registry => registry.attested node now

def identityRegistrationAllowed (identities : Option NodeIdentityRegistry) (node : NodeId)
    (now : TimestampMs) : Bool :=
  identities.all fun registry => (registry.records.get? node).any fun record =>
    registry.accepts node record.currentDigest now

/-- The part of `node_role_exclusion` that concerns the node alone: registered, identified,
healthy, fresh, reachable and under an active lease. -/
def NodePlane.schedulable (p : NodePlane) (identities : Option NodeIdentityRegistry)
    (maxStatusAgeMs : Nat) (node : NodeId) (now : TimestampMs) : Bool :=
  (p.state.get? node).any fun snapshot =>
    p.identityIsEligible identities node now && snapshot.reportedStatus.health.isSchedulable &&
      decide (now - snapshot.reportedStatusReceivedAt ≤ maxStatusAgeMs) &&
      snapshot.liveness.liveness == .reachable &&
      (p.leases.get? node).any fun lease => lease.isActiveAt now

/-! ### Registration -/

/-- The checks of `register_node_with_lease_received`; Shared Node State afterwards. -/
def validateRegistration (env : NodeContext) (p : NodePlane) (node : NodeId)
    (registration : NodeRegistration) (status : NodeStatus) (lease : NodeLease)
    (receivedAt timestamp : TimestampMs) : Except ControlError SharedNodeState := do
  refuse (decide (timestamp < receivedAt))
    (.invalidLease "registration receive time is after decision time")
  refuse (lease.nodeId != node) (.invalidLease "lease node does not match registration node")
  refuse (!identityRegistrationAllowed env.nodeIdentityRegistry node timestamp)
    (.invalidLease "Node identity is absent, revoked or expired")
  refuse (!lease.isActiveAt timestamp) (.leaseExpired node lease.leaseId)
  ensureResourceIdentitiesAvailable p.state node registration
  ensureDeclaredCapacityCoversCommitments env.control node registration
  (p.state.get? node).toList.forM fun current =>
    ensureCommittedResourcesRemainDeclared env.control current.registration registration
  (recordNode p.state node ⟨registration, status, receivedAt, ⟨.reachable, timestamp⟩⟩).mapError
    .sharedState

def NodePlane.withRegistration (p : NodePlane) (node : NodeId) (lease : NodeLease)
    (state : SharedNodeState) : NodePlane :=
  { p with
    state
    leases := p.leases.insert node lease
    nodeSessions := p.nodeSessions.erase node }

def registerNodeWithLeaseReceived (env : NodeContext) (node : NodeId)
    (registration : NodeRegistration) (status : NodeStatus) (lease : NodeLease)
    (receivedAt timestamp : TimestampMs) : NodeM Unit := do
  let p ← get
  let state ← check
    (validateRegistration env p node registration status lease receivedAt timestamp)
  set ((p.withRegistration node lease state).logged timestamp (.nodeRegistered node lease.leaseId))

/-- The checks of `update_node_registration`; Shared Node State and the lease's identity. -/
def validateUpdate (env : NodeContext) (p : NodePlane) (node : NodeId)
    (registration : NodeRegistration) (timestamp : TimestampMs) :
    Except ControlError (SharedNodeState × LeaseId) := do
  let current ← okOr (p.state.get? node) (.unknownNode node)
  refuse (!p.identityIsEligible env.nodeIdentityRegistry node timestamp)
    (.invalidLease "Node identity is absent, revoked or expired")
  let lease ← okOr (p.leases.get? node) (.unknownNode node)
  refuse (!lease.isActiveAt timestamp) (.leaseExpired node lease.leaseId)
  ensureResourceIdentitiesAvailable p.state node registration
  ensureCommittedResourcesRemainDeclared env.control current.registration registration
  ensureDeclaredCapacityCoversCommitments env.control node registration
  let state ← (recordNode p.state node { current with registration }).mapError .sharedState
  pure (state, lease.leaseId)

def updateNodeRegistration (env : NodeContext) (node : NodeId) (registration : NodeRegistration)
    (timestamp : TimestampMs) : NodeM Unit := do
  let p ← get
  let (state, leaseId) ← check (validateUpdate env p node registration timestamp)
  set ({ p with state }.logged timestamp (.nodeRegistered node leaseId))

/-! ### Sessions -/

/-- The checks of `register_authenticated_node_session`; the lease the session belongs to. -/
def validateSession (env : NodeContext) (p : NodePlane) (node : NodeId) (sessionId : String)
    (durationMs : Nat) (certificateDigest : Option String)
    (certificateExpiresAtMs : Option TimestampMs) : Except ControlError NodeLease := do
  let lease ← okOr (p.leases.get? node) (.unknownNode node)
  refuse (isBlank sessionId || durationMs == 0)
    (.invalidLease "Node session and duration must be valid")
  refuse (env.nodeIdentityRegistry.any fun registry => !certificateDigest.any fun digest =>
      registry.accepts node digest lease.issuedAt)
    (.invalidLease "registration lacks current authenticated certificate authority")
  refuse ((certificateExpiresAtMs.any fun until_ => decide (until_ ≤ lease.issuedAt)) ||
      (env.nodeIdentityRegistry.isSome && certificateExpiresAtMs.isNone))
    (.invalidLease "registration lacks valid original X.509 expiry")
  refuse (p.nodeSessions.contains node)
    (.invalidLease "session anchor requires a fresh registration")
  pure lease

def NodeSessionAnchor.admitted (lease : NodeLease) (sessionId : String) (durationMs : Nat)
    (certificateDigest : Option String) (certificateExpiresAtMs : Option TimestampMs) :
    NodeSessionAnchor :=
  { certificateExpiresAtMs, certificateDigest, sessionId, leaseId := lease.leaseId,
    admittedAt := lease.issuedAt, durationMs, acceptedSequence := 0,
    acceptedReceivedAt := lease.issuedAt, acceptedHealthSequence := 0,
    acceptedHealthReceivedAt := lease.issuedAt, fenced := false }

def registerAuthenticatedNodeSession (env : NodeContext) (node : NodeId) (sessionId : String)
    (durationMs : Nat) (certificateDigest : Option String)
    (certificateExpiresAtMs : Option TimestampMs) : NodeM Unit := do
  let p ← get
  let lease ← check
    (validateSession env p node sessionId durationMs certificateDigest certificateExpiresAtMs)
  let anchor := NodeSessionAnchor.admitted lease sessionId durationMs certificateDigest
    certificateExpiresAtMs
  set { p with nodeSessions := p.nodeSessions.insert node anchor }

def NodePlane.fenceNodeSession (p : NodePlane) (node : NodeId) : NodePlane :=
  { p with nodeSessions := p.nodeSessions.modify node fun session =>
      { session with fenced := true } }

/-- The conditions of `accept_session_liveness` before the extended lease is computed. -/
def livenessAdmissible (p : NodePlane) (session : NodeSessionAnchor) (lease : NodeLease)
    (evidence : NodeSessionLivenessEvidence) (decisionAt : TimestampMs) : Bool :=
  !session.fenced && session.sessionId == evidence.sessionId &&
    session.leaseId == evidence.leaseId && lease.leaseId == evidence.leaseId &&
    decide (session.acceptedSequence < evidence.lastSequence) &&
    evidence.firstSequence != 0 && decide (evidence.firstSequence ≤ evidence.lastSequence) &&
    decide (session.admittedAt ≤ evidence.activatedAt) &&
    decide (evidence.activatedAt ≤ evidence.firstReceivedAt) &&
    decide (evidence.firstReceivedAt ≤ evidence.lastReceivedAt) &&
    decide (evidence.lastReceivedAt ≤ decisionAt) &&
    decide (session.acceptedReceivedAt ≤ evidence.lastReceivedAt) &&
    decide (evidence.maximumGapMs < session.durationMs) &&
    decide (evidence.firstReceivedAt - session.admittedAt < session.durationMs) &&
    (p.state.get? evidence.nodeId).any fun node => node.liveness.liveness == .reachable

/-- `accept_session_liveness` up to its first change: the session, the current lease and the
extended one, or nothing when the evidence is not accepted. -/
def admitLiveness (p : NodePlane) (evidence : NodeSessionLivenessEvidence)
    (decisionAt : TimestampMs) :
    Except ControlError (Option (NodeSessionAnchor × NodeLease × NodeLease)) :=
  match p.nodeSessions.get? evidence.nodeId, p.leases.get? evidence.nodeId with
  | some session, some lease =>
    if livenessAdmissible p session lease evidence decisionAt then do
      let extended ← (NodeLease.new evidence.leaseId evidence.nodeId evidence.lastReceivedAt
        session.durationMs).mapError fun e => .invalidLease e.text
      pure (if extended.isActiveAt decisionAt then some (session, lease, extended) else none)
    else .ok none
  | _, _ => .ok none

def NodePlane.withLiveness (p : NodePlane) (evidence : NodeSessionLivenessEvidence)
    (session : NodeSessionAnchor) (lease extended : NodeLease) : NodePlane :=
  { p with
    leases := if lease.expiresAt < extended.expiresAt then
        p.leases.insert evidence.nodeId extended
      else p.leases
    nodeSessions := p.nodeSessions.insert evidence.nodeId { session with
      acceptedSequence := evidence.lastSequence
      acceptedReceivedAt := evidence.lastReceivedAt } }

def acceptSessionLiveness (evidence : NodeSessionLivenessEvidence) (decisionAt : TimestampMs) :
    NodeM Bool := do
  let p ← get
  match ← check (admitLiveness p evidence decisionAt) with
  | none => return false
  | some (session, lease, extended) =>
    set ((p.withLiveness evidence session lease extended).logged evidence.lastReceivedAt
      (.nodeSessionLivenessAccepted evidence))
    return true

/-! ### Heartbeats -/

/-- An older report that the accepted health of the session covers already. -/
def healthCovered (p : NodePlane) (heartbeat : NodeHeartbeat) (receivedAt : TimestampMs) : Bool :=
  (p.state.get? heartbeat.nodeId).any fun node =>
    decide (receivedAt < node.reportedStatusReceivedAt) &&
      heartbeat.status.health == node.reportedStatus.health &&
      (p.nodeSessions.get? heartbeat.nodeId).any fun session =>
        decide (0 < session.acceptedHealthSequence) && decide (session.admittedAt ≤ receivedAt) &&
          decide (receivedAt ≤ session.acceptedHealthReceivedAt)

def renewReceived (lease : NodeLease) (receivedAt : TimestampMs) (leaseDurationMs : Nat) :
    Except ControlError (Option NodeLease) :=
  if lease.issuedAt ≤ receivedAt then
    some <$> (lease.renew receivedAt leaseDurationMs).mapError fun e => .invalidLease e.text
  else .ok none

def recordReceived (p : NodePlane) (heartbeat : NodeHeartbeat) (receivedAt : TimestampMs) :
    Except ControlError SharedNodeState :=
  if healthCovered p heartbeat receivedAt then .ok p.state
  else (recordNodeHealth p.state heartbeat.nodeId heartbeat.status receivedAt).mapError
    .sharedState

/-- The checks of `accept_received_heartbeat`; the renewed lease, unless the heartbeat is older
than the current one, and Shared Node State. -/
def validateReceivedHeartbeat (p : NodePlane) (heartbeat : NodeHeartbeat)
    (receivedAt decisionAt : TimestampMs) (leaseDurationMs : Nat) :
    Except ControlError (Option NodeLease × SharedNodeState) := do
  refuse (decide (decisionAt < receivedAt))
    (.invalidLease "heartbeat receive time is after decision time")
  let node := heartbeat.nodeId
  let lease ← okOr (p.leases.get? node) (.unknownNode node)
  refuse (lease.leaseId != heartbeat.leaseId) (.unknownLease node heartbeat.leaseId)
  refuse (((p.nodeSessions.get? node).any fun session => session.fenced) ||
      !lease.isActiveAt decisionAt)
    (.leaseExpired node heartbeat.leaseId)
  let renewed ← renewReceived lease receivedAt leaseDurationMs
  let state ← recordReceived p heartbeat receivedAt
  pure (renewed, state)

def NodePlane.withHeartbeat (p : NodePlane) (node : NodeId) (renewed : Option NodeLease)
    (state : SharedNodeState) : NodePlane :=
  { p with
    state
    leases := renewed.elim p.leases fun lease => p.leases.insert node lease }

def acceptReceivedHeartbeat (heartbeat : NodeHeartbeat) (receivedAt decisionAt : TimestampMs)
    (leaseDurationMs : Nat) : NodeM Unit := do
  let p ← get
  let (renewed, state) ← check
    (validateReceivedHeartbeat p heartbeat receivedAt decisionAt leaseDurationMs)
  set ((p.withHeartbeat heartbeat.nodeId renewed state).logged receivedAt
    (.nodeHeartbeatAccepted heartbeat.nodeId heartbeat.leaseId))

/-- The conditions of `accept_session_reported_health`. -/
def healthAdmissible (env : NodeContext) (p : NodePlane) (session : NodeSessionAnchor)
    (status : NodeStatus) (evidence : NodeSessionLivenessEvidence) (decisionAt : TimestampMs) :
    Bool :=
  !session.fenced && session.sessionId == evidence.sessionId &&
    session.leaseId == evidence.leaseId && session.acceptedSequence == evidence.lastSequence &&
    session.acceptedReceivedAt == evidence.lastReceivedAt &&
    decide (session.acceptedHealthSequence < evidence.lastSequence) &&
    decide (evidence.lastReceivedAt ≤ decisionAt) &&
    decide (session.admittedAt ≤ evidence.lastReceivedAt) && status.health.isSchedulable &&
    (session.certificateExpiresAtMs.all fun until_ => decide (decisionAt < until_)) &&
    p.identityTransportIsCurrent env.nodeIdentityRegistry evidence.nodeId decisionAt &&
    ((p.leases.get? evidence.nodeId).any fun lease =>
      lease.leaseId == evidence.leaseId && lease.isActiveAt decisionAt) &&
    (p.state.get? evidence.nodeId).any fun node =>
      node.reportedStatus.health == status.health &&
        decide (node.reportedStatusReceivedAt ≤ evidence.lastReceivedAt) &&
        node.liveness.liveness == .reachable

/-- The session and the health that `accept_session_reported_health` accepts. -/
def admitHealth (env : NodeContext) (p : NodePlane) (evidence : NodeSessionLivenessEvidence)
    (decisionAt : TimestampMs) : Option (NodeSessionAnchor × NodeStatus) :=
  match evidence.reportedHealth, p.nodeSessions.get? evidence.nodeId with
  | some status, some session =>
    if healthAdmissible env p session status evidence decisionAt then some (session, status)
    else none
  | _, _ => none

def NodePlane.withHealthSequence (p : NodePlane) (evidence : NodeSessionLivenessEvidence) :
    NodePlane :=
  { p with nodeSessions := p.nodeSessions.modify evidence.nodeId fun session =>
      { session with
        acceptedHealthSequence := evidence.lastSequence
        acceptedHealthReceivedAt := evidence.lastReceivedAt } }

def acceptSessionReportedHealth (env : NodeContext) (evidence : NodeSessionLivenessEvidence)
    (decisionAt : TimestampMs) : NodeM Bool := do
  let p ← get
  match admitHealth env p evidence decisionAt with
  | none => return false
  | some (session, status) =>
    acceptReceivedHeartbeat ⟨evidence.nodeId, evidence.leaseId, status⟩ evidence.lastReceivedAt
      decisionAt session.durationMs
    modify (·.withHealthSequence evidence)
    return true

/-- The checks of `accept_heartbeat`; the renewed lease and Shared Node State. -/
def validateHeartbeat (p : NodePlane) (heartbeat : NodeHeartbeat) (receivedAt : TimestampMs)
    (leaseDurationMs : Nat) : Except ControlError (NodeLease × SharedNodeState) := do
  let node := heartbeat.nodeId
  let lease ← okOr (p.leases.get? node) (.unknownNode node)
  refuse (lease.leaseId != heartbeat.leaseId) (.unknownLease node heartbeat.leaseId)
  let renewed ← (lease.renew receivedAt leaseDurationMs).mapError fun
    | .leaseExpired => .leaseExpired node heartbeat.leaseId
    | e => .invalidLease e.text
  let state ← (recordNodeHealth p.state node heartbeat.status receivedAt).mapError .sharedState
  pure (renewed, state)

def acceptHeartbeat (heartbeat : NodeHeartbeat) (receivedAt : TimestampMs)
    (leaseDurationMs : Nat) : NodeM Unit := do
  let p ← get
  let (renewed, state) ← check (validateHeartbeat p heartbeat receivedAt leaseDurationMs)
  set ((p.withHeartbeat heartbeat.nodeId (some renewed) state).logged receivedAt
    (.nodeHeartbeatAccepted heartbeat.nodeId heartbeat.leaseId))

/-! ### Expiry -/

def NodePlane.expired (p : NodePlane) (now : TimestampMs) : List (NodeId × LeaseId) :=
  (p.leases.entries.filter fun (node, lease) =>
    !lease.isActiveAt now && (p.state.get? node).any fun snapshot =>
      snapshot.liveness.liveness == .reachable).map fun (node, lease) => (node, lease.leaseId)

/-- One node of `expire_leases`. A refused observation leaves the session fenced. -/
def expireLease (now : TimestampMs) (node : NodeId) (leaseId : LeaseId) : NodeM Unit := do
  modify (·.fenceNodeSession node)
  let p ← get
  let state ← check
    ((recordNodeLiveness p.state node ⟨.unreachable, now⟩).mapError .sharedState)
  set ({ p with state }.logged now (.nodeLeaseExpired node leaseId))

def expireLeases (now : TimestampMs) : NodeM (List NodeId) := do
  let p ← get
  let expired := p.expired now
  expired.forM fun (node, leaseId) => expireLease now node leaseId
  return expired.map (·.1)

end RoboGuide.Control
