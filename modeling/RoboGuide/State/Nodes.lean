import RoboGuide.Control.Authority

/-!
# `RoboGuide.State.Nodes`: Shared Node State

`core/state/src/node.rs`: the latest registration, reported health and liveness of each node.
Health is ordered by the time RoboGuide received it, liveness by the time it was observed.
-/

namespace RoboGuide.State

open Domain Lib
open Control (NodeRegistration)
open Fallible (refuse okOr)

structure NodeStateSnapshot where
  registration : NodeRegistration
  reportedStatus : NodeStatus
  reportedStatusReceivedAt : TimestampMs
  liveness : NodeLivenessObservation

/-- `InMemorySharedNodeState`. -/
abbrev SharedNodeState := OrdMap NodeId NodeStateSnapshot

def rejectOlderTimestamp (node : NodeId) (currentOrderingTime incomingOrderingTime : TimestampMs) :
    Except SharedStateError Unit :=
  refuse (decide (incomingOrderingTime < currentOrderingTime))
    (.staleObservation node currentOrderingTime incomingOrderingTime)

def recordNode (s : SharedNodeState) (node : NodeId) (snapshot : NodeStateSnapshot) :
    Except SharedStateError SharedNodeState := do
  (s.get? node).toList.forM fun current =>
    rejectOlderTimestamp node current.reportedStatusReceivedAt snapshot.reportedStatusReceivedAt
  pure (s.insert node snapshot)

/-- The snapshot after newer health. A report that is newer than the observed liveness shows
that the node can be reached. -/
def NodeStateSnapshot.withHealth (current : NodeStateSnapshot) (status : NodeStatus)
    (receivedAt : TimestampMs) : NodeStateSnapshot :=
  { current with
    reportedStatus := status
    reportedStatusReceivedAt := receivedAt
    liveness := if current.liveness.observedAt ≤ receivedAt then ⟨.reachable, receivedAt⟩
      else current.liveness }

def recordNodeHealth (s : SharedNodeState) (node : NodeId) (status : NodeStatus)
    (receivedAt : TimestampMs) : Except SharedStateError SharedNodeState := do
  let current ← okOr (s.get? node) (.unknownNode node)
  rejectOlderTimestamp node current.reportedStatusReceivedAt receivedAt
  pure (s.insert node (current.withHealth status receivedAt))

def recordNodeLiveness (s : SharedNodeState) (node : NodeId)
    (observation : NodeLivenessObservation) : Except SharedStateError SharedNodeState := do
  let current ← okOr (s.get? node) (.unknownNode node)
  rejectOlderTimestamp node current.liveness.observedAt observation.observedAt
  pure (s.insert node { current with liveness := observation })

def registrationOf (s : SharedNodeState) (n : NodeId) : Option NodeRegistration :=
  (s.get? n).map (·.registration)

section

open Fallible

variable {s s' : SharedNodeState} {node : NodeId} {snapshot : NodeStateSnapshot}

lemma recordNode_eq_ok (h : recordNode s node snapshot = .ok s') :
    s' = s.insert node snapshot := by
  simp only [recordNode, bind_eq_ok, pure_eq_ok] at h
  obtain ⟨_, -, rfl⟩ := h
  rfl

lemma recordNodeHealth_eq_ok {status : NodeStatus} {receivedAt : TimestampMs}
    (h : recordNodeHealth s node status receivedAt = .ok s') :
    ∃ current, s.get? node = some current ∧ current.reportedStatusReceivedAt ≤ receivedAt ∧
      s' = s.insert node (current.withHealth status receivedAt) := by
  simp only [recordNodeHealth, rejectOlderTimestamp, bind_eq_ok, okOr_eq_ok, refuse_eq_ok,
    pure_eq_ok, decide_eq_false_iff_not] at h
  obtain ⟨current, hcurrent, _, hle, rfl⟩ := h
  exact ⟨current, hcurrent, Nat.le_of_not_lt hle, rfl⟩

lemma recordNodeLiveness_eq_ok {observation : NodeLivenessObservation}
    (h : recordNodeLiveness s node observation = .ok s') : ∃ current, s.get? node = some current ∧
      s' = s.insert node { current with liveness := observation } := by
  simp only [recordNodeLiveness, bind_eq_ok, okOr_eq_ok, pure_eq_ok] at h
  obtain ⟨current, hcurrent, _, -, rfl⟩ := h
  exact ⟨current, hcurrent, rfl⟩

lemma registrationOf_insert {current : NodeStateSnapshot}
    (hcurrent : s.get? node = some current) (hsame : snapshot.registration = current.registration)
    (n : NodeId) : registrationOf (s.insert node snapshot) n = registrationOf s n := by
  unfold registrationOf
  by_cases hn : n = node
  · subst hn
    simp [hcurrent, hsame]
  · rw [get?_insert_of_ne hn]

end

end RoboGuide.State
