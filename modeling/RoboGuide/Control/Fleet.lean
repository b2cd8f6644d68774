import RoboGuide.Control.Sessions
import RoboGuide.Lib.Transition

/-!
# `RoboGuide.Control.Fleet`: runs of registrations and evidence

One step is one call of `Sessions`, whether it succeeds or not. What a step does to one node is
said once: a fresh registration replaces the node's record (`NodeMove.Registers`), every other
step changes it as `RecordChange` lists (`NodePlane.record_step`).
-/

namespace RoboGuide.Control

open Domain Lib State Fallible NodePlane Bool Option

variable {s : SharedNodeState} {decisionAt receivedAt : TimestampMs}
  {evidence : NodeSessionLivenessEvidence} {heartbeat : NodeHeartbeat} {durationMs : Nat}
  {extended lease : NodeLease} {renewed : Option NodeLease} {session : NodeSessionAnchor}
  {env : NodeContext} {node : NodeId} {n : NodeId} {status : NodeStatus}

/-! ### Runs -/

inductive NodeMove where
  | register (env : NodeContext) (node : NodeId) (registration : NodeRegistration)
      (status : NodeStatus) (lease : NodeLease) (receivedAt timestamp : TimestampMs)
  | update (env : NodeContext) (node : NodeId) (registration : NodeRegistration)
      (timestamp : TimestampMs)
  | registerSession (env : NodeContext) (node : NodeId) (sessionId : String) (durationMs : Nat)
      (certificateDigest : Option String) (certificateExpiresAtMs : Option TimestampMs)
  | sessionLiveness (evidence : NodeSessionLivenessEvidence) (decisionAt : TimestampMs)
  | reportedHealth (env : NodeContext) (evidence : NodeSessionLivenessEvidence)
      (decisionAt : TimestampMs)
  | receivedHeartbeat (heartbeat : NodeHeartbeat) (receivedAt decisionAt : TimestampMs)
      (durationMs : Nat)
  | heartbeat (heartbeat : NodeHeartbeat) (receivedAt : TimestampMs) (durationMs : Nat)
  | fence (node : NodeId)
  | expire (now : TimestampMs)

def NodePlane.step (p : NodePlane) : NodeMove → NodePlane
  | .register env node registration status lease receivedAt timestamp =>
    Fallible.state (registerNodeWithLeaseReceived env node registration status lease receivedAt
      timestamp p)
  | .update env node registration timestamp =>
    Fallible.state (updateNodeRegistration env node registration timestamp p)
  | .registerSession env node sessionId durationMs digest until_ =>
    Fallible.state (registerAuthenticatedNodeSession env node sessionId durationMs digest until_ p)
  | .sessionLiveness evidence decisionAt =>
      Fallible.state (acceptSessionLiveness evidence decisionAt p)
  | .reportedHealth env evidence decisionAt =>
    Fallible.state (acceptSessionReportedHealth env evidence decisionAt p)
  | .receivedHeartbeat heartbeat receivedAt decisionAt durationMs =>
    Fallible.state (acceptReceivedHeartbeat heartbeat receivedAt decisionAt durationMs p)
  | .heartbeat heartbeat receivedAt durationMs =>
    Fallible.state (acceptHeartbeat heartbeat receivedAt durationMs p)
  | .fence node => p.fenceNodeSession node
  | .expire now => Fallible.state (expireLeases now p)

/-- The leases a call issues for a node last `duration` of that node. -/
def NodeMove.Timed (duration : NodeId → Nat) : NodeMove → Prop
  | .register _ node _ _ lease _ _ =>
    NodeLease.new lease.leaseId lease.nodeId lease.issuedAt (duration node) = .ok lease
  | .registerSession _ node _ durationMs _ _ => durationMs = duration node
  | .receivedHeartbeat beat _ _ durationMs | .heartbeat beat _ durationMs =>
    durationMs = duration beat.nodeId
  | _ => True

def NodeMove.Registers (p : NodePlane) (n : NodeId) : NodeMove → Prop
  | .register env node registration status lease receivedAt timestamp => node = n ∧
    (validateRegistration env p node registration status lease receivedAt timestamp).toBool = true
  | _ => False

/-- A heartbeat passes the checks of `accept_heartbeat`. -/
def heartbeatAccepted (p : NodePlane) (heartbeat : NodeHeartbeat) (receivedAt : TimestampMs) :
    Bool :=
  ((p.leases.get? heartbeat.nodeId).any fun lease =>
    lease.leaseId == heartbeat.leaseId && lease.isActiveAt receivedAt) &&
    (p.state.get? heartbeat.nodeId).any fun snapshot =>
      decide (snapshot.reportedStatusReceivedAt ≤ receivedAt)

/-- The guards `accept_heartbeat` does not have: the session is open, and the heartbeat was
received no earlier than the lease was issued. -/
def heartbeatInOrder (p : NodePlane) (heartbeat : NodeHeartbeat) (receivedAt : TimestampMs) :
    Bool :=
  ((p.nodeSessions.get? heartbeat.nodeId).all fun session => !session.fenced) &&
    (p.leases.get? heartbeat.nodeId).all fun lease => decide (lease.issuedAt ≤ receivedAt)

/-- Every heartbeat that `accept_heartbeat` accepts is in order. -/
def NodeMove.InOrder (p : NodePlane) : NodeMove → Prop
  | .heartbeat beat receivedAt _ =>
    heartbeatAccepted p beat receivedAt = true → heartbeatInOrder p beat receivedAt = true
  | _ => True

instance (p : NodePlane) (move : NodeMove) : Decidable (move.InOrder p) := by
  unfold NodeMove.InOrder
  split <;> infer_instance

/-- A run with one lease duration per node, of calls that meet `condition`. -/
abbrev NodePlane.Run (duration : NodeId → Nat) (condition : NodePlane → NodeMove → Prop) :
    NodePlane → NodePlane → Prop :=
  Reaches NodePlane.step fun p move => move.Timed duration ∧ condition p move

instance (duration : NodeId → Nat) (move : NodeMove) : Decidable (move.Timed duration) := by
  unfold NodeMove.Timed
  split <;> infer_instance

instance (p : NodePlane) (n : NodeId) (move : NodeMove) : Decidable (move.Registers p n) := by
  unfold NodeMove.Registers
  split <;> infer_instance

/-! ### The record of one node -/

structure NodeRecord where
  lease : Option NodeLease
  session : Option NodeSessionAnchor
  snapshot : Option NodeStateSnapshot

def NodePlane.record (p : NodePlane) (n : NodeId) : NodeRecord :=
  ⟨p.leases.get? n, p.nodeSessions.get? n, p.state.get? n⟩

def NodeSessionAnchor.fence (session : NodeSessionAnchor) : NodeSessionAnchor :=
  { session with fenced := true }

/-- The session may have been fenced and the node found unreachable, nothing else. -/
structure Quiets (r r' : NodeRecord) : Prop where
  lease : r'.lease = r.lease
  session : r'.session = r.session ∨ r'.session = r.session.map (·.fence)
  snapshot : r'.snapshot = r.snapshot ∨ ∃ snapshot now, r.snapshot = some snapshot ∧
    r'.snapshot = some { snapshot with liveness := ⟨.unreachable, now⟩ }

def Prolonged (duration : Nat) (l l' : NodeLease) : Prop :=
  l' = l ∨ (l.expiresAt ≤ l'.expiresAt ∧ l'.expiresAt = l'.issuedAt + duration)

def NodeRecord.Open (r : NodeRecord) : Prop := ∀ s, r.session = some s → s.fenced = false

inductive RecordChange (duration : Nat) (r : NodeRecord) : NodeRecord → Prop where
  | same : RecordChange duration r r
  | redeclared {snapshot : NodeStateSnapshot} {registration : NodeRegistration}
      (known : r.snapshot = some snapshot) :
      RecordChange duration r { r with snapshot := some { snapshot with registration } }
  | anchored {lease : NodeLease} {sessionId : String} {digest : Option String}
      {until_ : Option TimestampMs} (new : r.session = none) :
      RecordChange duration r
        { r with session := some (.admitted lease sessionId duration digest until_) }
  | extended {session : NodeSessionAnchor} {lease lease' : NodeLease} {sequence : Nat}
      {receivedAt : TimestampMs} (known : r.session = some session)
      (unfenced : session.fenced = false) (later : session.acceptedSequence < sequence)
      (held : r.lease = some lease) (prolonged : Prolonged session.durationMs lease lease') :
      RecordChange duration r { r with
        lease := some lease'
        session := some { session with
          acceptedSequence := sequence, acceptedReceivedAt := receivedAt } }
  | beaten {lease lease' : NodeLease} {snapshot : Option NodeStateSnapshot} (unfenced : r.Open)
      (held : r.lease = some lease) (prolonged : Prolonged duration lease lease') :
      RecordChange duration r { r with lease := some lease', snapshot }
  | reported {session : NodeSessionAnchor} {lease lease' : NodeLease}
      {snapshot : Option NodeStateSnapshot} {sequence : Nat} {receivedAt : TimestampMs}
      (known : r.session = some session) (unfenced : session.fenced = false)
      (later : session.acceptedHealthSequence < sequence) (held : r.lease = some lease)
      (prolonged : Prolonged session.durationMs lease lease') :
      RecordChange duration r
        { lease := some lease'
          session := some { session with
            acceptedHealthSequence := sequence, acceptedHealthReceivedAt := receivedAt }
          snapshot }
  | quieted {r' : NodeRecord} (quiet : Quiets r r') : RecordChange duration r r'

/-! ### What the checks establish -/

section

variable {p : NodePlane} {registration : NodeRegistration} {timestamp : TimestampMs}

lemma validateRegistration_ok
    (h : validateRegistration env p node registration status lease receivedAt timestamp = .ok s) :
    s = p.state.insert node ⟨registration, status, receivedAt, ⟨.reachable, timestamp⟩⟩ := by
  simp only [validateRegistration, bind_eq_ok, mapError_eq_ok] at h
  obtain ⟨_, -, _, -, _, -, _, -, _, -, _, -, _, -, hrecord⟩ := h
  exact recordNode_eq_ok hrecord

lemma validateUpdate_ok {leaseId : LeaseId}
    (h : validateUpdate env p node registration timestamp = .ok (s, leaseId)) :
    ∃ current, p.state.get? node = some current ∧
      s = p.state.insert node { current with registration } := by
  simp only [validateUpdate, bind_eq_ok, okOr_eq_ok, mapError_eq_ok, pure_eq_ok, Prod.mk.injEq] at h
  obtain ⟨current, hcurrent, _, -, _, -, _, -, _, -, _, -, _, -, _, hrecord, rfl, -⟩ := h
  exact ⟨current, hcurrent, recordNode_eq_ok hrecord⟩

structure LivenessAdmitted (p : NodePlane) (evidence : NodeSessionLivenessEvidence)
    (session : NodeSessionAnchor) (lease extended : NodeLease) : Prop where
  known : p.nodeSessions.get? evidence.nodeId = some session
  held : p.leases.get? evidence.nodeId = some lease
  unfenced : session.fenced = false
  later : session.acceptedSequence < evidence.lastSequence
  extended : extended = ⟨evidence.leaseId, evidence.nodeId, evidence.lastReceivedAt,
    evidence.lastReceivedAt + session.durationMs⟩

lemma admitLiveness_ok
    (h : admitLiveness p evidence decisionAt = .ok (some (session, lease, extended))) :
    LivenessAdmitted p evidence session lease extended := by
  unfold admitLiveness at h
  split at h
  · next session₀ lease₀ hsession hlease =>
    split at h
    · next hadmissible =>
      simp only [bind_eq_ok, mapError_eq_ok, pure_eq_ok, ite_none_right_eq_some,
        Option.some.injEq, Prod.mk.injEq] at h
      obtain ⟨_, hnew, -, rfl, rfl, rfl⟩ := h
      simp only [livenessAdmissible, and_eq_true, not_eq_true', decide_eq_true_eq]
        at hadmissible
      obtain ⟨⟨⟨⟨⟨⟨⟨⟨⟨⟨⟨⟨⟨⟨hfence, -⟩, -⟩, -⟩, hlater⟩, -⟩, -⟩, -⟩, -⟩, -⟩, -⟩, -⟩, -⟩, -⟩, -⟩ :=
        hadmissible
      exact ⟨hsession, hlease, hfence, hlater, NodeLease.new_eq_ok hnew⟩
    · cases h
  · cases h

structure HeartbeatAdmitted (p : NodePlane) (heartbeat : NodeHeartbeat) (receivedAt : TimestampMs)
    (durationMs : Nat) (renewed : Option NodeLease) (s : SharedNodeState) : Prop where
  unfenced : ∀ session, p.nodeSessions.get? heartbeat.nodeId = some session →
    session.fenced = false
  lease : ∃ lease, p.leases.get? heartbeat.nodeId = some lease ∧
    ∀ lease', renewed = some lease' → lease.issuedAt ≤ receivedAt ∧
      lease' = ⟨lease.leaseId, lease.nodeId, receivedAt, receivedAt + durationMs⟩
  elsewhere : ∀ n, n ≠ heartbeat.nodeId → s.get? n = p.state.get? n
  declarations : ∀ n, registrationOf s n = registrationOf p.state n

lemma validateReceivedHeartbeat_ok
    (h : validateReceivedHeartbeat p heartbeat receivedAt decisionAt durationMs =
      .ok (renewed, s)) : HeartbeatAdmitted p heartbeat receivedAt durationMs renewed s := by
  simp only [validateReceivedHeartbeat, bind_eq_ok, okOr_eq_ok, refuse_eq_ok, pure_eq_ok,
    or_eq_false_iff, Prod.mk.injEq] at h
  obtain ⟨_, -, lease, hlease, _, -, _, ⟨hfence, -⟩, _, hrenewed, s', hstate, rfl, rfl⟩ := h
  refine ⟨fun session hsession => ?_, ⟨lease, hlease, fun lease' hlease' => ?_⟩, fun n hn => ?_,
    fun n => ?_⟩
  · simpa [hsession] using hfence
  · unfold renewReceived at hrenewed
    split at hrenewed
    · next hle =>
      simp only [map_eq_ok, mapError_eq_ok] at hrenewed
      obtain ⟨_, hrenew, rfl⟩ := hrenewed
      cases hlease'
      exact ⟨hle, NodeLease.renew_eq_ok hrenew⟩
    · cases hrenewed
      cases hlease'
  · unfold recordReceived at hstate
    split at hstate
    · cases hstate
      rfl
    · obtain ⟨current, -, -, rfl⟩ := recordNodeHealth_eq_ok (mapError_eq_ok.mp hstate)
      exact get?_insert_of_ne hn
  · unfold recordReceived at hstate
    split at hstate
    · cases hstate
      rfl
    · obtain ⟨_, hcurrent, -, rfl⟩ := recordNodeHealth_eq_ok (mapError_eq_ok.mp hstate)
      exact registrationOf_insert hcurrent (by rfl) n

lemma validateHeartbeat_ok {renewed : NodeLease}
    (h : validateHeartbeat p heartbeat receivedAt durationMs = .ok (renewed, s)) :
    ∃ lease snapshot, p.leases.get? heartbeat.nodeId = some lease ∧
      p.state.get? heartbeat.nodeId = some snapshot ∧ lease.leaseId = heartbeat.leaseId ∧
      lease.isActiveAt receivedAt = true ∧ snapshot.reportedStatusReceivedAt ≤ receivedAt ∧
      renewed = ⟨lease.leaseId, lease.nodeId, receivedAt, receivedAt + durationMs⟩ ∧
      s = p.state.insert heartbeat.nodeId (snapshot.withHealth heartbeat.status receivedAt) := by
  simp only [validateHeartbeat, bind_eq_ok, okOr_eq_ok, refuse_eq_ok, mapError_eq_ok, pure_eq_ok,
    bne_eq_false_iff_eq, Prod.mk.injEq] at h
  obtain ⟨lease, hlease, _, hid, _, hrenew, s', hstate, rfl, rfl⟩ := h
  obtain ⟨snapshot, hsnapshot, hle, rfl⟩ := recordNodeHealth_eq_ok hstate
  have hactive : lease.isActiveAt receivedAt = true := by
    simp only [NodeLease.renew, bind_eq_ok, refuse_eq_ok, not_eq_false'] at hrenew
    obtain ⟨_, hactive, -⟩ := hrenew
    exact hactive
  exact ⟨lease, snapshot, hlease, hsnapshot, hid, hactive, hle, NodeLease.renew_eq_ok hrenew, rfl⟩

end

/-! ### One step -/

structure NodeRecord.Timed (duration : Nat) (r : NodeRecord) : Prop where
  lease : ∀ l, r.lease = some l → l.expiresAt = l.issuedAt + duration
  session : ∀ s, r.session = some s → s.durationMs = duration

lemma Quiets.refl (r : NodeRecord) : Quiets r r := ⟨rfl, .inl rfl, .inl rfl⟩

lemma Quiets.trans {r₁ r₂ r₃ : NodeRecord} (h : Quiets r₁ r₂) (h' : Quiets r₂ r₃) :
    Quiets r₁ r₃ := by
  refine ⟨h'.lease.trans h.lease, ?_, ?_⟩
  · rcases h'.session with h₃ | h₃ <;> rcases h.session with h₂ | h₂ <;> rw [h₃, h₂]
    · exact .inl rfl
    · exact .inr rfl
    · exact .inr rfl
    · refine .inr ?_
      rw [map_map]
      rfl
  · rcases h'.snapshot with h₃ | ⟨snapshot, now, h₂, h₃⟩
    · rw [h₃]
      exact h.snapshot
    · rcases h.snapshot with h₁ | ⟨snapshot₁, _, h₁, h₁'⟩
      · exact .inr ⟨snapshot, now, h₁.symm.trans h₂, h₃⟩
      · cases h₁'.symm.trans h₂
        exact .inr ⟨snapshot₁, now, h₁, h₃⟩

def QuietsAt (n : NodeId) (p p' : NodePlane) : Prop := Quiets (p.record n) (p'.record n)

lemma QuietsAt.refl (p : NodePlane) : QuietsAt n p p := Quiets.refl _

lemma QuietsAt.trans (p₁ p₂ p₃ : NodePlane) (h : QuietsAt n p₁ p₂)
    (h' : QuietsAt n p₂ p₃) : QuietsAt n p₁ p₃ := Quiets.trans h h'

lemma quietsAt_fence (node n : NodeId) (p : NodePlane) :
    QuietsAt n p (p.fenceNodeSession node) := by
  refine ⟨rfl, ?_, .inl rfl⟩
  show (p.nodeSessions.modify node _).get? n = p.nodeSessions.get? n ∨
    (p.nodeSessions.modify node _).get? n = (p.nodeSessions.get? n).map (·.fence)
  rw [get?_modify]
  by_cases hn : n = node
  · rw [if_pos hn]
    exact .inr rfl
  · rw [if_neg hn]
    exact .inl rfl

lemma quietsAt_expireLease (now : TimestampMs) (node : NodeId) (leaseId : LeaseId)
    (n : NodeId) : Moves (QuietsAt n) (expireLease now node leaseId) := by
  refine Moves.bind QuietsAt.trans (Moves.modify (quietsAt_fence node n)) fun _ => ?_
  refine Moves.get_bind fun p => ?_
  simp only [run_check_bind]
  split
  · next s hs =>
    obtain ⟨current, hcurrent, rfl⟩ := recordNodeLiveness_eq_ok (mapError_eq_ok.mp hs)
    refine ⟨rfl, .inl rfl, ?_⟩
    by_cases hn : n = node
    · subst hn
      exact .inr ⟨current, now, hcurrent, get?_insert_self _ _ _⟩
    · exact .inl (get?_insert_of_ne hn)
  · exact QuietsAt.refl p

lemma quietsAt_expireLeases (now : TimestampMs) (n : NodeId) :
    Moves (QuietsAt n) (expireLeases now) := by
  refine Moves.get_bind fun p => ?_
  have hloop : Moves (QuietsAt n) ((p.expired now).forM fun x => expireLease now x.1 x.2) :=
    Moves.forM QuietsAt.refl QuietsAt.trans fun x _ => quietsAt_expireLease now x.1 x.2 n
  exact Moves.bind QuietsAt.trans hloop (fun _ => Moves.pure QuietsAt.refl _) p

section

variable {duration : NodeId → Nat} {p : NodePlane}

@[simp] lemma record_logged (t : TimestampMs) (e : NodeEvent) :
    (p.logged t e).record n = p.record n := rfl

lemma record_congr {p' : NodePlane} (hlease : p'.leases.get? n = p.leases.get? n)
    (hsession : p'.nodeSessions.get? n = p.nodeSessions.get? n)
    (hstate : p'.state.get? n = p.state.get? n) : p'.record n = p.record n := by
  simp only [record, hlease, hsession, hstate]

lemma record_withHeartbeat_of_ne (hn : n ≠ node) (hs : s.get? n = p.state.get? n) :
    (p.withHeartbeat node renewed s).record n = p.record n := by
  refine record_congr ?_ rfl hs
  cases renewed with
  | none => rfl
  | some => exact get?_insert_of_ne hn

lemma LivenessAdmitted.change (h : LivenessAdmitted p evidence session lease extended) :
    RecordChange (duration n) (p.record n)
      ((p.withLiveness evidence session lease extended).record n) := by
  by_cases hn : n = evidence.nodeId
  · subst hn
    have hprolonged : Prolonged session.durationMs lease
        (if lease.expiresAt < extended.expiresAt then extended else lease) := by
      split
      · next hlt => exact .inr ⟨Nat.le_of_lt hlt, by rw [h.extended]⟩
      · exact .inl rfl
    have hrecord : (p.withLiveness evidence session lease extended).record evidence.nodeId =
        { p.record evidence.nodeId with
          lease := some (if lease.expiresAt < extended.expiresAt then extended else lease)
          session := some { session with
            acceptedSequence := evidence.lastSequence
            acceptedReceivedAt := evidence.lastReceivedAt } } := by
      unfold withLiveness record
      split <;> simp [h.held]
    rw [hrecord]
    exact .extended h.known h.unfenced h.later h.held hprolonged
  · have hrecord : (p.withLiveness evidence session lease extended).record n = p.record n := by
      refine record_congr ?_ (get?_insert_of_ne hn) rfl
      unfold withLiveness
      dsimp only
      split
      · exact get?_insert_of_ne hn
      · rfl
    rw [hrecord]
    exact .same

lemma HeartbeatAdmitted.prolonged
    (h : HeartbeatAdmitted p heartbeat receivedAt durationMs renewed s)
    (htimed : (p.record heartbeat.nodeId).Timed durationMs) :
    ∃ lease lease', p.leases.get? heartbeat.nodeId = some lease ∧
      Prolonged durationMs lease lease' ∧
      (p.withHeartbeat heartbeat.nodeId renewed s).record heartbeat.nodeId =
        { p.record heartbeat.nodeId with
          lease := some lease', snapshot := s.get? heartbeat.nodeId } := by
  obtain ⟨lease, hlease, hrenewed⟩ := h.lease
  have hexpires : lease.expiresAt = lease.issuedAt + durationMs := htimed.lease lease hlease
  cases renewed with
  | none =>
    refine ⟨lease, lease, hlease, .inl rfl, ?_⟩
    simp [withHeartbeat, record, hlease]
  | some lease' =>
    obtain ⟨hle, hlease'⟩ := hrenewed lease' rfl
    refine ⟨lease, lease', hlease, .inr ⟨?_, by rw [hlease']⟩, ?_⟩
    · rw [hlease', hexpires]
      exact Nat.add_le_add_right hle durationMs
    · simp [withHeartbeat, record]

lemma HeartbeatAdmitted.change
    (h : HeartbeatAdmitted p heartbeat receivedAt (duration heartbeat.nodeId) renewed s)
    (htimed : ∀ n, (p.record n).Timed (duration n)) : RecordChange (duration n) (p.record n)
      ((p.withHeartbeat heartbeat.nodeId renewed s).record n) := by
  by_cases hn : n = heartbeat.nodeId
  · subst hn
    obtain ⟨_, _, hlease, hprolonged, hrecord⟩ := h.prolonged (htimed _)
    rw [hrecord]
    exact .beaten h.unfenced hlease hprolonged
  · rw [record_withHeartbeat_of_ne hn (h.elsewhere n hn)]
    exact .same

lemma HeartbeatAdmitted.of_inOrder {renewed : NodeLease}
    (h : validateHeartbeat p heartbeat receivedAt durationMs = .ok (renewed, s))
    (horder : (NodeMove.heartbeat heartbeat receivedAt durationMs).InOrder p) :
    HeartbeatAdmitted p heartbeat receivedAt durationMs (some renewed) s := by
  obtain ⟨lease, _, hlease, hsnapshot, hid, hactive, hle, hrenewed, rfl⟩ := validateHeartbeat_ok h
  have hinorder : heartbeatInOrder p heartbeat receivedAt = true := by
    apply horder
    simp [heartbeatAccepted, hlease, hsnapshot, hid, hactive, hle]
  simp only [heartbeatInOrder, hlease, all_some, and_eq_true, decide_eq_true_eq]
    at hinorder
  refine ⟨fun session hsession => ?_, ⟨lease, hlease, fun lease' hlease' => ?_⟩,
    fun n hn => get?_insert_of_ne hn, registrationOf_insert hsnapshot rfl⟩
  · simpa [hsession] using hinorder.1
  · cases hlease'
    exact ⟨hinorder.2, hrenewed⟩

/-- What `accept_session_reported_health` found. -/
structure HealthAdmitted (p : NodePlane) (evidence : NodeSessionLivenessEvidence)
    (session : NodeSessionAnchor) : Prop where
  known : p.nodeSessions.get? evidence.nodeId = some session
  unfenced : session.fenced = false
  later : session.acceptedHealthSequence < evidence.lastSequence

lemma admitHealth_ok (h : admitHealth env p evidence decisionAt = some (session, status)) :
    HealthAdmitted p evidence session := by
  unfold admitHealth at h
  split at h
  · next status₀ session₀ hstatus hsession =>
    split at h
    · next hadmissible =>
      obtain ⟨rfl, -⟩ := Prod.mk.inj (Option.some.inj h)
      simp only [healthAdmissible, and_eq_true, not_eq_true', decide_eq_true_eq]
        at hadmissible
      obtain ⟨⟨⟨⟨⟨⟨⟨⟨⟨⟨⟨⟨hfence, -⟩, -⟩, -⟩, -⟩, hlater⟩, -⟩, -⟩, -⟩, -⟩, -⟩, -⟩, -⟩ := hadmissible
      exact ⟨hsession, hfence, hlater⟩
    · cases h
  · cases h

lemma HealthAdmitted.change
    (h : HealthAdmitted p evidence session) (hnode : heartbeat.nodeId = evidence.nodeId)
    (hbeat : HeartbeatAdmitted p heartbeat receivedAt session.durationMs renewed s)
    (htimed : ∀ n, (p.record n).Timed (duration n)) : RecordChange (duration n) (p.record n)
      (((p.withHeartbeat heartbeat.nodeId renewed s).withHealthSequence evidence).record n) := by
  by_cases hn : n = evidence.nodeId
  · subst hn
    have hduration : session.durationMs = duration evidence.nodeId :=
      (htimed _).session session h.known
    obtain ⟨lease, lease', hlease, hprolonged, hrecord⟩ :=
      hbeat.prolonged (by rw [hnode, hduration]; exact htimed _)
    rw [hnode] at hlease hrecord ⊢
    have hreported : ((p.withHeartbeat evidence.nodeId renewed s).withHealthSequence
        evidence).record evidence.nodeId =
        { lease := some lease'
          session := some { session with
            acceptedHealthSequence := evidence.lastSequence
            acceptedHealthReceivedAt := evidence.lastReceivedAt }
          snapshot := s.get? evidence.nodeId } := by
      have hlease' := congrArg NodeRecord.lease hrecord
      have hsession : (p.withHeartbeat evidence.nodeId renewed s).nodeSessions.get?
          evidence.nodeId = some session := h.known
      simp only [record] at hlease'
      simp [record, withHealthSequence, get?_modify, hsession, hlease']
      rfl
    rw [hreported]
    exact .reported h.known h.unfenced h.later hlease hprolonged
  · have hrecord : ((p.withHeartbeat heartbeat.nodeId renewed s).withHealthSequence
        evidence).record n = (p.withHeartbeat heartbeat.nodeId renewed s).record n :=
      record_congr rfl (by simp [withHealthSequence, get?_modify, hn]) rfl
    rw [hrecord, record_withHeartbeat_of_ne (hnode ▸ hn) (hbeat.elsewhere n (hnode ▸ hn))]
    exact .same

lemma acceptReceivedHeartbeat_run (heartbeat : NodeHeartbeat)
    (receivedAt decisionAt : TimestampMs) (durationMs : Nat) :
    acceptReceivedHeartbeat heartbeat receivedAt decisionAt durationMs p =
      match validateReceivedHeartbeat p heartbeat receivedAt decisionAt durationMs with
      | .ok (renewed, s) => .ok () ((p.withHeartbeat heartbeat.nodeId renewed s).logged receivedAt
          (.nodeHeartbeatAccepted heartbeat.nodeId heartbeat.leaseId))
      | .error e => .error e p := by
  simp only [acceptReceivedHeartbeat, run_get_bind, run_check_bind]
  cases validateReceivedHeartbeat p heartbeat receivedAt decisionAt durationMs <;> rfl

lemma NodePlane.record_step {move : NodeMove} (htimed : ∀ n, (p.record n).Timed (duration n))
    (hmove : move.Timed duration) (horder : move.InOrder p) (hregisters : ¬ move.Registers p n) :
    RecordChange (duration n) (p.record n) ((p.step move).record n) := by
  cases move with
  | register env node registration status lease receivedAt timestamp =>
    unfold step registerNodeWithLeaseReceived
    simp only [run_get_bind, run_check_bind]
    split
    · next s hs =>
      have hn : n ≠ node := fun h => hregisters ⟨h.symm, by rw [hs]; rfl⟩
      rw [validateRegistration_ok hs]
      have hrecord : (p.withRegistration node lease (p.state.insert node
          ⟨registration, status, receivedAt, ⟨.reachable, timestamp⟩⟩)).record n = p.record n :=
        record_congr (get?_insert_of_ne hn) (OrdMap.get?_erase_of_ne _ hn)
          (get?_insert_of_ne hn)
      simpa [hrecord] using RecordChange.same
    · exact .same
  | update env node registration =>
    unfold step updateNodeRegistration
    simp only [run_get_bind, run_check_bind]
    split
    · next found hs =>
      obtain ⟨s, leaseId⟩ := found
      obtain ⟨current, hcurrent, rfl⟩ := validateUpdate_ok hs
      by_cases hn : n = node
      · subst hn
        have hrecord : (p.state.insert n { current with registration }).get? n =
            some { current with registration } := get?_insert_self _ _ _
        have hchange : RecordChange (duration n) (p.record n)
            { p.record n with snapshot := some { current with registration } } :=
          .redeclared hcurrent
        simpa [record, logged, hrecord] using hchange
      · have hrecord : (p.state.insert node { current with registration }).get? n =
            p.state.get? n := get?_insert_of_ne hn
        simpa [record, logged, hrecord] using RecordChange.same
    · exact .same
  | registerSession env node sessionId durationMs digest until_ =>
    unfold step registerAuthenticatedNodeSession
    simp only [run_get_bind, run_check_bind]
    split
    · next lease hs =>
      simp only [validateSession, bind_eq_ok, refuse_eq_ok] at hs
      obtain ⟨_, -, _, -, _, -, _, -, _, hnew, -⟩ := hs
      replace hnew : p.nodeSessions.get? node = none := by simpa [OrdMap.contains] using hnew
      obtain rfl : durationMs = duration node := hmove
      by_cases hn : n = node
      · subst hn
        have hchange : RecordChange (duration n) (p.record n) { p.record n with
            session := some (.admitted lease sessionId (duration n) digest until_) } :=
          .anchored hnew
        simpa [record] using hchange
      · simpa [record, get?_insert_of_ne hn] using RecordChange.same
    · exact .same
  | sessionLiveness =>
    unfold step acceptSessionLiveness
    simp only [run_get_bind, run_check_bind]
    split
    · next admitted hadmitted =>
      cases admitted with
      | none => exact .same
      | some => exact (admitLiveness_ok hadmitted).change
    · exact .same
  | reportedHealth env evidence decisionAt =>
    unfold step acceptSessionReportedHealth
    simp only [run_get_bind]
    cases hadmitted : admitHealth env p evidence decisionAt with
    | none => exact .same
    | some found =>
      obtain ⟨session, status⟩ := found
      dsimp only
      rw [run_bind, acceptReceivedHeartbeat_run]
      cases hs : validateReceivedHeartbeat p ⟨evidence.nodeId, evidence.leaseId, status⟩
          evidence.lastReceivedAt decisionAt session.durationMs with
      | error e => exact .same
      | ok result =>
        exact (admitHealth_ok hadmitted).change rfl (validateReceivedHeartbeat_ok hs) htimed
  | receivedHeartbeat beat receivedAt decisionAt durationMs =>
    obtain rfl : durationMs = duration beat.nodeId := hmove
    unfold step acceptReceivedHeartbeat
    simp only [run_get_bind, run_check_bind]
    split
    · next found hs => exact (validateReceivedHeartbeat_ok hs).change htimed
    · exact .same
  | heartbeat beat receivedAt durationMs =>
    obtain rfl : durationMs = duration beat.nodeId := hmove
    unfold step acceptHeartbeat
    simp only [run_get_bind, run_check_bind]
    split
    · next found hs => exact (HeartbeatAdmitted.of_inOrder hs horder).change htimed
    · exact .same
  | fence node => exact .quieted (quietsAt_fence node n p)
  | expire now => exact .quieted (quietsAt_expireLeases now n p)

end

/-! ### Declarations -/

def NodeMove.Declares (p : NodePlane) (n : NodeId) (registration : NodeRegistration) :
    NodeMove → Prop
  | .register env node r status lease receivedAt timestamp => (node = n ∧ r = registration) ∧
    (validateRegistration env p node r status lease receivedAt timestamp).toBool = true
  | .update env node r timestamp => (node = n ∧ r = registration) ∧
    (validateUpdate env p node r timestamp).toBool = true
  | _ => False

lemma NodePlane.registrationOf_step (p : NodePlane) (move : NodeMove) (n : NodeId) :
    registrationOf (p.step move).state n = registrationOf p.state n ∨
      ∃ registration, move.Declares p n registration ∧
        registrationOf (p.step move).state n = some registration := by
  cases move with
  | register env node registration =>
    unfold step registerNodeWithLeaseReceived
    simp only [run_get_bind, run_check_bind]
    split
    · next s hs =>
      obtain rfl := validateRegistration_ok hs
      by_cases hn : n = node
      · subst hn
        refine .inr ⟨registration, ⟨⟨rfl, rfl⟩, by rw [hs]; rfl⟩, ?_⟩
        simp [registrationOf, logged, withRegistration]
      · refine .inl ?_
        simp [registrationOf, logged, withRegistration, get?_insert_of_ne hn]
    · exact .inl rfl
  | update env node registration =>
    unfold step updateNodeRegistration
    simp only [run_get_bind, run_check_bind]
    split
    · next found hs =>
      obtain ⟨s, leaseId⟩ := found
      obtain ⟨_, -, rfl⟩ := validateUpdate_ok hs
      by_cases hn : n = node
      · subst hn
        refine .inr ⟨registration, ⟨⟨rfl, rfl⟩, by rw [hs]; rfl⟩, ?_⟩
        simp [registrationOf, logged]
      · refine .inl ?_
        simp [registrationOf, logged, get?_insert_of_ne hn]
    · exact .inl rfl
  | registerSession =>
    refine .inl ?_
    unfold step registerAuthenticatedNodeSession
    simp only [run_get_bind, run_check_bind]
    split <;> rfl
  | sessionLiveness =>
    refine .inl ?_
    unfold step acceptSessionLiveness
    simp only [run_get_bind, run_check_bind]
    split
    · next admitted _ => cases admitted <;> rfl
    · rfl
  | reportedHealth env evidence decisionAt =>
    refine .inl ?_
    unfold step acceptSessionReportedHealth
    simp only [run_get_bind]
    cases admitHealth env p evidence decisionAt with
    | none => rfl
    | some found =>
      dsimp only
      rw [run_bind, acceptReceivedHeartbeat_run]
      cases hs : validateReceivedHeartbeat p ⟨evidence.nodeId, evidence.leaseId, found.2⟩
          evidence.lastReceivedAt decisionAt found.1.durationMs with
      | error e => rfl
      | ok result => exact (validateReceivedHeartbeat_ok hs).declarations n
  | receivedHeartbeat beat receivedAt decisionAt durationMs =>
    refine .inl ?_
    unfold step
    dsimp only
    rw [acceptReceivedHeartbeat_run]
    cases hs : validateReceivedHeartbeat p beat receivedAt decisionAt durationMs with
    | error => rfl
    | ok => exact (validateReceivedHeartbeat_ok hs).declarations n
  | heartbeat =>
    refine .inl ?_
    unfold step acceptHeartbeat
    simp only [run_get_bind, run_check_bind]
    split
    · next found hs =>
      obtain ⟨_, snapshot, -, hsnapshot, -, -, -, -, hstate⟩ := validateHeartbeat_ok hs
      show registrationOf found.2 n = registrationOf p.state n
      rw [hstate]
      exact registrationOf_insert hsnapshot (by rfl) n
    · rfl
  | fence => exact .inl rfl
  | expire now =>
    refine .inl ?_
    have hquiet : Quiets (p.record n) ((p.step (.expire now)).record n) :=
      quietsAt_expireLeases now n p
    show ((p.step (.expire now)).record n).snapshot.map (·.registration) =
      (p.record n).snapshot.map (·.registration)
    rcases hquiet.snapshot with hsame | ⟨_, _, hold, hnew⟩
    · rw [hsame]
    · rw [hnew, hold]
      rfl

end RoboGuide.Control
