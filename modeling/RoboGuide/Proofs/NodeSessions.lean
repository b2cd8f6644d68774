import RoboGuide.Control.Fleet

/-!
# `RoboGuide.Proofs.NodeSessions`: leases, sequences and fences of a registration

Between two registrations of a node, in any order of evidence:

* its lease never expires earlier than it did;
* the sequences its session accepts increase, for liveness and for health;
* once its session is fenced, by `fence_node_session` or by an expired lease, nothing makes the
  node schedulable at a time at which it was not.

`accept_heartbeat` looks neither at the fence nor at the time the lease was issued. A heartbeat
that was received before another kind of evidence renewed the lease shortens it, and one of a
fenced session renews it. The three facts hold in runs whose accepted heartbeats are in order
(`NodeMove.InOrder`).
-/

namespace RoboGuide.Control

open Domain Lib State Fallible NodePlane Option

variable {p p' : NodePlane} {move : NodeMove} {n : NodeId} {r : NodeRecord}
  {s : NodeSessionAnchor} {now : TimestampMs}

/-! ### What one change keeps -/

namespace RecordChange

variable {duration : Nat} {r r' : NodeRecord}

lemma timed (h : RecordChange duration r r') (hr : r.Timed duration) : r'.Timed duration := by
  have hprolonged : ∀ {d : Nat} {l l' : NodeLease}, d = duration → r.lease = some l →
      Prolonged d l l' → l'.expiresAt = l'.issuedAt + duration := by
    rintro d l l' rfl hl (rfl | ⟨-, h⟩)
    · exact hr.lease _ hl
    · exact h
  cases h with
  | same | redeclared => exact ⟨hr.lease, hr.session⟩
  | anchored =>
    refine ⟨hr.lease, fun s hs => ?_⟩
    cases hs
    rfl
  | extended known _ _ held prolonged | reported known _ _ held prolonged =>
    have hduration := hr.session _ known
    refine ⟨fun l hl => ?_, fun s hs => ?_⟩
    · cases hl
      exact hprolonged hduration held prolonged
    · cases hs
      exact hduration
  | beaten _ held prolonged =>
    refine ⟨fun l hl => ?_, hr.session⟩
    cases hl
    exact hprolonged rfl held prolonged
  | quieted quiet =>
    refine ⟨fun l hl => hr.lease l (quiet.lease ▸ hl), fun s hs => ?_⟩
    rcases quiet.session with hsame | hfenced
    · exact hr.session s (hsame ▸ hs)
    · rw [hfenced, map_eq_some_iff] at hs
      obtain ⟨s₀, hs₀, rfl⟩ := hs
      exact hr.session s₀ hs₀

lemma lease_le (h : RecordChange duration r r') {l : NodeLease} (hl : r.lease = some l) :
    ∃ l', r'.lease = some l' ∧ l.expiresAt ≤ l'.expiresAt := by
  have hprolonged : ∀ {d : Nat} {held l' : NodeLease}, r.lease = some held →
      Prolonged d held l' → l.expiresAt ≤ l'.expiresAt := by
    intro d held l' hheld hp
    cases hl.symm.trans hheld
    rcases hp with rfl | ⟨h, -⟩
    · exact Nat.le_refl _
    · exact h
  cases h with
  | same | redeclared | anchored => exact ⟨l, hl, Nat.le_refl _⟩
  | extended _ _ _ held prolonged | beaten _ held prolonged | reported _ _ _ held prolonged =>
    exact ⟨_, rfl, hprolonged held prolonged⟩
  | quieted quiet => exact ⟨l, quiet.lease.trans hl, Nat.le_refl _⟩

end RecordChange

def NodeRecord.accepted (sequence : NodeSessionAnchor → Nat) (r : NodeRecord) : Nat :=
  r.session.elim 0 sequence

lemma Quiets.accepted {r' : NodeRecord} (h : Quiets r r') {sequence : NodeSessionAnchor → Nat}
    (hfence : ∀ s, sequence s.fence = sequence s) : r'.accepted sequence = r.accepted sequence := by
  unfold NodeRecord.accepted
  rcases h.session with hsame | hfenced
  · rw [hsame]
  · rw [hfenced]
    cases r.session with
    | none => rfl
    | some s => exact hfence s

namespace RecordChange

variable {duration : Nat} {r r' : NodeRecord}

lemma accepted_le (h : RecordChange duration r r') :
    r.accepted (·.acceptedSequence) ≤ r'.accepted (·.acceptedSequence) ∧
      r.accepted (·.acceptedHealthSequence) ≤ r'.accepted (·.acceptedHealthSequence) := by
  cases h with
  | same | redeclared | beaten => exact ⟨Nat.le_refl _, Nat.le_refl _⟩
  | anchored new => simp [NodeRecord.accepted, new]
  | extended known _ later =>
    simp only [NodeRecord.accepted, known, elim_some]
    exact ⟨Nat.le_of_lt later, Nat.le_refl _⟩
  | reported known _ later =>
    simp only [NodeRecord.accepted, known, elim_some]
    exact ⟨Nat.le_refl _, Nat.le_of_lt later⟩
  | quieted quiet => exact ⟨(quiet.accepted fun _ => rfl).ge, (quiet.accepted fun _ => rfl).ge⟩

end RecordChange

/-! ### A fenced session -/

/-- The record of a fenced Node, which says nothing new. -/
structure Silent (r r' : NodeRecord) : Prop where
  lease : r'.lease = r.lease
  session : ∃ s s', r.session = some s ∧ r'.session = some s' ∧ s'.fenced = true ∧
    s'.certificateExpiresAtMs = s.certificateExpiresAtMs ∧
    s'.certificateDigest = s.certificateDigest
  snapshot : ∀ x', r'.snapshot = some x' → ∃ x, r.snapshot = some x ∧
    x'.reportedStatus = x.reportedStatus ∧
    x'.reportedStatusReceivedAt = x.reportedStatusReceivedAt ∧
    (x'.liveness.liveness = .reachable → x.liveness.liveness = .reachable)

lemma Silent.refl (hs : r.session = some s) (hfenced : s.fenced = true) : Silent r r :=
  ⟨rfl, ⟨s, s, hs, hs, hfenced, rfl, rfl⟩, fun x hx => ⟨x, hx, rfl, rfl, id⟩⟩

lemma Silent.change {duration : Nat} {r₁ r₂ : NodeRecord} (h : Silent r r₁)
    (hchange : RecordChange duration r₁ r₂) : Silent r r₂ := by
  obtain ⟨s, s₁, hs, hs₁, hfenced, hexpires, hdigest⟩ := h.session
  have hclosed : ∀ {s' : NodeSessionAnchor}, r₁.session = some s' → s'.fenced ≠ false := by
    intro s' hs'
    cases hs₁.symm.trans hs'
    simp [hfenced]
  cases hchange with
  | same => exact h
  | redeclared known =>
    have hsnapshot := h.snapshot _ known
    refine ⟨h.lease, h.session, fun x' hx' => ?_⟩
    cases hx'
    exact hsnapshot
  | anchored new => exact absurd (new.symm.trans hs₁) (by simp)
  | extended known unfenced | reported known unfenced => exact absurd unfenced (hclosed known)
  | beaten unfenced => exact absurd (unfenced _ hs₁) (hclosed hs₁)
  | quieted quiet =>
    refine ⟨quiet.lease.trans h.lease, ?_, fun x' hx' => ?_⟩
    · rcases quiet.session with hsame | hfence
      · exact ⟨s, s₁, hs, hsame.trans hs₁, hfenced, hexpires, hdigest⟩
      · rw [hs₁] at hfence
        exact ⟨s, s₁.fence, hs, hfence, rfl, hexpires, hdigest⟩
    · rcases quiet.snapshot with hsame | ⟨x₁, _, hx₁, hx₂⟩
      · exact h.snapshot x' (hsame.symm.trans hx')
      · cases hx₂.symm.trans hx'
        obtain ⟨x, hx, hstatus, hreceived, -⟩ := h.snapshot x₁ hx₁
        exact ⟨x, hx, hstatus, hreceived, fun hreachable => by cases hreachable⟩

lemma Silent.schedulable (h : Silent (p.record n) (p'.record n))
    {identities : Option NodeIdentityRegistry} {maxStatusAgeMs : Nat}
    (hs : p'.schedulable identities maxStatusAgeMs n now = true) :
    p.schedulable identities maxStatusAgeMs n now = true := by
  have hlease : p'.leases.get? n = p.leases.get? n := h.lease
  obtain ⟨s, s', hsession, hsession', -, hexpires, hdigest⟩ := h.session
  have hsession : p.nodeSessions.get? n = some s := hsession
  have hsession' : p'.nodeSessions.get? n = some s' := hsession'
  have htransport : ∀ registry, p'.identityTransportIsCurrent registry n now =
      p.identityTransportIsCurrent registry n now := by
    intro registry
    simp only [NodePlane.identityTransportIsCurrent, hsession, hsession', any_some, hexpires,
      hdigest]
  cases hx' : p'.state.get? n with
  | none => simp [NodePlane.schedulable, hx'] at hs
  | some x' =>
    obtain ⟨x, hx, hstatus, hreceived, hreachable⟩ := h.snapshot x' hx'
    have hx : p.state.get? n = some x := hx
    simp only [NodePlane.schedulable, NodePlane.identityIsEligible, hx', hx, any_some,
      htransport, hstatus, hreceived, hlease, Bool.and_eq_true, beq_iff_eq] at hs ⊢
    exact ⟨⟨hs.1.1, hreachable hs.1.2⟩, hs.2⟩

/-! ### Runs -/

def livenessSequence (n : NodeId) (p : NodePlane) : NodeMove → Option Nat
  | .sessionLiveness evidence decisionAt =>
    match acceptSessionLiveness evidence decisionAt p with
    | .ok true _ => if evidence.nodeId = n then some evidence.lastSequence else none
    | _ => none
  | _ => none

def healthSequence (n : NodeId) (p : NodePlane) : NodeMove → Option Nat
  | .reportedHealth env evidence decisionAt =>
    match acceptSessionReportedHealth env evidence decisionAt p with
    | .ok true _ => if evidence.nodeId = n then some evidence.lastSequence else none
    | _ => none
  | _ => none

/-- The move fences the Node's session. -/
def NodeMove.Closes (p : NodePlane) (n : NodeId) : NodeMove → Prop
  | .fence node => node = n
  | .expire now => (∃ nodes p', expireLeases now p = .ok nodes p') ∧
    (∃ lease, p.leases.get? n = some lease ∧ lease.isActiveAt now = false) ∧
    ∃ snapshot, p.state.get? n = some snapshot ∧ snapshot.liveness.liveness = .reachable
  | _ => False

structure HoldsWhileRegistered (n : NodeId) (p : NodePlane) (moves : List NodeMove) : Prop where
  expiry : ∀ l, p.leases.get? n = some l →
    ∃ l', (moves.foldl NodePlane.step p).leases.get? n = some l' ∧ l.expiresAt ≤ l'.expiresAt
  liveness : (outputs NodePlane.step (livenessSequence n) p moves).Pairwise (· < ·)
  health : (outputs NodePlane.step (healthSequence n) p moves).Pairwise (· < ·)
  closed : ∀ s move, p.nodeSessions.get? n = some s → move.Closes p n →
    ∃ s', (p.step move).nodeSessions.get? n = some s' ∧ s'.fenced = true
  fenced : ∀ s, p.nodeSessions.get? n = some s → s.fenced = true →
    ∀ identities maxStatusAgeMs now,
      (moves.foldl NodePlane.step p).schedulable identities maxStatusAgeMs n now = true →
        p.schedulable identities maxStatusAgeMs n now = true

def NodePlane.Fenced (n : NodeId) (p : NodePlane) : Prop :=
  ∀ s, p.nodeSessions.get? n = some s → s.fenced = true

lemma fenced_fenceNodeSession (n : NodeId) (p : NodePlane) : (p.fenceNodeSession n).Fenced n := by
  intro s hs
  rw [fenceNodeSession] at hs
  dsimp only at hs
  rw [get?_modify, if_pos rfl, map_eq_some_iff] at hs
  obtain ⟨_, -, rfl⟩ := hs
  rfl

lemma QuietsAt.fenced (h : QuietsAt n p p') (hp : p.Fenced n) : p'.Fenced n := by
  intro s hs
  rcases h.session with hsame | hfence
  · exact hp s (hsame.symm.trans hs)
  · obtain ⟨_, -, rfl⟩ := map_eq_some_iff.mp (hfence.symm.trans hs)
    rfl

lemma QuietsAt.session (h : QuietsAt n p p') (hs : p.nodeSessions.get? n = some s) :
    ∃ s', p'.nodeSessions.get? n = some s' := by
  have hs : (p.record n).session = some s := hs
  rcases Quiets.session h with hsame | hfence
  · exact ⟨s, hsame.trans hs⟩
  · exact ⟨s.fence, by rw [hs] at hfence; exact hfence⟩

lemma fenced_expireLeases
    {nodes : List NodeId} (h : expireLeases now p = .ok nodes p') {leaseId : LeaseId}
    (hn : (n, leaseId) ∈ p.expired now) : p'.Fenced n := by
  unfold expireLeases at h
  simp only [run_get_bind] at h
  obtain ⟨_, p₁, hloop, hp'⟩ := run_bind_eq_ok.mp h
  cases hp'
  refine forM_establishes (P := fun x p => p.Fenced x.1) hloop ?_ ?_ _ hn
  · intro x _ p p' hx
    -- The fence comes first; what follows only quiets.
    unfold expireLease at hx
    simp only [run_modify_bind, run_get_bind] at hx
    obtain ⟨s, -, hs⟩ := run_check_bind_eq_ok.mp hx
    cases hs
    exact fenced_fenceNodeSession x.1 p
  · intro x y p p' hp hy
    have hquiet := quietsAt_expireLease now y.1 y.2 x.1 p
    rw [show expireLease now y.1 y.2 p = _ from hy] at hquiet
    exact QuietsAt.fenced hquiet hp

lemma NodeMove.Closes.fenced (h : move.Closes p n) (hs : p.nodeSessions.get? n = some s) :
    ∃ s', (p.step move).nodeSessions.get? n = some s' ∧ s'.fenced = true := by
  cases move with
  | fence node =>
    obtain rfl : node = n := h
    obtain ⟨s', hs'⟩ := (quietsAt_fence node node p).session hs
    exact ⟨s', hs', fenced_fenceNodeSession node p s' hs'⟩
  | expire now =>
    obtain ⟨⟨_, p', hok⟩, ⟨lease, hlease, hinactive⟩, _, hsnapshot, hreachable⟩ := h
    have hexpired : (n, lease.leaseId) ∈ p.expired now := by
      refine List.mem_map.mpr ⟨(n, lease), List.mem_filter.mpr
        ⟨mem_entries_iff.mpr hlease, ?_⟩, rfl⟩
      simp [hinactive, hsnapshot, hreachable]
    obtain ⟨s', hs'⟩ := QuietsAt.session (quietsAt_expireLeases now n p) hs
    have hstep : p.step (.expire now) = p' := by
      show state (expireLeases now p) = p'
      rw [hok, state_ok]
    have hs₁ : (p.step (.expire now)).nodeSessions.get? n = some s' := hs'
    exact ⟨s', hs₁, fenced_expireLeases hok hexpired s' (hstep ▸ hs₁)⟩
  | register | update | registerSession | sessionLiveness | reportedHealth | receivedHeartbeat
  | heartbeat => exact h.elim

section

variable {duration : NodeId → Nat} {n : NodeId} {p : NodePlane}
  {evidence : NodeSessionLivenessEvidence} {decisionAt : TimestampMs} {q : Nat}

/-- A fresh registration has the configured lease and no session. -/
lemma NodeMove.Registers.timed (h : move.Registers p n)
    (hmove : move.Timed duration) : ((p.step move).record n).Timed (duration n) := by
  cases move with
  | register env node registration status lease receivedAt timestamp =>
    obtain ⟨rfl, haccepted⟩ := h
    have hexpires : lease.expiresAt = lease.issuedAt + duration node := by
      have hnew := NodeLease.new_eq_ok hmove
      rw [hnew]
    unfold step registerNodeWithLeaseReceived
    simp only [run_get_bind, run_check_bind]
    cases hs : validateRegistration env p node registration status lease receivedAt timestamp with
    | error =>
      rw [hs] at haccepted
      cases haccepted
    | ok =>
      refine ⟨fun l hl => ?_, fun session hsession => ?_⟩
      · have hl : (p.leases.insert node lease).get? node = some l := hl
        rw [get?_insert_self] at hl
        cases hl
        exact hexpires
      · have hsession : (p.nodeSessions.erase node).get? node = some session := hsession
        rw [OrdMap.get?_erase_self] at hsession
        cases hsession
  | update | registerSession | sessionLiveness | reportedHealth | receivedHeartbeat | heartbeat
  | fence | expire => exact h.elim

lemma NodePlane.step_timed (hp : ∀ n, (p.record n).Timed (duration n))
    (hmove : move.Timed duration) (horder : move.InOrder p) (n : NodeId) :
    ((p.step move).record n).Timed (duration n) := by
  by_cases hregisters : move.Registers p n
  · exact hregisters.timed hmove
  · exact (record_step hp hmove horder hregisters).timed (hp n)

lemma NodePlane.Run.timed
    (hrun : NodePlane.Run duration (fun p move => move.InOrder p) .empty p) :
    ∀ n, (p.record n).Timed (duration n) :=
  hrun.invariant (P := fun p => ∀ n, (p.record n).Timed (duration n))
    (fun _ => ⟨fun _ hl => (by cases hl), fun _ hs => (by cases hs)⟩)
    fun _ _ hp hmove => step_timed hp hmove.1 hmove.2

lemma acceptSessionLiveness_true (h : acceptSessionLiveness evidence decisionAt p = .ok true p') :
    ∃ session session', p.nodeSessions.get? evidence.nodeId = some session ∧
      session.acceptedSequence < evidence.lastSequence ∧
      p'.nodeSessions.get? evidence.nodeId = some session' ∧
      session'.acceptedSequence = evidence.lastSequence := by
  unfold acceptSessionLiveness at h
  simp only [run_get_bind] at h
  obtain ⟨admitted, hadmitted, h⟩ := run_check_bind_eq_ok.mp h
  cases admitted with
  | none => cases h
  | some =>
    have hl := admitLiveness_ok hadmitted
    cases h
    exact ⟨_, _, hl.known, hl.later, get?_insert_self _ _ _, rfl⟩

lemma acceptSessionReportedHealth_true {env : NodeContext}
    (h : acceptSessionReportedHealth env evidence decisionAt p = .ok true p') :
    ∃ session session', p.nodeSessions.get? evidence.nodeId = some session ∧
      session.acceptedHealthSequence < evidence.lastSequence ∧
      p'.nodeSessions.get? evidence.nodeId = some session' ∧
      session'.acceptedHealthSequence = evidence.lastSequence := by
  unfold acceptSessionReportedHealth at h
  simp only [run_get_bind] at h
  cases hadmitted : admitHealth env p evidence decisionAt with
  | none =>
    rw [hadmitted] at h
    cases h
  | some found =>
    have hl := admitHealth_ok hadmitted
    rw [hadmitted] at h
    obtain ⟨_, p₁, hbeat, h⟩ := run_bind_eq_ok.mp h
    cases h
    rw [acceptReceivedHeartbeat_run] at hbeat
    split at hbeat
    · cases hbeat
      refine ⟨found.1, { found.1 with
        acceptedHealthSequence := evidence.lastSequence
        acceptedHealthReceivedAt := evidence.lastReceivedAt }, hl.known, hl.later, ?_, rfl⟩
      show (p.nodeSessions.modify evidence.nodeId _).get? evidence.nodeId = _
      rw [get?_modify, if_pos rfl, hl.known]
      rfl
    · cases hbeat

lemma livenessSequence_accepted (h : livenessSequence n p move = some q) :
    (p.record n).accepted (·.acceptedSequence) < q ∧
      q ≤ ((p.step move).record n).accepted (·.acceptedSequence) := by
  cases move with
  | sessionLiveness =>
    unfold livenessSequence step at *
    dsimp only at h ⊢
    split at h
    · next p' hok =>
      obtain ⟨rfl, hq⟩ := ite_none_right_eq_some.mp h
      cases hq
      rw [hok, state_ok]
      obtain ⟨_, _, hs, hlt, hs', heq⟩ := acceptSessionLiveness_true hok
      simp only [NodeRecord.accepted, record, hs, hs', elim_some, heq]
      exact ⟨hlt, Nat.le_refl _⟩
    · cases h
  | register | update | registerSession | reportedHealth | receivedHeartbeat | heartbeat
  | fence | expire => cases h

lemma healthSequence_accepted (h : healthSequence n p move = some q) :
    (p.record n).accepted (·.acceptedHealthSequence) < q ∧
      q ≤ ((p.step move).record n).accepted (·.acceptedHealthSequence) := by
  cases move with
  | reportedHealth =>
    unfold healthSequence step at *
    dsimp only at h ⊢
    split at h
    · next p' hok =>
      obtain ⟨rfl, hq⟩ := ite_none_right_eq_some.mp h
      cases hq
      rw [hok, state_ok]
      obtain ⟨_, _, hs, hlt, hs', heq⟩ := acceptSessionReportedHealth_true hok
      simp only [NodeRecord.accepted, record, hs, hs', elim_some, heq]
      exact ⟨hlt, Nat.le_refl _⟩
    · cases h
  | register | update | registerSession | sessionLiveness | receivedHeartbeat | heartbeat
  | fence | expire => cases h

/-- A call in order that leaves the registration of the node current. -/
def NodeMove.Keeps (duration : NodeId → Nat) (n : NodeId)
    (condition : NodePlane → NodeMove → Prop) (p : NodePlane) (move : NodeMove) : Prop :=
  move.Timed duration ∧ condition p move ∧ ¬ move.Registers p n

/-- The lease, the accepted sequences and the fence of a node, along any evidence that arrives
while its registration is current and in which accepted heartbeats are in order. -/
theorem registration_holds_while_current
    (hrun : NodePlane.Run duration (fun p move => move.InOrder p) .empty p) {moves : List NodeMove}
    (hmoves : Reaches.AllowedAlong NodePlane.step
      (NodeMove.Keeps duration n fun p move => move.InOrder p) p moves) :
    HoldsWhileRegistered n p moves := by
  have htimed := NodePlane.Run.timed hrun
  have hchange : ∀ p move, (∀ n, (p.record n).Timed (duration n)) →
      NodeMove.Keeps duration n (fun p move => move.InOrder p) p move →
      RecordChange (duration n) (p.record n) ((p.step move).record n) :=
    fun p move hp hmove => record_step hp hmove.1 hmove.2.1 hmove.2.2
  have hstep : ∀ p move, (∀ n, (p.record n).Timed (duration n)) →
      NodeMove.Keeps duration n (fun p move => move.InOrder p) p move →
      ∀ n, ((p.step move).record n).Timed (duration n) :=
    fun p move hp hmove => step_timed hp hmove.1 hmove.2.1
  have hreach := Reaches.of_list moves .refl hmoves
  refine ⟨fun l hl => ?_, ?_, ?_, fun s move hs hcloses => hcloses.fenced hs,
    fun s hs hfenced identities age now hschedulable => ?_⟩
  · refine (hreach.invariant (P := fun p' => (∀ n, (p'.record n).Timed (duration n)) ∧
      ∃ l', p'.leases.get? n = some l' ∧ l.expiresAt ≤ l'.expiresAt)
      ⟨htimed, l, hl, Nat.le_refl _⟩ fun p' move hp' hmove => ?_).2
    obtain ⟨htimed', l', hl', hle⟩ := hp'
    obtain ⟨l'', hl'', hle'⟩ := (hchange p' move htimed' hmove).lease_le hl'
    exact ⟨hstep p' move htimed' hmove, l'', hl'', hle.trans hle'⟩
  · exact (outputs_increasing (fun p => (p.record n).accepted (·.acceptedSequence)) hstep
      (fun p move hp hmove => (hchange p move hp hmove).accepted_le.1)
      (fun _ _ _ _ _ => livenessSequence_accepted) htimed hmoves).2
  · exact (outputs_increasing (fun p => (p.record n).accepted (·.acceptedHealthSequence)) hstep
      (fun p move hp hmove => (hchange p move hp hmove).accepted_le.2)
      (fun _ _ _ _ _ => healthSequence_accepted) htimed hmoves).2
  · refine Silent.schedulable (hreach.invariant
      (P := fun p' => (∀ n, (p'.record n).Timed (duration n)) ∧
        Silent (p.record n) (p'.record n)) ⟨htimed, Silent.refl hs hfenced⟩
      fun p' move hp' hmove => ?_).2 hschedulable
    exact ⟨hstep p' move hp'.1 hmove, hp'.2.change (hchange p' move hp'.1 hmove)⟩

end

namespace Lapse

def node : NodeId := ⟨"node", .refl false⟩

def leaseId : LeaseId := ⟨"lease", .refl false⟩

def env : NodeContext := ⟨.new, none⟩

def online (observedAt : TimestampMs) : NodeStatus := ⟨.online, observedAt⟩

def evidence : NodeSessionLivenessEvidence :=
  { nodeId := node, sessionId := "session", leaseId, activatedAt := 0, firstSequence := 1,
    lastSequence := 5, firstReceivedAt := 10, lastReceivedAt := 50, maximumGapMs := 40,
    reportedHealth := some (online 50) }

def heartbeat (receivedAt : TimestampMs) : NodeMove :=
  .heartbeat ⟨node, leaseId, online receivedAt⟩ receivedAt 100

/-- A lease of 100 from 0, and a session. -/
def registered : List NodeMove :=
  [.register env node ⟨[], [], [], false⟩ (online 0) ⟨leaseId, node, 0, 100⟩ 0 0,
    .registerSession env node "session" 100 none none]

def after (moves : List NodeMove) : NodePlane := (registered ++ moves).foldl NodePlane.step .empty

lemma run_after {condition : NodePlane → NodeMove → Prop} {moves : List NodeMove}
    (h : Reaches.AllowedAlong step (fun p move => move.Timed (fun _ => 100) ∧
      condition p move) .empty (registered ++ moves)) :
    NodePlane.Run (fun _ => 100) condition .empty (after moves) :=
  Reaches.of_list _ .refl h

instance (n : NodeId) (condition : NodePlane → NodeMove → Prop)
    [∀ p move, Decidable (condition p move)] (p : NodePlane) (move : NodeMove) :
    Decidable (move.Keeps (fun _ => 100) n condition p) := by
  unfold NodeMove.Keeps
  infer_instance

end Lapse

/-- Liveness, a heartbeat in order, the session's health, and the expiry of the lease. -/
theorem orderly_session_holds :
    HoldsWhileRegistered Lapse.node (Lapse.after [.sessionLiveness Lapse.evidence 50])
      [Lapse.heartbeat 50, .reportedHealth Lapse.env Lapse.evidence 60, .expire 200,
        Lapse.heartbeat 199] := by
  have hrun : NodePlane.Run (fun _ => 100) (fun p move => move.InOrder p) .empty
      (Lapse.after [.sessionLiveness Lapse.evidence 50]) := Lapse.run_after (by decide +kernel)
  exact registration_holds_while_current hrun (by decide +kernel)

/-- A heartbeat from before the renewal shortens the lease, and one from before the expiry
brings the node of a fenced session back. -/
theorem late_heartbeat_shortens_and_revives :
    (¬ ∀ (duration : NodeId → Nat) (n : NodeId) (p : NodePlane) (moves : List NodeMove),
      NodePlane.Run duration (fun _ _ => True) .empty p →
      Reaches.AllowedAlong NodePlane.step (NodeMove.Keeps duration n fun _ _ => True) p moves →
      ∀ l, p.leases.get? n = some l →
        ∃ l', (moves.foldl NodePlane.step p).leases.get? n = some l' ∧
          l.expiresAt ≤ l'.expiresAt) ∧
    ¬ ∀ (duration : NodeId → Nat) (n : NodeId) (p : NodePlane) (moves : List NodeMove),
      NodePlane.Run duration (fun _ _ => True) .empty p →
      Reaches.AllowedAlong NodePlane.step (NodeMove.Keeps duration n fun _ _ => True) p moves →
      ∀ s, p.nodeSessions.get? n = some s → s.fenced = true →
        ∀ identities maxStatusAgeMs now,
          (moves.foldl NodePlane.step p).schedulable identities maxStatusAgeMs n now = true →
            p.schedulable identities maxStatusAgeMs n now = true := by
  constructor
  · intro h
    have hl : (Lapse.after [.sessionLiveness Lapse.evidence 50]).leases.get? Lapse.node =
        some ⟨Lapse.leaseId, Lapse.node, 50, 150⟩ := by decide +kernel
    obtain ⟨l', hl', hle⟩ := h (fun _ => 100) Lapse.node _ [Lapse.heartbeat 10]
      (Lapse.run_after (by decide +kernel)) (by decide +kernel) _ hl
    have hshort : ([Lapse.heartbeat 10].foldl step
        (Lapse.after [.sessionLiveness Lapse.evidence 50])).leases.get? Lapse.node =
        some ⟨Lapse.leaseId, Lapse.node, 10, 110⟩ := by decide +kernel
    cases hshort.symm.trans hl'
    exact absurd hle (by decide)
  · intro h
    have hfenced : ((Lapse.after [.expire 100]).nodeSessions.get? Lapse.node).map (·.fenced) =
        some true := by decide +kernel
    obtain ⟨s, hs, hf⟩ := map_eq_some_iff.mp hfenced
    have hrevived := h (fun _ => 100) Lapse.node (Lapse.after [.expire 100])
      [Lapse.heartbeat 99, Lapse.heartbeat 150] (Lapse.run_after (by decide +kernel))
      (by decide +kernel) s hs hf none 100 160 (by decide +kernel)
    exact absurd hrevived (by decide +kernel)

end RoboGuide.Control
