import RoboGuide.Control.Federation

/-!
# `RoboGuide.Proofs.FederationSessions`: prepare, commit and abort of a cross-domain session

A prepare that is repeated is compared with the whole stored session, its phase included. So a
duplicate that arrives after the commit or the abort is answered with a conflict
(`FederationSessions.prepare_retried_iff`), although the session it names is the one it made.
-/

namespace RoboGuide.Control

open Domain Lib Fallible Bool

namespace FederationSessions

/-- Every session stays, with its identity; a decided one keeps its phase. -/
def Keeps (sessions later : FederationSessions) : Prop :=
  ∀ id s, sessions.get? id = some s → ∃ phase, later.get? id = some { s with state := phase } ∧
    (s.state ≠ .prepared → phase = s.state)

variable {sessions later : FederationSessions} {session : FederationSession} {id : String}
  {now : TimestampMs}

lemma Keeps.refl (sessions : FederationSessions) : Keeps sessions sessions :=
  fun _ s hs => ⟨s.state, hs, fun _ => rfl⟩

lemma Keeps.trans {last : FederationSessions} (h : Keeps sessions later) (h' : Keeps later last) :
    Keeps sessions last := by
  intro id s hs
  obtain ⟨_, hlater, hphase⟩ := h id s hs
  obtain ⟨phase', hlast, hphase'⟩ := h' id _ hlater
  refine ⟨phase', hlast, fun hdecided => ?_⟩
  have hkept := hphase hdecided
  exact (hphase' (hkept ▸ hdecided)).trans hkept

lemma Keeps.insert (hnew : ∀ s, sessions.get? id = some s → s.state = .prepared ∧
      session = { s with state := session.state }) :
        Keeps sessions (sessions.insert id session) := by
  intro id' s hs
  by_cases hid : id' = id
  · subst hid
    obtain ⟨hprepared, hsame⟩ := hnew s hs
    exact ⟨session.state, by rw [get?_insert_self, ← hsame], fun h => absurd hprepared h⟩
  · exact ⟨s.state, (get?_insert_of_ne hid).trans hs, fun _ => rfl⟩

lemma prepare_ok (h : sessions.prepareFederationSession session now = .ok later) :
    (session.state = .prepared ∧ isBlank session.tenantId = false) ∧
      session.validateAt now = .ok () ∧
      (∀ s, sessions.get? session.transactionId = some s → s = session) ∧
      later = sessions.insert session.transactionId session := by
  simp only [prepareFederationSession, bind_eq_ok, refuse_eq_ok, or_eq_false_iff,
    bne_eq_false_iff_eq, mapError_eq_ok, pure_eq_ok, Option.any_eq_false] at h
  obtain ⟨_, hprepared, _, hvalid, _, hsame, rfl⟩ := h
  exact ⟨hprepared, hvalid, fun s hs => by simpa using hsame s hs, rfl⟩

lemma Keeps.call {c : Call} (h : sessions.call c = .ok later) : Keeps sessions later := by
  cases c with
  | prepare session now =>
    obtain ⟨hprepared, -, hsame, rfl⟩ := prepare_ok h
    refine .insert fun s hs => ?_
    rw [hsame s hs]
    exact ⟨hprepared.1, rfl⟩
  | commit =>
    simp only [FederationSessions.call, commitFederationSession, bind_eq_ok, okOr_eq_ok] at h
    obtain ⟨s, hs, _, -, h⟩ := h
    split at h
    · exact pure_eq_ok.mp h ▸ .refl sessions
    · simp only [bind_eq_ok, refuse_eq_ok, or_eq_false_iff, bne_eq_false_iff_eq, pure_eq_ok] at h
      obtain ⟨_, hopen, rfl⟩ := h
      exact .insert fun s' hs' => by cases hs.symm.trans hs'; exact ⟨hopen.1.1, rfl⟩
  | abort =>
    simp only [FederationSessions.call, abortFederationSession, bind_eq_ok, okOr_eq_ok] at h
    obtain ⟨s, hs, h⟩ := h
    split at h
    · exact pure_eq_ok.mp h ▸ .refl sessions
    · simp only [bind_eq_ok, refuse_eq_ok, or_eq_false_iff, bne_eq_false_iff_eq, pure_eq_ok] at h
      obtain ⟨_, hopen, rfl⟩ := h
      exact .insert fun s' hs' => by cases hs.symm.trans hs'; exact ⟨hopen.1, rfl⟩

lemma Keeps.run (h : Run sessions later) : Keeps sessions later := by
  refine h.invariant (P := Keeps sessions) (.refl sessions) fun s c ih _ => ?_
  unfold step
  cases hcall : s.call c with
  | error => exact ih
  | ok s' => exact ih.trans (.call hcall)

/-- Sessions keep their identity and their decision over every sequence of calls. A prepare that
was accepted and is repeated before its deadline is accepted again, and then changes nothing,
exactly when the session was not decided in between. -/
theorem prepare_retried_iff (hrun : Run sessions later) :
    Keeps sessions later ∧ ∀ before session now now',
      prepareFederationSession before session now = .ok sessions → now' < session.deadline →
        (later.prepareFederationSession session now' = .ok later ↔
          ∃ s, later.get? session.transactionId = some s ∧ s.state = .prepared) ∧
        ∀ last, later.prepareFederationSession session now' = .ok last → last = later := by
  have hkeeps := Keeps.run hrun
  refine ⟨hkeeps, fun before session now now' haccepted hlive => ?_⟩
  obtain ⟨⟨hprepared, htenant⟩, hvalid, -, rfl⟩ := prepare_ok haccepted
  obtain ⟨phase, hfound, -⟩ := hkeeps _ session (get?_insert_self _ _ _)
  have hvalid' : session.validateAt now' = .ok () := by
    simp only [FederationSession.validateAt, refuse_eq_ok, or_eq_false_iff] at hvalid ⊢
    exact ⟨hvalid.1, by simpa using hlive⟩
  have hsame : ∀ last, later.prepareFederationSession session now' = .ok last →
      last = later ∧ phase = .prepared := by
    intro last h
    obtain ⟨-, -, hsame, rfl⟩ := prepare_ok h
    have hstored := hsame _ hfound
    exact ⟨insert_eq_self (hstored ▸ hfound), hprepared ▸ congrArg FederationSession.state hstored⟩
  refine ⟨⟨fun h => ⟨_, hfound, (hsame later h).2⟩, ?_⟩, fun last h => (hsame last h).1⟩
  rintro ⟨s, hs, hphase⟩
  cases hfound.symm.trans hs
  -- the stored session differs from the repeated one in its phase only
  have hstored : later.get? session.transactionId = some session := by
    rw [hfound, show phase = session.state from hphase.trans hprepared.symm]
  simp [prepareFederationSession, hprepared, htenant, hvalid', hstored, insert_eq_self,
    Except.mapError]

end FederationSessions

namespace Crossing

def digest : String := "sha256:" ++ String.ofList (List.replicate 64 'a')

def session : FederationSession := ⟨"tx", "a", "b", "tenant", 1, digest, digest, 10, .prepared⟩

def calls : List FederationSessions.Call :=
  [.prepare { session with transactionId := "other" } 1, .abort "other" 1]

end Crossing

/-- The prepare that was accepted at 0 is refused at 2, after the commit at 1. -/
theorem prepare_retry_conflicts : ∃ prepared committed : FederationSessions,
    FederationSessions.prepareFederationSession ∅ Crossing.session 0 = .ok prepared ∧
    prepared.commitFederationSession "tx" 1 Crossing.digest Crossing.digest 1 = .ok committed ∧
    committed.prepareFederationSession Crossing.session 2 =
      .error (.invalidProposal "federation transaction identity conflicts") :=
  ⟨.ofList [("tx", Crossing.session)],
    .ofList [("tx", { Crossing.session with state := .committed })], by decide +kernel⟩

/-- The same prepare, repeated before the commit, after another session was prepared and
aborted. -/
theorem prepare_retry_accepted : ∃ prepared later : FederationSessions,
    FederationSessions.prepareFederationSession ∅ Crossing.session 0 = .ok prepared ∧
    later = Crossing.calls.foldl FederationSessions.step prepared ∧
    (later.get? "other").map (·.state) = some .aborted ∧
    later.prepareFederationSession Crossing.session 2 = .ok later := by
  have haccepted : FederationSessions.prepareFederationSession ∅ Crossing.session 0 =
      .ok (.ofList [("tx", Crossing.session)]) := by decide +kernel
  have hrun : FederationSessions.Run (.ofList [("tx", Crossing.session)])
      (Crossing.calls.foldl FederationSessions.step (.ofList [("tx", Crossing.session)])) :=
    Reaches.of_list Crossing.calls .refl (by decide +kernel)
  refine ⟨_, _, haccepted, rfl, by decide +kernel, ?_⟩
  exact ((FederationSessions.prepare_retried_iff hrun).2 _ _ 0 2 haccepted (by decide)).1.mpr
    ⟨Crossing.session, by decide +kernel, rfl⟩

end RoboGuide.Control
