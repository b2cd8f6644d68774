import RoboGuide.Proofs.RootDecision
import RoboGuide.Proofs.RootHistory

/-!
# `RoboGuide.Proofs.RootRecord`: what a restart computes again

`validate` computes the wire bodies, clock translations and budgets of a record again. What a
turn wrote is computed again from the same data, because nothing that a body or a translation is
made of is ever rewritten (`Extends`), with one exception: the clock translation of a probe is
made with the profile of the turn that reduces the reply, and is computed again with the profile
the probe was sent under. `DriftAgrees` says that these allow the same drift.

`RecordSound` is what `validate` asks of a record; `RecordSound.changes` and `RecordSound.result`
say that a turn and a result keep it.
-/

namespace RoboGuide.Federation

open Domain Lib Fallible Transaction OriginalBudget
open List hiding contains_insert

variable {id : String} {value : Json} {intent : Intent} {profile : Profile}

/-! ### What a record never rewrites -/

/-- The stop scope is anchored with the cleanup budget. -/
def Anchored (r : Transaction) : Prop :=
  ∀ o, r.stopObservation = some o → o.budget.isSome = r.cleanupBudget.isSome

/-- The later record keeps what bodies, translations and scopes are made of. -/
structure Extends (r r' : Transaction) : Prop where
  manifest : r'.manifest = r.manifest
  nonces : r'.nonces = r.nonces
  budget : r'.budget = r.budget
  rootEpoch : r'.rootEpoch = r.rootEpoch
  probes : ∀ d value, r.probes.get? d = some value → r'.probes.get? d = some value
  decision : ∀ decision, r.decision = some decision → r'.decision = some decision
  /-- A complete set of Commit receipts is final. -/
  commits : (∀ p, r.manifest.participants.contains p = true → r.commits.contains p = true) →
    r'.commits = r.commits
  halted : r.stopping.isSome = true → r'.stopping.isSome = true
  scope : ∀ scope, r.stopScope = some scope → r'.stopScope = some scope

lemma Extends.refl (r : Transaction) : Extends r r :=
  ⟨rfl, rfl, rfl, rfl, fun _ _ h => h, fun _ h => h, fun _ => rfl, fun h => h, fun _ h => h⟩

section

variable {codec : Codec} {t : Turn} {r r' : Transaction} {phase : Phase}

lemma Extends.receipt {domain : String}
    (hparticipant : r.manifest.participants.contains domain = true)
    (h : Received codec profile r domain intent value phase r') : Extends r r' := by
  cases h with
  | probedBefore => exact .refl r
  | probed new =>
    refine { Extends.refl r with probes := fun d v hget => ?_ }
    have hne : d ≠ domain := by
      rintro rfl
      rw [contains_eq_true_iff.mpr ⟨v, hget⟩] at new
      cases new
    exact (get?_insert_of_ne hne).trans hget
  | committed =>
    exact { Extends.refl r with commits := fun hall => if_pos (hall domain hparticipant) }
  | prepared | released | stopped | completed => exact { Extends.refl r with }

lemma Extends.setIntent (domain : String) (phase : Phase) (intent : Intent) :
    Extends r (r.setIntent domain phase intent) := { Extends.refl r with }

lemma Extends.change (hanchored : Anchored r) (h : Change codec t r r') : Extends r r' := by
  cases h with
  | halted => exact { Extends.refl r with halted := fun _ => rfl }
  | received participant found receipt identity retained => exact .receipt participant retained
  | decided open_ =>
    refine { Extends.refl r with decision := fun decision hsome => ?_ }
    rw [open_] at hsome
    cases hsome
  | cleaning halted first budget anchored =>
    refine { Extends.refl r with scope := fun scope hscope => ?_ }
    -- a scope that is anchored already comes with a cleanup budget
    obtain ⟨o, ho, hbudget⟩ := Option.bind_eq_some_iff.mp hscope
    have hsame := hanchored o ho
    rw [first, hbudget] at hsame
    cases hsame
  | neverAsked => exact { Extends.refl r with }
  | sent | asked => exact .setIntent _ _ _

lemma Extends.wireBody (h : Extends r r') (hdecided : Decided codec r) {d : String}
    (hentered : r.entered d phase = true) {wire : Option Command}
    (hwire : r.wireBody d phase = .ok wire) : r'.wireBody d phase = .ok wire := by
  unfold Transaction.wireBody at hwire ⊢
  split
  · next hreads => rwa [if_pos hreads] at hwire
  · next hreads =>
    rw [if_neg hreads, map_eq_ok] at hwire
    obtain ⟨command, hbody, rfl⟩ := hwire
    refine map_eq_ok.mpr ⟨command, ?_, rfl⟩
    simp only [body, bind_eq_ok, okOr_eq_ok, pure_eq_ok] at hbody ⊢
    obtain ⟨nonce, hnonce, epoch, hepoch, rfl⟩ := hbody
    refine ⟨nonce, by rw [h.nonces]; exact hnonce, epoch, ?_, ?_⟩
    · unfold bodyEpoch at hepoch ⊢
      split
      · next hprobe => rwa [if_pos hprobe] at hepoch
      · next hprobe =>
        rw [if_neg hprobe, map_eq_ok] at hepoch
        obtain ⟨text, htext, rfl⟩ := hepoch
        rw [okOr_eq_ok] at htext
        obtain ⟨value, hvalue, hstr⟩ := Option.bind_eq_some_iff.mp htext
        rw [h.probes d value hvalue]
        exact map_eq_ok.mpr ⟨text, okOr_eq_ok.mpr hstr, rfl⟩
    · have hdecision : (phase == .commit || phase == .release) = true →
          r'.decision = r.decision := by
        intro hphase
        have hsome : r.decision.isSome = true := by
          rcases Bool.or_eq_true_iff.mp hphase with hc | hr
          · rw [beq_iff_eq.mp hc] at hentered
            exact hdecided.commits d hentered
          · rw [beq_iff_eq.mp hr] at hentered
            exact (hdecided.releases d hentered).1
        obtain ⟨decision, hdec⟩ := Option.isSome_iff_exists.mp hsome
        rw [hdec]
        exact h.decision decision hdec
      have hcommits : (phase == .release) = true → r'.commits = r.commits := by
        intro hphase
        rw [beq_iff_eq.mp hphase] at hentered
        exact h.commits (hdecided.releases d hentered).2
      rw [h.manifest]
      congr 1
      · split
        · next hphase => exact (hdecision hphase).trans rfl
        · rfl
      · split
        · next hphase => rw [hcommits hphase]
        · rfl

end

/-! ### Sound records -/

def OriginalBudget.Admitted (b : OriginalBudget) : Prop :=
  0 < b.durationMs ∧ b.durationMs ≤ 3600000

/-- What `validate` asks of an intent. -/
structure IntentSound (codec : Codec) (profiles : OrdMap Nat Profile) (r : Transaction)
    (d : String) (phase : Phase) (intent : Intent) : Prop where
  budget : intent.budget.Admitted
  room : intent.observations.length ≤ 16
  profile : ∃ p, profiles.get? intent.profileRevision = some p ∧
    intent.budget.durationMs ≤ p.requestBudgetMs
  wire : ∃ wire, r.wireBody d phase = .ok wire ∧
    intent.requestDigest = codec.digest (optionJson Command.toJson wire)
  observed : ∀ o ∈ intent.observations, o.budget.Admitted ∧
    ∃ revision p, profiles.get? revision = some p ∧ o.budget.durationMs ≤ p.requestBudgetMs
  within : phase = .observeStop → r.stopping.isSome = true ∧ ∃ scope, r.stopScope = some scope ∧
    intent.budget.isWithin scope = true ∧ ∀ o ∈ intent.observations, o.budget.isWithin scope = true

/-- What `validate` asks of a clock translation. -/
def ClockSound (profiles : OrdMap Nat Profile) (r : Transaction) (d : String)
    (proof : ClockProof) : Prop :=
  ∃ intent value p received kernel, r.intent d .probe = some intent ∧
    r.probes.get? d = some value ∧ profiles.get? intent.profileRevision = some p ∧
    intent.reply.isSome = true ∧ intent.receivedAtMs = some received ∧
    intent.receivedKernel = some kernel ∧
    clockProof r.manifest p intent value received (r.budget.remaining kernel) = .ok proof

/-- What `validate` asks of a stop scope. -/
structure StopSound (profiles : OrdMap Nat Profile) (r : Transaction) (o : StopObservation) :
    Prop where
  profile : ∃ p, profiles.get? o.profileRevision = some p ∧ p.schemaVersion = .v03 ∧
    p.stopObservationBudgetMs = some o.durationMs
  duration : 0 < o.durationMs ∧ o.durationMs ≤ 3600000
  anchored : o.budget.isSome = r.cleanupBudget.isSome
  budget : ∀ b, o.budget = some b → b.durationMs = o.durationMs ∧ r.stopping.isSome = true ∧
    ∃ cleanup, r.cleanupBudget = some cleanup ∧ b.issued = cleanup.issued

/-- What `validate` asks of a record. -/
structure RecordSound (codec : Codec) (profiles : OrdMap Nat Profile) (id : String)
    (r : Transaction) : Prop where
  decided : Decided codec r
  manifest : r.manifest.validate codec = .ok ()
  identity : r.manifest.transactionId = id
  epoch : r.rootEpoch.isEmpty = false
  budget : r.budget.durationMs = r.manifest.budgetMs ∧ r.budget.Admitted
  nonces : r.nonces.keys = r.manifest.participants.keys
  released : ∀ d, r.released.contains d = true → r.commits.contains d = true
  stop : ∀ o, r.stopObservation = some o → StopSound profiles r o
  clocks : ∀ d proof, r.clocks.get? d = some proof → ClockSound profiles r d proof
  domains : ∀ d phases, r.intents.get? d = some phases →
    r.manifest.participants.contains d = true
  intents : ∀ d phase intent, r.intent d phase = some intent →
    IntentSound codec profiles r d phase intent

section

variable {codec : Codec} {profiles profiles' : OrdMap Nat Profile} {t : Turn} {r r' : Transaction}
  {d : String} {phase : Phase} {o : StopObservation} {i : Result}

lemma RecordSound.isAnchored (h : RecordSound codec profiles id r) : Anchored r :=
  fun o ho => (h.stop o ho).anchored

lemma IntentSound.extends (h : IntentSound codec profiles r d phase intent)
    (hext : Extends r r') (hdecided : Decided codec r) (hentered : r.entered d phase = true) :
    IntentSound codec profiles r' d phase intent := by
  obtain ⟨wire, hwire, hdigest⟩ := h.wire
  refine ⟨h.budget, h.room, h.profile, ⟨wire, hext.wireBody hdecided hentered hwire, hdigest⟩,
    h.observed, fun hphase => ?_⟩
  obtain ⟨hstop, scope, hscope, hwithin⟩ := h.within hphase
  exact ⟨hext.halted hstop, scope, hext.scope scope hscope, hwithin⟩

lemma IntentSound.grows (h : IntentSound codec profiles r d phase intent)
    (hgrows : Grows profiles profiles') : IntentSound codec profiles' r d phase intent := by
  obtain ⟨p, hp, hle⟩ := h.profile
  refine ⟨h.budget, h.room, ⟨p, hgrows _ p hp, hle⟩, h.wire, fun o ho => ?_, h.within⟩
  obtain ⟨hbudget, revision, q, hq, hqle⟩ := h.observed o ho
  exact ⟨hbudget, revision, q, hgrows _ q hq, hqle⟩

lemma RecordSound.grows (h : RecordSound codec profiles id r)
    (hgrows : Grows profiles profiles') : RecordSound codec profiles' id r where
  decided := h.decided
  manifest := h.manifest
  identity := h.identity
  epoch := h.epoch
  budget := h.budget
  nonces := h.nonces
  released := h.released
  stop o ho := by
    obtain ⟨⟨p, hp, hrest⟩, hduration, hanchored, hbudget⟩ := h.stop o ho
    exact ⟨⟨p, hgrows _ p hp, hrest⟩, hduration, hanchored, hbudget⟩
  clocks d proof hproof := by
    obtain ⟨intent, value, p, received, kernel, hintent, hvalue, hp, hrest⟩ :=
        h.clocks d proof hproof
    exact ⟨intent, value, p, received, kernel, hintent, hvalue, hgrows _ p hp, hrest⟩
  domains := h.domains
  intents := fun d phase intent hintent => (h.intents d phase intent hintent).grows hgrows

/-! ### The drift of a profile -/

lemma clockProof_congr {m : Manifest} {p q : Profile} {intent' : Intent}
    {received remaining : Nat}
    (hdrift : clockDrift m.budgetMs p.maxDriftPpm = clockDrift m.budgetMs q.maxDriftPpm)
    (hsent : intent'.sentAtMs = intent.sentAtMs) :
    clockProof m p intent value received remaining =
      clockProof m q intent' value received remaining := by
  unfold clockProof
  rw [hdrift, hsent]

/-- The receipt is one that the turn translates under the profile. -/
structure Translates (codec : Codec) (profile : Profile) (r : Transaction) (d : String)
    (intent : Intent) (value : Json) (received : Nat) (kernel : KernelTime) : Prop where
  identity : r.namesReceipt codec d value = true
  nonce : some (value.field "nonce") = (r.nonces.get? d).map .string
  answered : intent.reply.any Reply.succeeded = true
  accepted : (clockProof r.manifest profile intent value received
    (r.budget.remaining kernel)).isOk = true

instance (codec : Codec) (profile : Profile) (r : Transaction) (d : String) (intent : Intent)
    (value : Json) (received : Nat) (kernel : KernelTime) :
    Decidable (Translates codec profile r d intent value received kernel) :=
  decidable_of_iff (r.namesReceipt codec d value = true ∧
      some (value.field "nonce") = (r.nonces.get? d).map .string ∧
      intent.reply.any Reply.succeeded = true ∧ (clockProof r.manifest profile intent value received
        (r.budget.remaining kernel)).isOk = true)
    ⟨fun h => ⟨h.1, h.2.1, h.2.2.1, h.2.2.2⟩,
      fun h => ⟨h.identity, h.nonce, h.answered, h.accepted⟩⟩

/-- The receipts that a turn translates were asked for under the same drift. -/
def DriftAgrees (codec : Codec) (profiles : OrdMap Nat Profile) (profile : Profile)
    (r : Transaction) : Prop :=
  ∀ d ∈ r.manifest.participants.keys, r.probes.contains d = false →
    ∀ intent ∈ r.intent d .probe, ∀ value ∈ effect intent .probe,
    ∀ received ∈ intent.receivedAtMs, ∀ kernel ∈ intent.receivedKernel,
      Translates codec profile r d intent value received kernel →
      ∀ p ∈ profiles.get? intent.profileRevision,
        clockDrift r.manifest.budgetMs profile.maxDriftPpm =
          clockDrift r.manifest.budgetMs p.maxDriftPpm

instance (codec : Codec) (profiles : OrdMap Nat Profile) (profile : Profile) (r : Transaction) :
    Decidable (DriftAgrees codec profiles profile r) := by
  unfold DriftAgrees
  infer_instance

lemma DriftAgrees.change (h : DriftAgrees codec profiles t.profile r) (hext : Extends r r')
    (hchange : Change codec t r r') : DriftAgrees codec profiles t.profile r' := by
  -- a probe intent with a receipt is one that was there before
  have hintents : ∀ d intent value, r'.intent d .probe = some intent →
      effect intent .probe = some value →
      ∃ old, r.intent d .probe = some old ∧ effect old .probe = some value ∧
        ∃ observations, intent = { old with observations } := by
    intro d intent value hintent heffect
    cases hchange with
    | halted | decided | cleaning | neverAsked => exact ⟨intent, hintent, heffect, _, rfl⟩
    | received participant found receipt identity retained =>
      unfold Transaction.intent at hintent ⊢
      rw [retained.frame.2] at hintent
      exact ⟨intent, hintent, heffect, _, rfl⟩
    | sent =>
      rw [intent_setIntent] at hintent
      split at hintent
      · cases hintent
        cases heffect
      · exact ⟨intent, hintent, heffect, _, rfl⟩
    | asked next found =>
      rw [intent_setIntent] at hintent
      split at hintent
      · next hsame =>
        cases hintent
        obtain ⟨rfl, rfl⟩ := hsame
        exact ⟨_, found, by simpa [effect] using heffect, _, rfl⟩
      · exact ⟨intent, hintent, heffect, _, rfl⟩
  intro d hd hprobe intent hintent value heffect received hreceived kernel hkernel htranslates p hp
  obtain ⟨old, hold, heffect', _, rfl⟩ := hintents d intent value hintent heffect
  rw [hext.manifest] at hd ⊢
  have hfree : r.probes.contains d = false := by
    by_contra hknown
    obtain ⟨v, hv⟩ := contains_eq_true_iff.mp (by simpa using hknown)
    rw [contains_eq_true_iff.mpr ⟨v, hext.probes d v hv⟩] at hprobe
    cases hprobe
  refine h d hd hfree old hold value heffect' received hreceived kernel hkernel ?_ p hp
  obtain ⟨hidentity, hnonce, hanswered, haccepted⟩ := htranslates
  unfold namesReceipt at hidentity
  rw [hext.manifest] at hidentity haccepted
  rw [hext.nonces] at hnonce
  rw [hext.budget] at haccepted
  exact ⟨hidentity, hnonce, hanswered, haccepted⟩

/-! ### One change -/

lemma ClockSound.extends {proof : ClockProof} (h : ClockSound profiles r d proof)
    (hext : Extends r r')
    (hintent : ∀ intent, r.intent d .probe = some intent → intent.reply.isSome = true →
      ∃ intent', r'.intent d .probe = some intent' ∧ intent'.sentAtMs = intent.sentAtMs ∧
        intent'.profileRevision = intent.profileRevision ∧ intent'.reply = intent.reply ∧
        intent'.receivedAtMs = intent.receivedAtMs ∧
        intent'.receivedKernel = intent.receivedKernel) : ClockSound profiles r' d proof := by
  obtain ⟨intent, value, p, received, kernel, hold, hvalue, hp, hreply, hreceived,
      hkernel, hproof⟩ :=
    h
  obtain ⟨intent', hnew, hsent, hrevision, hreply', hreceived', hkernel'⟩ :=
      hintent intent hold hreply
  refine ⟨intent', value, p, received, kernel, hnew, hext.probes d value hvalue, hrevision ▸ hp,
    hreply' ▸ hreply, hreceived'.trans hreceived, hkernel'.trans hkernel, ?_⟩
  rw [hext.manifest, hext.budget, ← hproof]
  exact clockProof_congr rfl hsent.symm

lemma StopSound.keep (h : StopSound profiles r o) (hcleanup : r'.cleanupBudget = r.cleanupBudget)
    (hhalted : r.stopping.isSome = true → r'.stopping.isSome = true) : StopSound profiles r' o := by
  refine ⟨h.profile, h.duration, hcleanup ▸ h.anchored, fun b hb => ?_⟩
  obtain ⟨hduration, hstop, cleanup, hsome, hstart⟩ := h.budget b hb
  exact ⟨hduration, hhalted hstop, cleanup, hcleanup.trans hsome, hstart⟩

section

variable (h : RecordSound codec profiles id r)
include h

lemma RecordSound.frame (hext : Extends r r')
    (hdecided : Decided codec r') (hintents : r'.intents = r.intents)
    (hreleased : ∀ d, r'.released.contains d = true → r'.commits.contains d = true)
    (hstop : ∀ o, r'.stopObservation = some o → StopSound profiles r' o)
    (hclocks : ∀ d proof, r'.clocks.get? d = some proof →
      r.clocks.get? d = some proof ∨ ClockSound profiles r' d proof) :
    RecordSound codec profiles id r' where
  decided := hdecided
  manifest := hext.manifest ▸ h.manifest
  identity := hext.manifest ▸ h.identity
  epoch := hext.rootEpoch ▸ h.epoch
  budget := by
    rw [hext.budget, hext.manifest]
    exact h.budget
  nonces := by
    rw [hext.nonces, hext.manifest]
    exact h.nonces
  released := hreleased
  stop := hstop
  clocks d proof hproof := by
    rcases hclocks d proof hproof with hold | hnew
    · refine (h.clocks d proof hold).extends hext fun intent hintent _ =>
          ⟨intent, ?_, rfl, rfl, rfl,
        rfl, rfl⟩
      unfold Transaction.intent at hintent ⊢
      rw [hintents]
      exact hintent
    · exact hnew
  domains := by
    rw [hintents, hext.manifest]
    exact h.domains
  intents d phase intent hintent := by
    have hold : r.intent d phase = some intent := by
      unfold Transaction.intent at hintent ⊢
      rw [← hintents]
      exact hintent
    refine (h.intents d phase intent hold).extends hext h.decided ?_
    rw [entered, hold]
    rfl

variable (hparticipant : r.manifest.participants.contains d = true)
include hparticipant

lemma RecordSound.receivedClocks
    (hdrift : DriftAgrees codec profiles t.profile r) (hfound : r.intent d phase = some intent)
    (hreceipt : effect intent phase = some value)
    (hidentity : phase.hasReceipt = true → r.namesReceipt codec d value = true)
    (hreceived : Received codec t.profile r d intent value phase r') :
    ∀ d' proof, r'.clocks.get? d' = some proof →
      r.clocks.get? d' = some proof ∨ ClockSound profiles r' d' proof := by
  intro d' proof' hget
  cases hreceived with
  | @probed received kernel proof new nonce answered received_eq kernel_eq proof_ok =>
    rcases get?_firstInsert hget with hold | ⟨rfl, rfl⟩
    · exact .inl hold
    obtain ⟨p, hp, -⟩ := (h.intents d' .probe intent hfound).profile
    have hkey : d' ∈ r.manifest.participants.keys :=
      (OrdMap.mem_keys_iff_contains _ _).mpr hparticipant
    have htranslates : Translates codec t.profile r d' intent value received kernel :=
      ⟨hidentity rfl, nonce, answered, by rw [proof_ok]; rfl⟩
    have hagree := hdrift d' hkey new intent hfound value hreceipt received received_eq kernel
      kernel_eq htranslates p hp
    have hsome : intent.reply.isSome = true := by
      cases hr : intent.reply with
      | none =>
        rw [hr] at answered
        cases answered
      | some => rfl
    refine .inr ⟨intent, value, p, received, kernel, hfound, get?_insert_self _ _ _, hp,
      hsome, received_eq, kernel_eq, ?_⟩
    rw [← proof_ok]
    exact clockProof_congr hagree.symm rfl
  | probedBefore | prepared | committed | released | stopped | completed => exact .inl hget

lemma RecordSound.receivedReleased (hfound : r.intent d phase = some intent)
    (hreceived : Received codec profile r d intent value phase r') :
    ∀ d', r'.released.contains d' = true → r'.commits.contains d' = true := by
  intro d' hd'
  cases hreceived with
  | released =>
    have hentered : r.entered d .release = true := by
      rw [entered, hfound]
      rfl
    rw [contains_insert, Bool.or_eq_true, decide_eq_true_eq] at hd'
    rcases hd' with rfl | hold
    · exact (h.decided.releases d' hentered).2 d' hparticipant
    · exact h.released d' hold
  | committed =>
    rw [contains_firstInsert, h.released d' hd']
    rfl
  | probedBefore | probed | prepared | stopped | completed => exact h.released d' hd'

lemma RecordSound.received
    (hdrift : DriftAgrees codec profiles t.profile r) (hfound : r.intent d phase = some intent)
    (hreceipt : effect intent phase = some value)
    (hidentity : phase.hasReceipt = true → r.namesReceipt codec d value = true)
    (hreceived : Received codec t.profile r d intent value phase r') :
    RecordSound codec profiles id r' := by
  have hstop : r'.stopObservation = r.stopObservation ∧ r'.cleanupBudget = r.cleanupBudget ∧
      r'.stopping = r.stopping := by
    cases hreceived <;> exact ⟨rfl, rfl, rfl⟩
  refine h.frame (.receipt hparticipant hreceived) (h.decided.received hparticipant hreceived).1
    hreceived.frame.2 (h.receivedReleased hparticipant hfound hreceived) (fun o ho => ?_)
    (h.receivedClocks hparticipant hdrift hfound hreceipt hidentity hreceived)
  rw [hstop.1] at ho
  exact (h.stop o ho).keep hstop.2.1 (by rw [hstop.2.2]; exact fun hs => hs)

end

/-! ### Requests -/

lemma observeStop_guard {kernel : KernelTime} (h : r.boundedPhase d kernel = some .observeStop) :
    r.stopping.isSome = true ∧ ∃ scope, r.stopScope = some scope ∧
      r.phaseRemaining .observeStop kernel = scope.remaining kernel := by
  unfold boundedPhase at h
  split at h
  · next hguard =>
    obtain ⟨scope, hfiltered, -⟩ := Option.map_eq_some_iff.mp h
    obtain ⟨hscope, -⟩ := Option.filter_eq_some_iff.mp hfiltered
    simp only [Bool.and_eq_true] at hguard
    refine ⟨hguard.1.1, scope, hscope, ?_⟩
    rw [phaseRemaining, if_pos rfl, hscope]
    rfl
  · -- no other phase asks for it
    exfalso
    cases hstop : r.stopping.isSome with
    | true => simpa using phase_of_halted hstop h
    | false => simpa using phase_of_live hstop h

lemma RecordSound.request (h : RecordSound codec profiles id r)
    {budget : OriginalBudget} (hnext : r.boundedPhase t.domain t.kernel = some phase)
    (hbudget : new t.kernel
      (min (r.phaseRemaining phase t.kernel) t.profile.requestBudgetMs) = .ok budget) :
    budget.Admitted ∧ budget.durationMs ≤ t.profile.requestBudgetMs ∧
      (phase = .observeStop → r.stopping.isSome = true ∧ ∃ scope, r.stopScope = some scope ∧
        budget.isWithin scope = true) := by
  obtain ⟨rfl, hpos, hle⟩ := new_eq_ok hbudget
  refine ⟨⟨hpos, hle⟩, Nat.min_le_right _ _, ?_⟩
  rintro rfl
  obtain ⟨hstop, scope, hscope, hremaining⟩ := observeStop_guard hnext
  refine ⟨hstop, scope, hscope, ?_⟩
  obtain ⟨o, ho, hanchored⟩ := Option.bind_eq_some_iff.mp hscope
  have hduration : scope.durationMs ≤ 3600000 := by
    rw [((h.stop o ho).budget scope hanchored).1]
    exact (h.stop o ho).duration.2
  rw [hremaining] at hpos ⊢
  exact isWithin_of_remaining hduration hpos (Nat.min_le_left _ _)

lemma RecordSound.setIntent (h : RecordSound codec profiles id r)
    (hdecided : Decided codec (r.setIntent d phase intent))
    (hparticipant : r.manifest.participants.contains d = true)
    (hsound : IntentSound codec profiles r d phase intent)
    (hkept : ∀ old, r.intent d phase = some old → old.reply.isSome = true →
      intent.sentAtMs = old.sentAtMs ∧ intent.profileRevision = old.profileRevision ∧
        intent.reply = old.reply ∧ intent.receivedAtMs = old.receivedAtMs ∧
        intent.receivedKernel = old.receivedKernel) :
    RecordSound codec profiles id (r.setIntent d phase intent) where
  decided := hdecided
  manifest := h.manifest
  identity := h.identity
  epoch := h.epoch
  budget := h.budget
  nonces := h.nonces
  released := h.released
  stop := fun o ho => (h.stop o ho).keep rfl fun hs => hs
  clocks d' proof hproof := by
    refine (h.clocks d' proof hproof).extends (.setIntent d phase intent) fun old hold hreply => ?_
    rw [intent_setIntent]
    split
    · next hsame =>
      obtain ⟨rfl, rfl⟩ := hsame
      exact ⟨intent, rfl, hkept old hold hreply⟩
    · exact ⟨old, hold, rfl, rfl, rfl, rfl, rfl⟩
  domains d' phases hphases := by
    by_cases hsame : d' = d
    · rw [hsame]
      exact hparticipant
    · refine h.domains d' phases ?_
      rw [← hphases]
      exact (get?_insert_of_ne hsame).symm
  intents d' phase' intent' hintent' := by
    rw [intent_setIntent] at hintent'
    split at hintent'
    · next hsame =>
      obtain ⟨rfl, rfl⟩ := hsame
      cases hintent'
      exact { hsound with }
    · refine (h.intents d' phase' intent' hintent').extends (.setIntent d phase intent) h.decided ?_
      rw [entered, hintent']
      rfl

/-! ### Changes and results -/

lemma StopSound.cleaning {o' : StopObservation} {cleanup : OriginalBudget}
    {stopObservation : Option StopObservation} (h : StopSound profiles r o)
    (ho : r.stopObservation = some o) (hhalted : r.stopping.isSome = true)
    (hbudget : new t.kernel 30000 = .ok cleanup)
    (hanchored : anchorStop t.kernel r.stopObservation = .ok stopObservation)
    (ho' : stopObservation = some o') :
    StopSound profiles { r with cleanupBudget := some cleanup, stopObservation } o' := by
  rw [ho] at hanchored
  simp only [anchorStop, bind_eq_ok, pure_eq_ok] at hanchored
  obtain ⟨_, hnew, rfl⟩ := hanchored
  cases ho'
  obtain ⟨rfl, -⟩ := new_eq_ok hnew
  obtain ⟨rfl, -⟩ := new_eq_ok hbudget
  refine ⟨h.profile, h.duration, rfl, fun b hb => ?_⟩
  cases hb
  exact ⟨rfl, hhalted, _, rfl, rfl⟩

lemma RecordSound.change (h : RecordSound codec profiles id r)
    (hinstalled : profiles.get? t.profile.revision = some t.profile)
    (hdrift : DriftAgrees codec profiles t.profile r) (hchange : Change codec t r r') :
    RecordSound codec profiles id r' := by
  have hext := Extends.change h.isAnchored hchange
  have hdecided := (h.decided.change hchange).1
  cases hchange with
  | halted =>
    exact h.frame hext hdecided rfl h.released
      (fun o ho => (h.stop o ho).keep rfl fun _ => rfl) fun _ _ hproof => .inl hproof
  | received participant found receipt identity retained =>
    exact h.received participant hdrift found receipt identity retained
  | decided | neverAsked =>
    exact h.frame hext hdecided rfl h.released
      (fun o ho => (h.stop o ho).keep rfl fun hs => hs) fun _ _ hproof => .inl hproof
  | cleaning halted first budget anchored =>
    refine h.frame hext hdecided rfl h.released (fun o' ho' => ?_) fun _ _ hproof => .inl hproof
    cases ho : r.stopObservation with
    | none =>
      rw [ho] at anchored
      rw [← pure_eq_ok.mp anchored] at ho'
      cases ho'
    | some o => exact (h.stop o ho).cleaning ho halted budget anchored ho'
  | sent participant next first encoded timeout_eq budget_ok =>
    rw [timeout_eq] at budget_ok
    obtain ⟨hadmitted, hle, hwithin⟩ := h.request next budget_ok
    refine h.setIntent hdecided participant ⟨hadmitted, Nat.zero_le _, ⟨_, hinstalled, hle⟩,
      ⟨_, encoded, rfl⟩, fun o ho => ?_, fun hphase => ?_⟩ fun old hold _ => ?_
    · cases ho
    · obtain ⟨hstop, scope, hscope, hin⟩ := hwithin hphase
      refine ⟨hstop, scope, hscope, hin, fun o ho => ?_⟩
      cases ho
    · rw [first] at hold
      cases hold
  | @asked phase intent timeout budget next found room timeout_eq budget_ok =>
    rw [timeout_eq] at budget_ok
    obtain ⟨hadmitted, hle, hwithin⟩ := h.request next budget_ok
    have hold := h.intents t.domain phase intent found
    have hparticipant : r.manifest.participants.contains t.domain = true := by
      obtain ⟨phases, hphases, -⟩ := Option.bind_eq_some_iff.mp found
      exact h.domains t.domain phases hphases
    refine h.setIntent hdecided hparticipant ⟨hold.budget, ?_, hold.profile, hold.wire,
      fun o ho => ?_, fun hphase => ?_⟩ fun old hsame _ => ?_
    · rw [length_append]
      exact room
    · rcases List.mem_append.mp ho with hmem | hnew
      · exact hold.observed o hmem
      · obtain rfl := List.mem_singleton.mp hnew
        exact ⟨hadmitted, _, _, hinstalled, hle⟩
    · obtain ⟨hstop, scope, hscope, hin, hall⟩ := hold.within hphase
      obtain ⟨-, _, hscope', hnewIn⟩ := hwithin hphase
      cases hscope.symm.trans hscope'
      refine ⟨hstop, scope, hscope, hin, fun o ho => ?_⟩
      rcases List.mem_append.mp ho with hmem | hnew
      · exact hall o hmem
      · obtain rfl := List.mem_singleton.mp hnew
        exact hnewIn
    · cases found.symm.trans hsame
      exact ⟨rfl, rfl, rfl, rfl, rfl⟩

lemma RecordSound.changes (h : RecordSound codec profiles id r)
    (hinstalled : profiles.get? t.profile.revision = some t.profile)
    (hdrift : DriftAgrees codec profiles t.profile r) (hchanges : Changes codec t r r') :
    RecordSound codec profiles id r' ∧ DriftAgrees codec profiles t.profile r' := by
  induction hchanges with
  | refl => exact ⟨h, hdrift⟩
  | tail _ hlast ih =>
    obtain ⟨hmiddle, hagrees⟩ := ih
    have hext := Extends.change hmiddle.isAnchored hlast
    exact ⟨hmiddle.change hinstalled hagrees hlast, hagrees.change hext hlast⟩

lemma withResult_frame {old : Intent} (h : old.withResult i = .ok intent) :
    intent.requestDigest = old.requestDigest ∧ intent.sentAtMs = old.sentAtMs ∧
      intent.budget = old.budget ∧ intent.profileRevision = old.profileRevision ∧
      intent.observations.map (·.budget) = old.observations.map (·.budget) ∧
      (old.reply.isSome = true → intent.reply = old.reply ∧
        intent.receivedAtMs = old.receivedAtMs ∧ intent.receivedKernel = old.receivedKernel) := by
  unfold Intent.withResult at h
  split at h
  · -- the request itself is only answered once
    simp only [Intent.retain, bind_eq_ok, refuse_eq_ok, Bool.or_eq_false_iff] at h
    obtain ⟨_, ⟨hfree, -⟩, h⟩ := h
    split at h <;> obtain rfl := pure_eq_ok.mp h <;>
      exact ⟨rfl, rfl, rfl, rfl, rfl, fun hsome => by rw [hfree] at hsome; cases hsome⟩
  · next index _ =>
    simp only [bind_eq_ok, okOr_eq_ok, pure_eq_ok] at h
    obtain ⟨o, ho, o', hretain, rfl⟩ := h
    have hbudget : o'.budget = o.budget := by
      simp only [Observation.retain, bind_eq_ok] at hretain
      obtain ⟨_, -, hretain⟩ := hretain
      split at hretain <;> obtain rfl := pure_eq_ok.mp hretain <;> rfl
    refine ⟨rfl, rfl, rfl, rfl, ?_, fun _ => ⟨rfl, rfl, rfl⟩⟩
    dsimp only
    rw [map_set, hbudget]
    refine ext_getElem? fun n => ?_
    rw [getElem?_set]
    split
    · next hn =>
      subst hn
      rw [getElem?_map, ho, if_pos (by
        rw [length_map]
        exact (List.getElem?_eq_some_iff.mp ho).1)]
      rfl
    · rfl

lemma RecordSound.result (h : RecordSound codec profiles id r)
    (hresult : retainResult r i = .ok r') : RecordSound codec profiles id r' := by
  obtain ⟨old, intent, hold, hwith, rfl⟩ := retainResult_setIntent hresult
  obtain ⟨hdigest, hsent, hbudget, hrevision, hbudgets, hreply⟩ := withResult_frame hwith
  have hsound := h.intents i.domain i.phase old hold
  have hparticipant : r.manifest.participants.contains i.domain = true := by
    obtain ⟨phases, hphases, -⟩ := Option.bind_eq_some_iff.mp hold
    exact h.domains i.domain phases hphases
  -- the budgets of the observations are those that were there
  have hobservation : ∀ o ∈ intent.observations, ∃ o' ∈ old.observations, o'.budget = o.budget := by
    intro o ho
    have hmem : o.budget ∈ old.observations.map (·.budget) := by
      rw [← hbudgets]
      exact mem_map_of_mem ho
    exact List.mem_map.mp hmem
  have hlength : intent.observations.length = old.observations.length := by
    simpa using congrArg length hbudgets
  refine h.setIntent (h.decided.setIntent hold intent).1 hparticipant ⟨hbudget ▸ hsound.budget,
    hlength ▸ hsound.room, by rw [hrevision, hbudget]; exact hsound.profile,
    by rw [hdigest]; exact hsound.wire, fun o ho => ?_, fun hphase => ?_⟩ fun old' hold' hsome => ?_
  · obtain ⟨o', ho', hsame⟩ := hobservation o ho
    rw [← hsame]
    exact hsound.observed o' ho'
  · obtain ⟨hstop, scope, hscope, hin, hall⟩ := hsound.within hphase
    refine ⟨hstop, scope, hscope, hbudget ▸ hin, fun o ho => ?_⟩
    obtain ⟨o', ho', hsame⟩ := hobservation o ho
    rw [← hsame]
    exact hall o' ho'
  · cases hold.symm.trans hold'
    exact ⟨hsent, hrevision, hreply hsome⟩

end

end RoboGuide.Federation
