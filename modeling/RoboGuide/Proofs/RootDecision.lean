import RoboGuide.Federation.Changes

/-!
# `RoboGuide.Proofs.RootDecision`: abort and Commit exclude each other at the root

The phase of a participant is recomputed from the record in every turn, while replies,
observations and stop causes keep changing the record. `Decided` is the invariant behind it:
an abort is only sent by a halted record without a decision, a Commit only under the decision,
a release only when every Commit receipt is there; and no change revives a halted record or
touches a decision. `root_decision_safe` states the consequences for every transaction of
every run.
-/

namespace RoboGuide.Federation

open Domain Lib Fallible Transaction Option OrdMap

variable {domain : String} {phase : Phase} {r : Transaction} {value : Json}

/-- The record sent this phase to the participant. -/
def Transaction.entered (r : Transaction) (domain : String) (phase : Phase) : Bool :=
  (r.intent domain phase).isSome

/-! ### The invariant -/

/-- What a record may have entered, by its decision. -/
structure Decided (codec : Codec) (r : Transaction) : Prop where
  preparedKnown : ∀ d, r.prepared.contains d = true → r.manifest.participants.contains d = true
  commitsKnown : ∀ d, r.commits.contains d = true → r.manifest.participants.contains d = true
  /-- The decision seals the prepared receipts, of all participants. -/
  seals : ∀ decision, r.decision = some decision →
    decision = .seal codec r.manifest r.prepared ∧
      ∀ d, r.manifest.participants.contains d = true → r.prepared.contains d = true
  carries : ∀ d value, r.commits.get? d = some value →
    ∃ decision, r.decision = some decision ∧
      value.field "decision_digest" = .string decision.digest
  aborts : ∀ d, r.entered d .abort = true → r.stopping.isSome = true ∧ r.decision = none
  commits : ∀ d, r.entered d .commit = true → r.decision.isSome = true
  releases : ∀ d, r.entered d .release = true → r.decision.isSome = true ∧
    ∀ p, r.manifest.participants.contains p = true → r.commits.contains p = true

/-- A decision and a halt are final, and a halted record starts no Commit or release. -/
structure Continues (r r' : Transaction) : Prop where
  decision : ∀ decision, r.decision = some decision → r'.decision = some decision
  halted : r.stopping.isSome = true → r'.stopping.isSome = true
  created : r.stopping.isSome = true → ∀ d phase, phase = .commit ∨ phase = .release →
    r'.entered d phase = true → r.entered d phase = true

lemma Continues.refl (r : Transaction) : Continues r r :=
  ⟨fun _ h => h, fun h => h, fun _ _ _ _ h => h⟩

lemma Continues.trans {r₁ r₂ r₃ : Transaction} (h₁ : Continues r₁ r₂) (h₂ : Continues r₂ r₃) :
    Continues r₁ r₃ where
  decision := fun decision h => h₂.decision decision (h₁.decision decision h)
  halted := fun h => h₂.halted (h₁.halted h)
  created := fun h d phase hphase hnew =>
    h₁.created h d phase hphase (h₂.created (h₁.halted h) d phase hphase hnew)

section

variable {codec : Codec} {r' : Transaction}

/-- A change elsewhere in the record. -/
lemma Decided.congr (h : Decided codec r) (hmanifest : r'.manifest = r.manifest)
    (hprepared : r'.prepared = r.prepared) (hcommits : r'.commits = r.commits)
    (hdecision : r'.decision = r.decision)
    (hentered : ∀ d phase, r'.entered d phase = r.entered d phase)
    (hstopping : r.stopping.isSome = true → r'.stopping.isSome = true) : Decided codec r' where
  preparedKnown := by
    rw [hprepared, hmanifest]
    exact h.preparedKnown
  commitsKnown := by
    rw [hcommits, hmanifest]
    exact h.commitsKnown
  seals := by
    rw [hdecision, hmanifest, hprepared]
    exact h.seals
  carries := by
    rw [hcommits, hdecision]
    exact h.carries
  aborts d hd := by
    rw [hentered] at hd
    obtain ⟨hstop, hnone⟩ := h.aborts d hd
    exact ⟨hstopping hstop, hdecision.trans hnone⟩
  commits d hd := by
    rw [hentered] at hd
    rw [hdecision]
    exact h.commits d hd
  releases d hd := by
    rw [hentered] at hd
    rw [hdecision, hmanifest, hcommits]
    exact h.releases d hd

lemma Continues.congr (hdecision : r'.decision = r.decision)
    (hentered : ∀ d phase, r'.entered d phase = r.entered d phase)
    (hstopping : r.stopping.isSome = true → r'.stopping.isSome = true) : Continues r r' where
  decision := fun _ h => hdecision.trans h
  halted := hstopping
  created := fun _ d phase _ hnew => (hentered d phase).symm.trans hnew

end

/-! ### One change -/

section

variable {codec : Codec} {t : Turn} {r' : Transaction} {kernel : KernelTime}

section

variable (h : Decided codec r)
include h

section

variable (hparticipant : r.manifest.participants.contains domain = true)
include hparticipant

lemma Decided.prepared : Decided codec { r with
      prepared := if r.prepared.contains domain then r.prepared
        else r.prepared.insert domain value } := by
  refine ⟨fun d hd => ?_, h.commitsKnown, fun decision hdecision => ?_, h.carries, h.aborts,
    h.commits, h.releases⟩
  · rw [contains_firstInsert] at hd
    rcases Bool.or_eq_true_iff.mp hd with hold | hnew
    · exact h.preparedKnown d hold
    · rw [beq_iff_eq.mp hnew]
      exact hparticipant
  · obtain ⟨hseal, hall⟩ := h.seals decision hdecision
    simp only [hall domain hparticipant, if_true]
    exact ⟨hseal, hall⟩

lemma Decided.committed {decision : Decision} (hdecision : r.decision = some decision)
    (hdigest : value.field "decision_digest" = .string decision.digest) : Decided codec { r with
      commits := if r.commits.contains domain then r.commits
        else r.commits.insert domain value } := by
  refine ⟨h.preparedKnown, fun d hd => ?_, h.seals, fun d v hget => ?_, h.aborts, h.commits,
    fun d hd => ?_⟩
  · rw [contains_firstInsert] at hd
    rcases Bool.or_eq_true_iff.mp hd with hold | hnew
    · exact h.commitsKnown d hold
    · rw [beq_iff_eq.mp hnew]
      exact hparticipant
  · rcases get?_firstInsert hget with hold | ⟨rfl, rfl⟩
    · exact h.carries d v hold
    · exact ⟨decision, hdecision, hdigest⟩
  · obtain ⟨hsome, hall⟩ := h.releases d hd
    refine ⟨hsome, fun p hp => ?_⟩
    rw [contains_firstInsert, hall p hp]
    rfl

lemma Decided.received {intent : Intent} {profile : Profile}
    (hr : Received codec profile r domain intent value phase r') :
    Decided codec r' ∧ Continues r r' := by
  cases hr with
  | probedBefore => exact ⟨h, .refl r⟩
  | prepared => exact ⟨h.prepared hparticipant, .congr rfl (fun _ _ => rfl) (fun hs => hs)⟩
  | committed decided digest =>
    exact ⟨h.committed hparticipant decided digest, .congr rfl (fun _ _ => rfl) (fun hs => hs)⟩
  | probed | released | stopped | completed =>
    exact ⟨h.congr rfl rfl rfl rfl (fun _ _ => rfl) (fun hs => hs),
      .congr rfl (fun _ _ => rfl) (fun hs => hs)⟩

end

lemma Decided.decided (hopen : r.decision = none) (hlive : r.stopping = none)
    (hcomplete : r.prepared.keys.length = r.manifest.participants.keys.length) :
    Decided codec { r with decision := some (.seal codec r.manifest r.prepared) } where
  preparedKnown := h.preparedKnown
  commitsKnown := h.commitsKnown
  seals decision hdecision := by
    cases hdecision
    exact ⟨rfl, fun d hd => contains_of_length_eq h.preparedKnown hcomplete hd⟩
  carries d value hget := by
    obtain ⟨_, hsome, -⟩ := h.carries d value hget
    rw [hopen] at hsome
    cases hsome
  aborts d hd := by
    obtain ⟨hstop, -⟩ := h.aborts d hd
    rw [hlive] at hstop
    cases hstop
  commits := fun _ _ => rfl
  releases := fun d hd => ⟨rfl, (h.releases d hd).2⟩

end

lemma phase_of_halted (hstop : r.stopping.isSome = true) (h : r.phase domain = some phase) :
    phase = .probe ∨ (phase = .abort ∧ r.decision = none) ∨ phase = .stop := by
  rw [Transaction.phase, if_pos hstop] at h
  split at h
  · cases h
  · split at h
    · exact .inl (some.inj h).symm
    · split at h
      · next hnone =>
        exact .inr (.inl ⟨(some.inj h).symm, isNone_iff_eq_none.mp hnone⟩)
      · exact .inr (.inr (some.inj h).symm)

lemma phase_of_live (hlive : r.stopping.isSome = false) (h : r.phase domain = some phase) :
    phase = .probe ∨ phase = .prepare ∨ (r.decision.isSome = true ∧
      (phase = .commit ∨ phase = .observe ∨
        phase = .release ∧ r.commits.keys.length = r.manifest.participants.keys.length)) := by
  rw [Transaction.phase, if_neg (by simp [hlive])] at h
  split at h
  · exact .inl (some.inj h).symm
  split at h
  · cases h
  split at h
  · exact .inr (.inl (some.inj h).symm)
  split at h
  · cases h
  · next hdecision =>
    refine .inr (.inr ⟨by simpa [isSome_iff_ne_none] using hdecision, ?_⟩)
    split at h
    · exact .inl (some.inj h).symm
    split at h
    · cases h
    · next hlength =>
      split at h
      · exact .inr (.inr ⟨(some.inj h).symm, by simpa using hlength⟩)
      split at h
      · exact .inr (.inl (some.inj h).symm)
      · cases h

lemma phase_guard (h : r.boundedPhase domain kernel = some phase) :
    (phase = .abort → r.stopping.isSome = true ∧ r.decision = none) ∧
      (phase = .commit → r.stopping.isSome = false ∧ r.decision.isSome = true) ∧
      (phase = .release → r.stopping.isSome = false ∧ r.decision.isSome = true ∧
        r.commits.keys.length = r.manifest.participants.keys.length) := by
  unfold boundedPhase at h
  split at h
  · obtain ⟨_, -, rfl⟩ := map_eq_some_iff.mp h
    simp
  · cases hstop : r.stopping.isSome with
    | true => rcases phase_of_halted hstop h with rfl | ⟨rfl, _⟩ | rfl <;> simp [*]
    | false =>
      rcases phase_of_live hstop h with rfl | rfl | ⟨_, rfl | rfl | ⟨rfl, _⟩⟩ <;>
        simp [*]

lemma entered_setIntent (r : Transaction) (domain : String) (phase : Phase) (intent : Intent)
    (d : String) (p : Phase) : (r.setIntent domain phase intent).entered d p = true ↔
      (d = domain ∧ p = phase) ∨ r.entered d p = true := by
  unfold entered
  rw [intent_setIntent]
  split
  · next hsame => simp [hsame]
  · next hsame => simp [hsame]

variable (h : Decided codec r)
include h

lemma Decided.sent (hnext : r.boundedPhase domain kernel = some phase) (intent : Intent) :
    Decided codec (r.setIntent domain phase intent) ∧
      Continues r (r.setIntent domain phase intent) := by
  obtain ⟨habort, hcommit, hrelease⟩ := phase_guard hnext
  refine ⟨⟨h.preparedKnown, h.commitsKnown, h.seals, h.carries, fun d hd => ?_, fun d hd => ?_,
    fun d hd => ?_⟩, fun _ hs => hs, fun hs => hs, fun hstop d p hp hnew => ?_⟩
  · rcases (entered_setIntent r domain phase intent d .abort).mp hd with ⟨-, heq⟩ | hold
    · exact habort heq.symm
    · exact h.aborts d hold
  · rcases (entered_setIntent r domain phase intent d .commit).mp hd with ⟨-, heq⟩ | hold
    · exact (hcommit heq.symm).2
    · exact h.commits d hold
  · rcases (entered_setIntent r domain phase intent d .release).mp hd with ⟨-, heq⟩ | hold
    · obtain ⟨-, hsome, hlength⟩ := hrelease heq.symm
      exact ⟨hsome, fun p hp => contains_of_length_eq h.commitsKnown hlength hp⟩
    · exact h.releases d hold
  · rcases (entered_setIntent r domain phase intent d p).mp hnew with ⟨-, rfl⟩ | hold
    · -- a halted record sends neither
      have hlive : r.stopping.isSome = false := by
        rcases hp with rfl | rfl
        · exact (hcommit rfl).1
        · exact (hrelease rfl).1
      rw [hlive] at hstop
      cases hstop
    · exact hold

lemma Decided.setIntent {old : Intent}
    (hfound : r.intent domain phase = some old) (intent : Intent) :
    Decided codec (r.setIntent domain phase intent) ∧
      Continues r (r.setIntent domain phase intent) := by
  have hentered : ∀ d p, (r.setIntent domain phase intent).entered d p = r.entered d p := by
    intro d p
    rw [entered, entered, intent_setIntent]
    split
    · next hsame =>
      obtain ⟨rfl, rfl⟩ := hsame
      rw [hfound]
      rfl
    · rfl
  exact ⟨h.congr rfl rfl rfl rfl hentered (fun hs => hs), .congr rfl hentered (fun hs => hs)⟩

lemma Decided.change (hchange : Change codec t r r') : Decided codec r' ∧ Continues r r' := by
  cases hchange with
  | halted reason =>
    have hhalted : r.stopping.isSome = true → (r.halt reason).stopping.isSome = true := fun _ => rfl
    exact ⟨h.congr rfl rfl rfl rfl (fun _ _ => rfl) hhalted, .congr rfl (fun _ _ => rfl) hhalted⟩
  | received participant found receipt identity retained => exact h.received participant retained
  | decided open_ live complete =>
    refine ⟨h.decided open_ live complete, fun decision hsome => ?_, fun hs => hs,
      fun _ _ _ _ hnew => hnew⟩
    rw [open_] at hsome
    cases hsome
  | cleaning | neverAsked =>
    exact ⟨h.congr rfl rfl rfl rfl (fun _ _ => rfl) (fun hs => hs),
      .congr rfl (fun _ _ => rfl) (fun hs => hs)⟩
  | sent participant next => exact h.sent next _
  | asked next found => exact h.setIntent found _

lemma Decided.changes (hchanges : Changes codec t r r') : Decided codec r' ∧ Continues r r' := by
  induction hchanges with
  | refl => exact ⟨h, .refl r⟩
  | tail _ hlast ih =>
    obtain ⟨hmiddle, hfirst⟩ := ih
    obtain ⟨hend, hsecond⟩ := hmiddle.change hlast
    exact ⟨hend, hfirst.trans hsecond⟩

end

/-! ### Runs -/

section

variable {k : Capacity} {s s' : State} {codec : Codec} {id : String}

lemma Decided.record (codec : Codec) (i : Submission) (budget : OriginalBudget) :
    Decided codec (i.record budget) where
  preparedKnown := by simp [Submission.record, contains]
  commitsKnown := by simp [Submission.record, contains]
  seals := by simp [Submission.record]
  carries := by simp [Submission.record]
  aborts := by simp [Submission.record, entered, intent]
  commits := by simp [Submission.record, entered, intent]
  releases := by simp [Submission.record, entered, intent]

lemma retainResult_setIntent {r' : Transaction} {i : Result} (h : retainResult r i = .ok r') :
    ∃ old intent, r.intent i.domain i.phase = some old ∧ old.withResult i = .ok intent ∧
      r' = r.setIntent i.domain i.phase intent := by
  simp only [retainResult, bind_eq_ok, okOr_eq_ok, pure_eq_ok] at h
  obtain ⟨old, hold, intent, hintent, rfl⟩ := h
  exact ⟨old, intent, hold, hintent, rfl⟩

lemma Decided.move {move : Move} {record : Option Transaction} (h : Decided codec r)
    (hmove : RecordMove codec id move (some r) record) :
    ∃ r', record = some r' ∧ Decided codec r' ∧ Continues r r' := by
  cases hmove with
  | kept => exact ⟨r, rfl, h, .refl r⟩
  | turned same participant turn => exact ⟨_, rfl, h.changes (takeTurn_changes participant turn)⟩
  | resulted same result =>
    obtain ⟨_, intent, hold, -, rfl⟩ := retainResult_setIntent result
    exact ⟨_, rfl, h.setIntent hold intent⟩

variable {condition : State → Move → Prop}

end

namespace Pair

/-- Two domains, `a` with the root. A plan is the name of its Mission, and a digest tells the
manifest, the decision over it and other values apart. -/
def codec : Codec where
  digest := fun value => "sha256:" ++ (value.field "objective").asStr.getD "" ++
    (value.field "manifest_digest").asStr.getD ""
  textLength := fun _ => 512
  decodePlan := fun plan => .ok ((plan.asStr).getD "", "goal")

def capacity : Capacity := ⟨codec, fun s => 4096 * s.transactions.keys.length⟩

def manifest : Manifest where
  schemaVersion := schema
  transactionId := "tx"
  coordinatorDomain := "a"
  tenantId := "tenant"
  objective := "goal"
  budgetMs := 10000
  maxClockUncertaintyMs := 1000
  participants := OrdMap.ofList [("a", ⟨.string "left", .null⟩), ("b", ⟨.string "right", .null⟩)]

def peer : Peer := ⟨"", "", "", "", "", "", "", "", "service"⟩

def profile (revision maxDriftPpm : Nat) : Profile where
  schemaVersion := .v01
  profileId := "peers"
  revision := revision
  localDomain := "a"
  maxDriftPpm := maxDriftPpm
  requestBudgetMs := 1000
  budgetScope := none
  stopObservationBudgetMs := none
  peers := OrdMap.ofList [("a", peer), ("b", peer)]

def kernel : KernelTime where
  bootId := "00000000-0000-0000-0000-000000000000"
  namespaceDevice := 1
  namespaceInode := 1
  elapsedMs := 0
  resolutionMs := 1
  boot_valid := by decide +kernel
  inode_pos := Nat.one_pos
  resolution_valid := by decide
  elapsed_le := by decide

def epoch : WriterEpoch := ⟨"standalone:1", by decide +kernel⟩

def submission : Submission where
  manifest := manifest
  profile := profile 1 0
  authorized := true
  principal := "manager"
  leaf := "leaf"
  expiresAtMs := 1000000
  epoch := epoch
  kernel := kernel
  nonce := fun domain => domain

def turn (domain : String) (profile : Profile) : Turn :=
  ⟨"tx", domain, profile, true, kernel, 0, epoch, 0, 0⟩

def receipt (domain : String) : Json :=
  .object [("manifest_digest", .string (codec.digest manifest.toJson)), ("domain", .string domain),
    ("transaction_id", .string "tx"), ("nonce", .string domain), ("epoch", .string "epoch"),
    ("received_at_ms", natJson 0), ("response_at_ms", natJson 0), ("duration_ms", natJson 10000),
    ("bindings", .array [.null])]

def accepted (domain : String) (phase : Phase) : Move :=
  .result ⟨"tx", domain, phase, none, .ok ⟨202, receipt domain, ""⟩, 0, kernel⟩

/-- Both domains are asked, and both accept. -/
def round (phase : Phase) : List Move :=
  [.turn (turn "a" (profile 1 0)), .turn (turn "b" (profile 1 0)), accepted "a" phase,
    accepted "b" phase]

/-- The transaction up to the Commit of `a`. -/
def committing : State :=
  ([Move.submit submission] ++ round .probe ++ round .prepare ++
    [Move.turn (turn "a" (profile 1 0))]).foldl (State.step capacity) .empty

end Pair

end RoboGuide.Federation
