import RoboGuide.Federation.Root

/-!
# `RoboGuide.Federation.Changes`: what a move does to a record

A turn first halts and reduces, then retains at most one intent or observation. `Change` lists
the single writes with the checks each of them passed; a turn is a sequence of them
(`takeTurn_changes`), and the result of a request rewrites one intent. Every
invariant of a record is proved from this list.
-/

namespace RoboGuide.Federation

open Domain Lib Fallible Transaction Option
open Bool hiding not_or true_and

variable {intents : OrdMap String (OrdMap Phase Intent)} {m : Manifest} {found : Option Work}
  {profile : Profile} {codec : Codec} {r r' : Transaction} {domain : String} {phase : Phase}
  {intent : Intent} {value : Json}

/-! ### Intents -/

namespace Transaction

variable (r : Transaction) (domain : String) (phase : Phase) (intent : Intent)

lemma intent_setIntent (domain' : String) (phase' : Phase) :
    (r.setIntent domain phase intent).intent domain' phase' =
      if domain' = domain ∧ phase' = phase then some intent else r.intent domain' phase' := by
  unfold Transaction.intent setIntent
  by_cases hd : domain' = domain
  · subst hd
    simp only [get?_insert_self, bind_some, true_and]
    rw [get?_insert]
    split
    · rfl
    · cases r.intents.get? domain' <;> simp
  · simp [get?_insert_of_ne hd, hd]

end Transaction

/-! ### Receipts -/

/-- What a receipt of a phase adds to the record. -/
inductive Received (codec : Codec) (profile : Profile) (r : Transaction) (domain : String)
    (intent : Intent) (value : Json) : Phase → Transaction → Prop where
  | probedBefore (known : r.probes.contains domain = true) :
      Received codec profile r domain intent value .probe r
  | probed {received : Nat} {kernel : KernelTime} {proof : ClockProof}
      (new : r.probes.contains domain = false)
      (nonce : some (value.field "nonce") = (r.nonces.get? domain).map .string)
      (answered : intent.reply.any Reply.succeeded = true)
      (received_eq : intent.receivedAtMs = some received)
      (kernel_eq : intent.receivedKernel = some kernel)
      (proof_ok : clockProof r.manifest profile intent value received
        (r.budget.remaining kernel) = .ok proof) :
      Received codec profile r domain intent value .probe { r with
        clocks := if r.clocks.contains domain then r.clocks else r.clocks.insert domain proof
        probes := r.probes.insert domain value }
  | prepared : Received codec profile r domain intent value .prepare { r with
        prepared := if r.prepared.contains domain then r.prepared
          else r.prepared.insert domain value }
  | committed {decision : Decision} (decided : r.decision = some decision)
      (digest : value.field "decision_digest" = .string decision.digest) :
      Received codec profile r domain intent value .commit { r with
        commits := if r.commits.contains domain then r.commits
          else r.commits.insert domain value }
  | released : Received codec profile r domain intent value .release
      { r with released := r.released.insert domain () }
  | stopped {phase : Phase} (stops : phase = .stop ∨ phase = .abort ∨ phase = .observeStop) :
      Received codec profile r domain intent value phase
        { r with stopped := r.stopped.insert domain () }
  | completed : Received codec profile r domain intent value .observe { r with
        completed := if r.completed.contains domain then r.completed
          else r.completed.insert domain value }

lemma retainReceipt_ok (h : r.retainReceipt codec profile domain phase intent value = .ok r') :
    Received codec profile r domain intent value phase r' := by
  cases phase with
  | probe =>
    simp only [retainReceipt] at h
    split at h
    · next hknown =>
      obtain rfl := Except.ok.inj h
      exact .probedBefore hknown
    · next hnew =>
      simp only [retainProbe, bind_eq_ok, okOr_eq_ok, refuse_eq_ok, pure_eq_ok,
        not_eq_false', bne_eq_false_iff_eq] at h
      obtain ⟨_, hnonce, _, hreply, _, hreceived, _, hkernel, _, hproof, rfl⟩ := h
      exact .probed (by simpa using hnew) hnonce hreply hreceived hkernel hproof
  | prepare =>
    simp only [retainReceipt, retainPrepared, bind_eq_ok, pure_eq_ok] at h
    obtain ⟨_, -, rfl⟩ := h
    exact .prepared
  | commit =>
    simp only [retainReceipt, retainCommit, bind_eq_ok, okOr_eq_ok,
      refuse_eq_ok, or_eq_false_iff, bne_eq_false_iff_eq, pure_eq_ok] at h
    obtain ⟨_, hdecision, _, ⟨hdigest, -⟩, rfl⟩ := h
    exact .committed hdecision hdigest
  | observeStop =>
    simp only [retainReceipt, retainObservedStop, bind_eq_ok,
      pure_eq_ok] at h
    obtain ⟨_, -, rfl⟩ := h
    exact .stopped (.inr (.inr rfl))
  | release =>
    obtain rfl := Except.ok.inj h
    exact .released
  | stop =>
    obtain rfl := Except.ok.inj h
    exact .stopped (.inl rfl)
  | abort =>
    obtain rfl := Except.ok.inj h
    exact .stopped (.inr (.inl rfl))
  | observe =>
    obtain rfl := Except.ok.inj h
    exact .completed

lemma Received.frame (h : Received codec profile r domain intent value phase r') :
    r'.manifest = r.manifest ∧ r'.intents = r.intents := by
  cases h <;> exact ⟨rfl, rfl⟩

/-! ### The list of changes -/

inductive Change (codec : Codec) (t : Turn) (r : Transaction) : Transaction → Prop where
  | halted (reason : String) : Change codec t r (r.halt reason)
  | received {domain : String} {phase : Phase} {intent : Intent} {value : Json}
      {r' : Transaction} (participant : r.manifest.participants.contains domain = true)
      (found : r.intent domain phase = some intent) (receipt : effect intent phase = some value)
      (identity : phase.hasReceipt = true → r.namesReceipt codec domain value = true)
      (retained : Received codec t.profile r domain intent value phase r') :
      Change codec t r r'
  | decided (open_ : r.decision = none) (live : r.stopping = none)
      (complete : r.prepared.keys.length = r.manifest.participants.keys.length) :
      Change codec t r { r with decision := some (.seal codec r.manifest r.prepared) }
  | cleaning {cleanup : OriginalBudget} {stopObservation : Option StopObservation}
      (halted : r.stopping.isSome = true) (first : r.cleanupBudget = none)
      (budget : OriginalBudget.new t.kernel 30000 = .ok cleanup)
      (anchored : anchorStop t.kernel r.stopObservation = .ok stopObservation) :
      Change codec t r { r with cleanupBudget := some cleanup, stopObservation }
  | neverAsked : Change codec t r { r with stopped := r.stopped.insert t.domain () }
  | sent {phase : Phase} {wire : Option Command} {timeout : Nat} {budget : OriginalBudget}
      (participant : r.manifest.participants.contains t.domain = true)
      (next : r.boundedPhase t.domain t.kernel = some phase)
      (first : r.intent t.domain phase = none) (encoded : r.wireBody t.domain phase = .ok wire)
      (timeout_eq : timeout = min (r.phaseRemaining phase t.kernel) t.profile.requestBudgetMs)
      (budget_ok : OriginalBudget.new t.kernel timeout = .ok budget) :
      Change codec t r (r.setIntent t.domain phase
        ⟨codec.digest (optionJson Command.toJson wire), t.sentAtMs, budget, t.profile.revision,
          none, none, none, none, []⟩)
  | asked {phase : Phase} {intent : Intent} {timeout : Nat} {budget : OriginalBudget}
      (next : r.boundedPhase t.domain t.kernel = some phase)
      (found : r.intent t.domain phase = some intent)
      (room : intent.observations.length < 16)
      (timeout_eq : timeout = min (r.phaseRemaining phase t.kernel) t.profile.requestBudgetMs)
      (budget_ok : OriginalBudget.new t.kernel timeout = .ok budget) :
      Change codec t r (r.setIntent t.domain phase
        { intent with observations := intent.observations ++ [⟨budget, t.sentAtMs, none, none⟩] })

abbrev Changes (codec : Codec) (t : Turn) : Transaction → Transaction → Prop :=
  Relation.ReflTransGen (Change codec t)

section

variable {t : Turn}

/-- The changes of a reduction, from a record with these participants and intents. -/
def Reduction (codec : Codec) (t : Turn) (m : Manifest)
    (intents : OrdMap String (OrdMap Phase Intent)) (r r' : Transaction) : Prop :=
  r.manifest = m ∧ r.intents = intents →
    (r'.manifest = m ∧ r'.intents = intents) ∧ Changes codec t r r'

lemma Reduction.refl (r : Transaction) : Reduction codec t m intents r r := fun h => ⟨h, .refl⟩

lemma Reduction.trans (r₁ r₂ r₃ : Transaction) (h₁ : Reduction codec t m intents r₁ r₂)
    (h₂ : Reduction codec t m intents r₂ r₃) : Reduction codec t m intents r₁ r₃ := by
  intro h
  obtain ⟨hkept, hfirst⟩ := h₁ h
  obtain ⟨hkept', hsecond⟩ := h₂ hkept
  exact ⟨hkept', hfirst.trans hsecond⟩

lemma haltFor_changes (phase : Phase) (intent : Intent) (r : Transaction) :
    Changes codec t r (r.haltFor phase intent) := by
  unfold haltFor
  have hfirst : Changes codec t r (if refusedCommand phase intent then
      r.halt "actual-participant-command-refused" else r) := by
    split
    · exact .single (.halted _)
    · exact .refl
  dsimp only
  split
  · exact hfirst.tail (.halted _)
  · exact hfirst

lemma haltFor_reduction (codec : Codec) (t : Turn) (phase : Phase) (intent : Intent)
    (r : Transaction) : Reduction codec t m intents r (r.haltFor phase intent) := by
  intro h
  have hframe : (r.haltFor phase intent).manifest = r.manifest ∧
      (r.haltFor phase intent).intents = r.intents := by
    unfold haltFor
    dsimp only
    split <;> split <;> exact ⟨rfl, rfl⟩
  exact ⟨⟨hframe.1.trans h.1, hframe.2.trans h.2⟩, haltFor_changes phase intent r⟩

lemma reduceIntent_moves (hdomain : m.participants.contains domain = true)
    {entry : Phase × Intent} (hentry : entry ∈ ((intents.get? domain).getD ∅).entries) :
    Moves (Reduction codec t m intents) (reduceIntent codec t.profile domain entry) := by
  intro r hstart
  obtain ⟨phase, intent⟩ := entry
  unfold reduceIntent
  rw [run_modify_bind]
  obtain ⟨hkept, hhalts⟩ := haltFor_reduction codec t phase intent r hstart
  cases heffect : effect intent phase with
  | none => exact ⟨hkept, hhalts⟩
  | some value =>
    have hfound : (r.haltFor phase intent).intent domain phase = some intent := by
      unfold Transaction.intent
      rw [hkept.2]
      cases hdom : intents.get? domain with
      | none =>
        rw [hdom] at hentry
        cases hentry
      | some =>
        rw [hdom] at hentry
        exact mem_entries_iff.mp hentry
    dsimp only
    rw [run_get_bind, run_check_bind]
    cases hreceive : (r.haltFor phase intent).receive codec t.profile domain phase intent value with
    | error => exact ⟨hkept, hhalts⟩
    | ok =>
      simp only [receive, bind_eq_ok, refuse_eq_ok, and_eq_false_imp,
        not_eq_false'] at hreceive
      obtain ⟨_, hidentity, hretained⟩ := hreceive
      obtain ⟨hmanifest, hintents⟩ := (retainReceipt_ok hretained).frame
      refine ⟨⟨hmanifest.trans hkept.1, hintents.trans hkept.2⟩, hhalts.tail ?_⟩
      exact .received (by rw [hkept.1]; exact hdomain) hfound heffect hidentity
        (retainReceipt_ok hretained)

lemma reduce_changes (codec : Codec) (t : Turn) (r : Transaction) :
    Changes codec t r (state (reduce codec t.profile r)) := by
  have hloop : Moves (Reduction codec t r.manifest r.intents)
      (r.manifest.participants.keys.forM fun domain => do
        let r ← get
        ((r.intents.get? domain).getD ∅).entries.forM
          (reduceIntent codec t.profile domain)) := by
    refine Moves.forM Reduction.refl Reduction.trans fun domain hdomain => ?_
    have hparticipant : r.manifest.participants.contains domain = true :=
      contains_eq_true_iff.mpr (mem_keys_iff.mp hdomain)
    refine Moves.get_bind fun r₁ hr₁ => ?_
    refine Moves.forM Reduction.refl Reduction.trans (fun entry hentry => ?_) r₁ hr₁
    rw [hr₁.2] at hentry
    exact reduceIntent_moves hparticipant hentry
  have hdecide : Moves (Reduction codec t r.manifest r.intents)
      (modify (fixDecision codec) : EStateM String Transaction PUnit) := by
    refine Moves.modify fun r₁ hr₁ => ?_
    unfold fixDecision
    split
    · next hguard =>
      simp only [and_eq_true, isNone_iff_eq_none, beq_iff_eq] at hguard
      exact ⟨hr₁, .single (.decided hguard.1.1 hguard.1.2 hguard.2)⟩
    · exact ⟨hr₁, .refl⟩
  have hreduce := Moves.bind Reduction.trans hloop fun _ => hdecide
  exact (hreduce r ⟨rfl, rfl⟩).2

lemma reduced_changes (codec : Codec) (t : Turn) (r : Transaction) :
    Changes codec t r (t.reduced codec r) := by
  unfold Turn.reduced
  have hlost : Changes codec t r
      (if t.lost r then r.halt "original-root-permission-or-budget-lost" else r) := by
    split
    · exact .single (.halted _)
    · exact .refl
  refine hlost.trans ?_
  generalize (if t.lost r then r.halt "original-root-permission-or-budget-lost" else r) = r₁
  have hreduce := reduce_changes codec t r₁
  dsimp only
  split
  · next _ r' hr =>
    rw [hr] at hreduce
    exact hreduce
  · next e r' hr =>
    rw [hr] at hreduce
    exact hreduce.tail (.halted e)

lemma startCleanup_changes (h : startCleanup t.kernel r = .ok r') : Changes codec t r r' := by
  unfold startCleanup at h
  split at h
  · next hguard =>
    simp only [and_eq_true, isNone_iff_eq_none] at hguard
    simp only [bind_eq_ok, pure_eq_ok] at h
    obtain ⟨_, hcleanup, _, hanchored, rfl⟩ := h
    exact .single (.cleaning hguard.1 hguard.2 hcleanup hanchored)
  · obtain rfl := pure_eq_ok.mp h
    exact .refl

lemma work_changes (hparticipant : r.manifest.participants.contains t.domain = true)
    (hnext : r.boundedPhase t.domain t.kernel = some phase)
    (h : work codec t r phase = .ok (r', found)) : Changes codec t r r' := by
  unfold work at h
  dsimp only at h
  split at h
  · obtain ⟨rfl, -⟩ := Prod.mk.inj (pure_eq_ok.mp h)
    exact .refl
  · simp only [bind_eq_ok] at h
    obtain ⟨_, hwire, h⟩ := h
    split at h
    · next intent hintent =>
      simp only [observeAgain, bind_eq_ok] at h
      obtain ⟨_, -, h⟩ := h
      split at h
      · obtain ⟨rfl, -⟩ := Prod.mk.inj (pure_eq_ok.mp h)
        exact .refl
      · next hroom =>
        simp only [bind_eq_ok, pure_eq_ok, Prod.mk.injEq] at h
        obtain ⟨budget, hbudget, rfl, -⟩ := h
        simp only [or_eq_true, decide_eq_true_eq, not_or, Nat.not_le] at hroom
        exact .single (.asked hnext hintent hroom.2 rfl hbudget)
    · next hfirst =>
      simp only [sendFirst, bind_eq_ok, pure_eq_ok, Prod.mk.injEq] at h
      obtain ⟨_, hbudget, rfl, -⟩ := h
      exact .single (.sent hparticipant hnext hfirst hwire rfl hbudget)

lemma Change.manifest (h : Change codec t r r') : r'.manifest = r.manifest := by
  cases h with
  | received participant found receipt identity retained => exact retained.frame.1
  | halted | decided | cleaning | neverAsked | sent | asked => rfl

lemma Changes.manifest (h : Changes codec t r r') : r'.manifest = r.manifest := by
  induction h with
  | refl => rfl
  | tail _ hlast ih => exact hlast.manifest.trans ih

lemma takeTurn_changes (hparticipant : r.manifest.participants.contains t.domain = true)
    (h : takeTurn codec t r = .ok (r', found)) : Changes codec t r r' := by
  simp only [takeTurn, bind_eq_ok] at h
  obtain ⟨r₁, hcleanup, h⟩ := h
  have hfirst : Changes codec t r r₁ :=
      (reduced_changes codec t r).trans (startCleanup_changes hcleanup)
  split at h
  · obtain ⟨rfl, -⟩ := Prod.mk.inj (pure_eq_ok.mp h)
    exact hfirst.tail .neverAsked
  · split at h
    · obtain ⟨rfl, -⟩ := Prod.mk.inj (pure_eq_ok.mp h)
      exact hfirst
    · next phase hphase =>
      exact hfirst.trans (work_changes (by rw [hfirst.manifest]; exact hparticipant) hphase h)

end

/-! ### Moves of the root -/

inductive RecordMove (codec : Codec) (id : String) : Move → Option Transaction →
    Option Transaction → Prop where
  | kept {move : Move} {record : Option Transaction} : RecordMove codec id move record record
  | admitted {i : Submission} {budget : OriginalBudget} (same : i.manifest.transactionId = id)
      (valid : i.manifest.validate codec = .ok ())
      (budget_ok : OriginalBudget.new i.kernel i.manifest.budgetMs = .ok budget) :
      RecordMove codec id (.submit i) none (some (i.record budget))
  | turned {t : Turn} {r r' : Transaction} {found : Option Work} (same : t.id = id)
      (participant : r.manifest.participants.contains t.domain = true)
      (turn : takeTurn codec t r = .ok (r', found)) :
      RecordMove codec id (.turn t) (some r) (some r')
  | resulted {i : Result} {r r' : Transaction} (same : i.id = id)
      (result : retainResult r i = .ok r') : RecordMove codec id (.result i) (some r) (some r')

section

variable {k : Capacity} {s s' : State} {i : Submission}

lemma installProfile_eq_ok (h : installProfile s profile = .ok s') :
    s'.transactions = s.transactions := by
  simp only [installProfile, bind_eq_ok] at h
  obtain ⟨_, -, h⟩ := h
  split at h
  · obtain rfl := pure_eq_ok.mp h
    rfl
  · simp only [bind_eq_ok, pure_eq_ok] at h
    obtain ⟨_, -, _, -, _, -, rfl⟩ := h
    rfl

structure Submitted (k : Capacity) (s : State) (i : Submission) (installed s' : State) : Prop where
  valid : i.manifest.validate k.codec = .ok ()
  shape : i.profile.validateShape = .ok ()
  installs : installProfile s i.profile = .ok installed
  stores : submitTransaction installed i = .ok s'
  bounded : k.bounded s' = .ok ()

lemma submit_ok (h : submit k s i = .ok s') : ∃ installed, Submitted k s i installed s' := by
  simp only [submit, bind_eq_ok, pure_eq_ok] at h
  obtain ⟨_, hvalid, _, hshape, _, -, _, -, installed, hinstall, _, hstore, _, hbounded, rfl⟩ :=
    h
  exact ⟨installed, hvalid, hshape, hinstall, hstore, hbounded⟩

structure Admitted (k : Capacity) (s : State) (t : Turn) (installed : State) (r r' : Transaction)
    (found : Option Work) (s' : State) : Prop where
  installs : installProfile s t.profile = .ok installed
  record : installed.transactions.get? t.id = some r
  participant : r.manifest.participants.contains t.domain = true
  turn : takeTurn k.codec t r = .ok (r', found)
  state : s' = { installed with transactions := installed.transactions.insert t.id r' }
  bounded : found.isSome = true → k.bounded s' = .ok ()

lemma admitWork_ok {t : Turn} (h : admitWork k s t = .ok (s', found)) :
    ∃ installed r r', Admitted k s t installed r r' found s' := by
  simp only [admitWork, bind_eq_ok, okOr_eq_ok, refuse_eq_ok, not_eq_false'] at h
  obtain ⟨installed, hinstall, r, hr, _, hparticipant, ⟨r', work⟩, hturn, h⟩ := h
  dsimp only at h
  cases hwork : work.isSome with
  | true =>
    rw [hwork] at h
    simp only [if_true, bind_eq_ok, pure_eq_ok, Prod.mk.injEq] at h
    obtain ⟨_, hbounded, rfl, rfl⟩ := h
    exact ⟨installed, r, r', hinstall, hr, hparticipant, hturn, rfl, fun _ => hbounded⟩
  | false =>
    rw [hwork] at h
    simp only [false_eq_true, if_false, pure_eq_ok, Prod.mk.injEq] at h
    obtain ⟨rfl, rfl⟩ := h
    refine ⟨installed, r, r', hinstall, hr, hparticipant, hturn, rfl, fun hsome => ?_⟩
    rw [hwork] at hsome
    cases hsome

lemma perform_ok {i : Result} (h : perform k s i = .ok s') :
    ∃ r r', s.transactions.get? i.id = some r ∧ retainResult r i = .ok r' ∧
      s' = { s with transactions := s.transactions.insert i.id r' } ∧ k.bounded s' = .ok () := by
  simp only [perform, bind_eq_ok, okOr_eq_ok, pure_eq_ok] at h
  obtain ⟨r, hr, r', hresult, _, hbounded, rfl⟩ := h
  exact ⟨r, r', hr, hresult, rfl, hbounded⟩

lemma submitTransaction_ok (h : submitTransaction s i = .ok s') :
    (s' = s ∧ (s.transactions.get? i.manifest.transactionId).isSome = true) ∨
      (s.transactions.get? i.manifest.transactionId = none ∧ s.transactions.keys.length < 128 ∧
        ∃ budget origins, OriginalBudget.new i.kernel i.manifest.budgetMs = .ok budget ∧
          admittedOrigins s i = .ok origins ∧
          s' = { s with
            origins
            transactions := s.transactions.insert i.manifest.transactionId
                (i.record budget) }) := by
  unfold submitTransaction at h
  split at h
  · next original hget =>
    simp only [bind_eq_ok, pure_eq_ok] at h
    obtain ⟨_, -, rfl⟩ := h
    exact .inl ⟨rfl, by rw [hget]; rfl⟩
  · next hget =>
    simp only [bind_eq_ok, pure_eq_ok, refuse_eq_ok, decide_eq_false_iff_not, Nat.not_le] at h
    obtain ⟨_, hroom, budget, hbudget, origins, horigins, rfl⟩ := h
    exact .inr ⟨hget, hroom, budget, origins, hbudget, horigins, rfl⟩

end

end RoboGuide.Federation
