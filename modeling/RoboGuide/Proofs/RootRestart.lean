import RoboGuide.Proofs.RootRecord

/-!
# `RoboGuide.Proofs.RootRestart`: the root restarts from what it retains

`validate` accepts the state of every run whose turns meet `Move.Retains`
(`retained_state_restarts`). The condition rules out two turns. One reduces the reply of a probe
under a profile that allows another drift than the profile the probe was sent under: the clock
translation it stores is not the one that `validate` computes again. The other has nothing to
send and copies receipts into the record until the retained state is too large: `admit_work`
checks the size only before it sends.
-/

namespace RoboGuide.Federation

open Domain Lib Fallible Option OriginalBudget OrdMap Submission

variable {origins : Option (OrdMap String (Option Nat))}
  {r r' : Transaction} {i : Submission} {t : Turn} {codec : Codec} {id : String} {profile : Profile}

/-! ### A sound record is accepted -/

section

variable {profiles : OrdMap Nat Profile} {d : String} {phase : Phase} {intent : Intent}

lemma OriginalBudget.Admitted.validate {b : OriginalBudget} (h : b.Admitted) :
    b.validate = .ok () :=
  validate_ok h.1 h.2

lemma requestBudget_le_maximum {revision : Nat} {p : Profile}
    (h : profiles.get? revision = some p) : p.requestBudgetMs ≤ maximumRequest profiles := by
  have hmem : p ∈ profiles.values := mem_values_iff.mpr ⟨revision, h⟩
  unfold maximumRequest
  generalize profiles.values = values at hmem ⊢
  induction values with
  | nil => cases hmem
  | cons q rest ih =>
    rcases List.mem_cons.mp hmem with rfl | hrest
    · exact Nat.le_max_left _ _
    · exact (ih hrest).trans (Nat.le_max_right _ _)

lemma IntentSound.validateScope (h : IntentSound codec profiles r d phase intent) :
    ∃ scope, Federation.validateScope r phase intent = .ok scope ∧
      ∀ o ∈ intent.observations, ∀ parent ∈ scope, o.budget.isWithin parent = true := by
  unfold Federation.validateScope
  by_cases hphase : phase = .observeStop
  · obtain ⟨hstop, scope, hscope, hin, hall⟩ := h.within hphase
    refine ⟨some scope, ?_, fun o ho parent hparent => ?_⟩
    · rw [if_pos hphase, hscope]
      simp [hstop, okOr, refuse, hin]
      rfl
    · cases hparent
      exact hall o ho
  · rw [if_neg hphase]
    exact ⟨none, rfl, fun _ _ _ hparent => by cases hparent⟩

lemma IntentSound.accepted (h : IntentSound codec profiles r d phase intent) :
    validateIntent codec profiles r d (phase, intent) = .ok () := by
  obtain ⟨p, hp, hle⟩ := h.profile
  obtain ⟨wire, hwire, hdigest⟩ := h.wire
  obtain ⟨scope, hscope, hwithin⟩ := h.validateScope
  have hroom := h.room
  simp only [validateIntent, bind_eq_ok, refuse_eq_ok, forM_eq_ok]
  refine ⟨(), h.budget.validate, (), ?_, wire, hwire, (), ?_, scope, hscope, fun o ho => ?_⟩
  · have hknown : profiles.contains intent.profileRevision = true :=
      contains_eq_true_iff.mpr ⟨p, hp⟩
    rw [hknown, hp]
    simp [hroom, hle]
  · rw [hdigest]
    simp
  · obtain ⟨hadmitted, _, q, hq, hqle⟩ := h.observed o ho
    have hmaximum := hqle.trans (requestBudget_le_maximum hq)
    simp only [validateObservation, bind_eq_ok, refuse_eq_ok]
    refine ⟨(), hadmitted.validate, ?_⟩
    rw [Bool.or_eq_false_iff, decide_eq_false_iff_not, any_eq_false]
    refine ⟨by omega, fun parent hparent => ?_⟩
    rw [hwithin o ho parent hparent]
    simp

lemma phases_le (phases : OrdMap Phase Intent) : phases.keys.length ≤ 8 := by
  have hsub : phases.keys ⊆ [.abort, .commit, .observe, .observeStop, .prepare, .probe, .release,
      .stop] := by
    intro phase _
    cases phase <;> simp
  exact (List.subperm_of_subset phases.nodup_keys hsub).length_le

lemma ClockSound.accepted {proof : ClockProof} (h : ClockSound profiles r d proof) :
    validateClock profiles r (d, proof) = .ok () := by
  obtain ⟨intent, value, p, received, kernel, hintent, hvalue, hp, _, hreceived, hkernel,
    hproof⟩ := h
  simp only [validateClock, bind_eq_ok, okOr_eq_ok, refuse_eq_ok]
  exact ⟨intent, hintent, value, hvalue, p, hp, received, hreceived, kernel, hkernel, proof, hproof,
    by simp⟩

lemma StopSound.accepted {o : StopObservation} (h : StopSound profiles r o) :
    validateStopObservation profiles r o = .ok () := by
  obtain ⟨p, hp, hschema, hduration⟩ := h.profile
  simp only [validateStopObservation, bind_eq_ok, okOr_eq_ok, refuse_eq_ok, forM_eq_ok]
  refine ⟨p, hp, (), ?_, fun b hb => ?_⟩
  · rw [hschema, hduration, h.anchored]
    simp
  · obtain ⟨hsame, hstop, _, hcleanup, hstart⟩ := h.budget b (by simpa using hb)
    simp only [validateStopBudget, bind_eq_ok, refuse_eq_ok]
    refine ⟨(), validate_ok ?_ ?_, ?_⟩
    · rw [hsame]
      exact h.duration.1
    · rw [hsame]
      exact h.duration.2
    · rw [hcleanup, hsame]
      simp [hasSameStart, hstart, isNone_eq_false_iff, hstop]

lemma RecordSound.accepted {s : State} (h : RecordSound codec s.profiles id r)
    (horigin : validateOrigin s id r = .ok ()) : validateRecord codec s (id, r) = .ok () := by
  simp only [validateRecord, bind_eq_ok, refuse_eq_ok, forM_eq_ok]
  refine ⟨(), h.manifest, (), h.budget.2.validate, (), horigin, (), fun o ho => ?_, (), ?_, (),
    fun e he => ?_, fun e he => ?_⟩
  · exact (h.stop o (by simpa using ho)).accepted
  · have hdecision : (r.decision.any fun decision =>
        some (Decision.seal codec r.manifest r.prepared) != some decision) = false := by
      rw [any_eq_false]
      intro decision hdecision
      rw [← (h.decided.seals decision hdecision).1]
      simp
    have hreleased : (r.released.keys.all fun domain => r.commits.contains domain) = true := by
      rw [List.all_eq_true]
      exact fun domain hdomain => h.released domain ((mem_keys_iff_contains _ _).mp hdomain)
    rw [h.epoch, h.identity, h.budget.1, h.nonces, hdecision, hreleased]
    simp
  · exact (h.clocks e.1 e.2 (mem_entries_iff.mp he)).accepted
  · have hphases : r.intents.get? e.1 = some e.2 := mem_entries_iff.mp he
    simp only [validateIntents, bind_eq_ok, refuse_eq_ok, forM_eq_ok]
    refine ⟨(), ?_, fun entry hentry => ?_⟩
    · have hroom := phases_le e.2
      rw [h.domains e.1 e.2 hphases]
      simp [hroom]
    · refine (h.intents e.1 entry.1 entry.2 ?_).accepted
      unfold Transaction.intent
      rw [hphases]
      exact mem_entries_iff.mp hentry

end

/-! ### Retained states -/

/-- What `validate` asks of a state, its size apart. -/
structure Retained (k : Capacity) (s : State) : Prop where
  history : HistorySound s.profiles
  room : s.transactions.keys.length ≤ 128
  tabled : Tabled s
  covers : ∀ origins, s.origins = some origins → origins.keys = s.transactions.keys
  /-- The admission table says under which profile a stop scope was declared. -/
  declared : ∀ id r, s.transactions.get? id = some r →
    r.stopObservation.map (·.profileRevision) = (s.origins.bind (·.get? id)).join
  older : ∀ id r, s.transactions.get? id = some r → r.stopObservation = none →
    legacy s.profiles = true
  records : ∀ id r, s.transactions.get? id = some r → RecordSound k.codec s.profiles id r

section

variable {k : Capacity} {s s' : State} {budget : OriginalBudget} {found : Option Work}

lemma Retained.empty (k : Capacity) : Retained k .empty where
  history := .empty
  room := Nat.zero_le _
  tabled := rfl
  covers := fun _ h => by cases h
  declared := fun _ _ h => by cases h
  older := fun _ _ h => by cases h
  records := fun _ _ h => by cases h

lemma Retained.origin (h : Retained k s)
    (hr : s.transactions.get? id = some r) : validateOrigin s id r = .ok () := by
  have hdeclared := h.declared id r hr
  unfold validateOrigin
  split
  · next revision hrevision =>
    rw [hrevision] at hdeclared
    obtain ⟨o, ho, hsame⟩ := map_eq_some_iff.mp hdeclared
    rw [refuse_eq_ok, ho]
    simp [hsame]
  · next hnone =>
    rw [hnone, map_eq_none_iff] at hdeclared
    rw [refuse_eq_ok, h.older id r hr hdeclared, hdeclared]
    simp

lemma Retained.accepted (h : Retained k s) (hbounded : k.bounded s = .ok ())
    {configured : Option Profile} (hconfigured : s.profiles.keys.isEmpty = false →
      ∃ actual s', configured = some actual ∧ installProfile s actual = .ok s') :
    validate k configured s = .ok () := by
  obtain ⟨revisions, hreplay, hsame, htabled⟩ := h.history.replays
  have hroom := h.room
  have hprofiles := h.history.room
  simp only [validate, bind_eq_ok, refuse_eq_ok, forM_eq_ok]
  refine ⟨(), by simp [hroom, hprofiles], revisions, hreplay, (), ?_, (), ?_, (), fun e he => ?_,
    hbounded⟩
  · unfold validateConfigured
    split
    · rfl
    · next hsome =>
      obtain ⟨actual, s', rfl, hinstall⟩ := hconfigured (by simpa using hsome)
      obtain ⟨u', hu', -⟩ := installProfile_congr hsame htabled hinstall
      simp only [bind_eq_ok, okOr_eq_ok, pure_eq_ok]
      exact ⟨actual, rfl, u', hu', trivial⟩
  · have htable := h.tabled
    unfold Tabled at htable
    unfold validateOrigins
    rw [refuse_eq_ok]
    split
    · next hmodern =>
      rw [hmodern] at htable
      obtain ⟨origins, horigins⟩ := isSome_iff_exists.mp htable
      rw [horigins]
      simp [h.covers origins horigins]
    · next hold => rw [htable]; simpa using hold
  · have hr : s.transactions.get? e.1 = some e.2 := mem_entries_iff.mp he
    exact (h.records e.1 e.2 hr).accepted (h.origin hr)

/-! ### One move -/

lemma installedOrigins_eq_ok
    (h : installedOrigins s profile = .ok origins) : origins = s.origins ∨
      s.origins = none ∧ origins = some (s.transactions.mapValues fun _ _ => none) := by
  unfold installedOrigins at h
  split at h
  · simp only [bind_eq_ok, refuse_eq_ok, pure_eq_ok] at h
    obtain ⟨_, hnone, rfl⟩ := h
    exact .inr ⟨by simpa using hnone, rfl⟩
  · exact .inl (pure_eq_ok.mp h).symm

lemma Retained.install (h : Retained k s)
    (hok : installProfile s profile = .ok s') : Retained k s' := by
  have hhistory := h.history.install hok
  obtain ⟨-, hinstalled⟩ := installProfile_ok hok
  have htabled := hinstalled.tabled h.tabled
  have hgrows := hinstalled.grows
  cases hinstalled with
  | same => exact h
  | next other successor room origins_ok =>
    refine ⟨hhistory, h.room, htabled, fun origins hsome => ?_, fun id r hr => ?_,
      fun id r hr hnone => ?_, fun id r hr => (h.records id r hr).grows hgrows⟩
    · dsimp only at hsome ⊢
      rcases installedOrigins_eq_ok origins_ok with rfl | ⟨-, rfl⟩
      · exact h.covers origins hsome
      · cases hsome
        simp [keys, mapValues]
    · dsimp only
      rcases installedOrigins_eq_ok origins_ok with rfl | ⟨hnone, rfl⟩
      · exact h.declared id r hr
      · have hdeclared := h.declared id r hr
        rw [hnone] at hdeclared
        rw [hdeclared, bind_some, get?_mapValues, hr]
        rfl
    · have hlegacy := h.older id r hr hnone
      unfold legacy at hlegacy ⊢
      dsimp only
      rw [values_insert_next (validateSuccessor_ok successor).1, List.any_append, hlegacy]
      rfl

lemma Retained.store (h : Retained k s) (hr : s.transactions.get? id = some r)
    (hstop : r'.stopObservation.map (·.profileRevision) = r.stopObservation.map (·.profileRevision))
    (hsound : RecordSound k.codec s.profiles id r') :
    Retained k { s with transactions := s.transactions.insert id r' } := by
  have hkeys : (s.transactions.insert id r').keys = s.transactions.keys := by
    refine keys_eq_of_contains fun id' => ?_
    rw [contains_insert]
    by_cases hid : id' = id
    · subst hid
      simp [contains, hr]
    · simp [hid]
  refine ⟨h.history, ?_, h.tabled, fun origins hsome => ?_, fun id' r₁ hr₁ => ?_,
    fun id' r₁ hr₁ hnone => ?_, fun id' r₁ hr₁ => ?_⟩
  · dsimp only
    rw [hkeys]
    exact h.room
  · dsimp only
    rw [hkeys]
    exact h.covers origins hsome
  all_goals rcases insert_cases hr₁ with ⟨rfl, rfl⟩ | ⟨-, hr₁⟩
  · rw [hstop]
    exact h.declared _ r hr
  · exact h.declared id' r₁ hr₁
  · rw [hnone, map_none] at hstop
    exact h.older _ r hr (map_eq_none_iff.mp hstop.symm)
  · exact h.older id' r₁ hr₁ hnone
  · exact hsound
  · exact h.records id' r₁ hr₁

lemma RecordSound.record {profiles : OrdMap Nat Profile}
    (hvalid : i.manifest.validate k.codec = .ok ()) (hshape : i.profile.validateShape = .ok ())
    (hbudget : new i.kernel i.manifest.budgetMs = .ok budget)
    (hinstalled : profiles.get? i.profile.revision = some i.profile) :
    RecordSound k.codec profiles i.manifest.transactionId (i.record budget) := by
  obtain ⟨rfl, hpos, hle⟩ := new_eq_ok hbudget
  obtain ⟨hmodern, hold⟩ := validateShape_stop hshape
  refine ⟨Decided.record k.codec i _, hvalid, rfl, i.epoch.nonempty, ⟨rfl, hpos, hle⟩, ?_, ?_,
    fun o ho => ?_, ?_, ?_, ?_⟩
  · simp [Submission.record, keys, mapValues]
  · simp [Submission.record, contains]
  · obtain ⟨_, hsome, rfl⟩ := map_eq_some_iff.mp ho
    have hv03 : i.profile.schemaVersion = .v03 := by
      by_contra hversion
      rw [hold hversion] at hsome
      cases hsome
    obtain ⟨_, hsome', hbounds⟩ := hmodern hv03
    cases hsome.symm.trans hsome'
    exact ⟨⟨_, hinstalled, hv03, hsome⟩, hbounds, rfl, fun b hb => by cases hb⟩
  · simp [Submission.record]
  · simp [Submission.record]
  · simp [Submission.record, Transaction.intent]

lemma admittedOrigins_ok (h : Retained k s)
    (hshape : i.profile.validateShape = .ok ()) (hlast : lastProfile s.profiles = some i.profile)
    (hok : admittedOrigins s i = .ok origins) :
    (∃ table durationMs, i.profile.stopObservationBudgetMs = some durationMs ∧
        s.origins = some table ∧
        origins = some (table.insert i.manifest.transactionId (some i.profile.revision))) ∨
      (i.profile.stopObservationBudgetMs = none ∧ legacy s.profiles = true ∧ s.origins = none ∧
        origins = none) := by
  obtain ⟨hmodern, hold⟩ := validateShape_stop hshape
  unfold admittedOrigins at hok
  split at hok
  · next hv03 =>
    simp only [bind_eq_ok, okOr_eq_ok, pure_eq_ok] at hok
    obtain ⟨table, htable, rfl⟩ := hok
    obtain ⟨durationMs, hsome, -⟩ := hmodern (beq_iff_eq.mp hv03)
    exact .inl ⟨table, durationMs, hsome, htable, rfl⟩
  · next hv03 =>
    obtain rfl := pure_eq_ok.mp hok
    have hversion : i.profile.schemaVersion ≠ .v03 := fun heq => hv03 (by rw [heq]; rfl)
    have htable : s.origins = none := by
      have htabled := h.tabled
      unfold Tabled at htabled
      rw [h.history.not_modern hlast hversion] at htabled
      simpa using htabled
    refine .inr ⟨hold hversion, ?_, htable, htable⟩
    unfold legacy
    rw [List.any_eq_true]
    exact ⟨i.profile, List.mem_of_getLast? hlast, by simpa using hversion⟩

lemma Retained.admitted (h : Retained k s)
    (hshape : i.profile.validateShape = .ok ()) (hlast : lastProfile s.profiles = some i.profile)
    (hnew : s.transactions.get? i.manifest.transactionId = none)
    (hroom : s.transactions.keys.length < 128)
    (hsound : RecordSound k.codec s.profiles i.manifest.transactionId (i.record budget))
    (hok : admittedOrigins s i = .ok origins) : Retained k { s with
      origins
      transactions := s.transactions.insert i.manifest.transactionId (i.record budget) } := by
  have hcases := admittedOrigins_ok h hshape hlast hok
  have hlength : (s.transactions.insert i.manifest.transactionId (i.record budget)).keys.length =
      s.transactions.keys.length + 1 := by
    have hperm := (perm_values_insert (i.record budget) hnew).length_eq
    simpa [keys, values] using hperm
  refine ⟨h.history, ?_, ?_, fun table' hsome => ?_, fun id r hr => ?_, fun id r hr hnone => ?_,
    fun id r hr => ?_⟩
  · dsimp only
    rw [hlength]
    omega
  · have htabled := h.tabled
    unfold Tabled at htabled ⊢
    dsimp only
    rw [← htabled]
    rcases hcases with ⟨table, _, -, htable, rfl⟩ | ⟨-, -, htable, rfl⟩
    · rw [htable]
      rfl
    · rw [htable]
  · dsimp only at hsome ⊢
    rcases hcases with ⟨table, _, -, htable, rfl⟩ | ⟨-, -, -, rfl⟩
    · cases hsome
      refine keys_eq_of_contains fun id => ?_
      have hsame : table.contains id = s.transactions.contains id := by
        rw [Bool.eq_iff_iff, ← mem_keys_iff_contains, ← mem_keys_iff_contains,
          h.covers table htable]
      rw [contains_insert, contains_insert, hsame]
    · cases hsome
  all_goals
    dsimp only at hr ⊢
    rw [get?_insert] at hr
    split at hr
  · next hid =>
    cases hr
    rw [hid]
    rcases hcases with ⟨table, durationMs, hdeclared, htable, rfl⟩ | ⟨hdeclared, -, -, rfl⟩
    · simp [record, hdeclared]
    · simp [record, hdeclared]
  · next hid =>
    rw [h.declared id r hr]
    rcases hcases with ⟨table, _, -, htable, rfl⟩ | ⟨-, -, htable, rfl⟩
    · rw [htable, bind_some, bind_some, get?_insert_of_ne hid]
    · rw [htable]
  · cases hr
    rcases hcases with ⟨_, _, hdeclared, -, -⟩ | ⟨-, hlegacy, -, -⟩
    · simp [record, hdeclared] at hnone
    · exact hlegacy
  · exact h.older id r hr hnone
  · next hid =>
    cases hr
    rw [hid]
    exact hsound
  · exact h.records id r hr

lemma Retained.submit (h : Retained k s)
    (hok : Federation.submit k s i = .ok s') : Retained k s' := by
  obtain ⟨_, hsubmitted⟩ := submit_ok hok
  have hinstalled := h.install hsubmitted.installs
  have hlast := (installProfile_ok hsubmitted.installs).2.last
  rcases submitTransaction_ok hsubmitted.stores with
    ⟨rfl, -⟩ | ⟨hnew, hroom, budget, origins, hbudget, horigins, rfl⟩
  · exact hinstalled
  · refine hinstalled.admitted hsubmitted.shape hlast hnew hroom ?_ horigins
    exact .record hsubmitted.valid hsubmitted.shape hbudget (hinstalled.history.get?_last hlast)

/-! ### Turns -/

/-- What a turn must meet to leave a state that restarts: its profile allows the drift that the
receipts it translates were asked for under. -/
def Move.Retains (k : Capacity) (s : State) : Move → Prop
  | .turn t => ∀ r ∈ s.transactions.get? t.id, DriftAgrees k.codec s.profiles t.profile r
  | .submit _ | .result _ => True

instance Move.decidableRetains (k : Capacity) (s : State) :
    (move : Move) → Decidable (move.Retains k s)
  | .turn t => inferInstanceAs
      (Decidable (∀ r ∈ s.transactions.get? t.id, DriftAgrees k.codec s.profiles t.profile r))
  | .submit _ | .result _ => isTrue trivial

lemma DriftAgrees.grows {profiles profiles' : OrdMap Nat Profile}
    (h : DriftAgrees codec profiles profile r)
    (hsound : RecordSound codec profiles id r) (hgrows : Grows profiles profiles') :
    DriftAgrees codec profiles' profile r := by
  intro d hd hprobe intent hintent value heffect received hreceived kernel hkernel htranslates p hp
  obtain ⟨q, hq, -⟩ := (hsound.intents d .probe intent hintent).profile
  have hsame : some q = some p := (hgrows _ q hq).symm.trans hp
  obtain rfl := some.inj hsame
  exact h d hd hprobe intent hintent value heffect received hreceived kernel hkernel
      htranslates q hq

lemma Change.declaration (h : Change codec t r r') :
    r'.stopObservation.map (·.profileRevision) = r.stopObservation.map (·.profileRevision) := by
  cases h with
  | received participant found receipt identity retained => cases retained <;> rfl
  | cleaning halted first budget anchored =>
    cases ho : r.stopObservation with
    | none =>
      rw [ho] at anchored
      rw [← pure_eq_ok.mp anchored]
    | some =>
      rw [ho] at anchored
      simp only [anchorStop, bind_eq_ok, pure_eq_ok] at anchored
      obtain ⟨_, -, rfl⟩ := anchored
      rfl
  | halted | decided | neverAsked | sent | asked => rfl

lemma Changes.declaration (h : Changes codec t r r') :
    r'.stopObservation.map (·.profileRevision) = r.stopObservation.map (·.profileRevision) := by
  induction h with
  | refl => rfl
  | tail _ hlast ih => exact hlast.declaration.trans ih

lemma Retained.turn (h : Retained k s)
    (hdrift : ∀ r ∈ s.transactions.get? t.id, DriftAgrees k.codec s.profiles t.profile r)
    (hok : admitWork k s t = .ok (s', found)) : Retained k s' := by
  obtain ⟨_, r, r', hadmitted⟩ := admitWork_ok hok
  have hinstalled := h.install hadmitted.installs
  obtain ⟨-, hprofile⟩ := installProfile_ok hadmitted.installs
  have hr : s.transactions.get? t.id = some r := by
    rw [← installProfile_eq_ok hadmitted.installs]
    exact hadmitted.record
  have hchanges := takeTurn_changes hadmitted.participant hadmitted.turn
  have hagrees := (hdrift r hr).grows (h.records t.id r hr) hprofile.grows
  have hsound := (hinstalled.records t.id r hadmitted.record).changes
    (hinstalled.history.get?_last hprofile.last) hagrees hchanges
  rw [hadmitted.state]
  exact hinstalled.store hadmitted.record hchanges.declaration hsound.1

lemma Retained.step (h : Retained k s) {move : Move} (hmove : move.Retains k s) :
    Retained k (s.step k move) := by
  cases move with
  | submit =>
    unfold State.step
    dsimp only
    split
    · next s' hok => exact h.submit hok
    · exact h
  | turn =>
    unfold State.step
    dsimp only
    split
    · next s' found hok => exact h.turn hmove hok
    · exact h
  | result i =>
    unfold State.step
    dsimp only
    split
    · next s' hok =>
      obtain ⟨r, r', hr, hresult, rfl, -⟩ := perform_ok hok
      have hdeclared : r'.stopObservation = r.stopObservation := by
        obtain ⟨_, _, -, -, rfl⟩ := retainResult_setIntent hresult
        rfl
      exact h.store hr (by rw [hdeclared]) ((h.records i.id r hr).result hresult)
    · exact h

/-! ### Every run -/

/-- The deployment has a profile that the history allows, if there is a history. -/
def Configured (s : State) (configured : Option Profile) : Prop :=
  s.profiles.keys.isEmpty = false →
    ∃ actual s', configured = some actual ∧ installProfile s actual = .ok s'

/-- The root restarts from a state of a run that meets the condition exactly when what it retains
has room. A turn that sends nothing is the one move that does not look for room itself. -/
theorem retained_state_restarts (hrun : State.Run k (fun s move => move.Retains k s) .empty s)
    {configured : Option Profile} (hconfigured : Configured s configured) :
    validate k configured s = .ok () ↔ k.bounded s = .ok () := by
  have hretained := hrun.invariant (P := Retained k) (.empty k) fun _ _ ih hmove => ih.step hmove
  constructor
  · intro h
    simp only [validate, bind_eq_ok] at h
    obtain ⟨_, -, _, -, _, -, _, -, _, -, hbounded⟩ := h
    exact hbounded
  · intro hbounded
    exact hretained.accepted hbounded hconfigured

end

/-- The two participants up to the first Commit, under the profile they started with. -/
theorem committing_pair_restarts :
    validate Pair.capacity (some (Pair.profile 1 0)) Pair.committing = .ok () := by
  have hrun : State.Run Pair.capacity (fun s move => move.Retains Pair.capacity s) .empty
      Pair.committing := Reaches.of_list _ .refl (by decide +kernel)
  have hinstall : installProfile Pair.committing (Pair.profile 1 0) = .ok Pair.committing := by
    decide +kernel
  exact (retained_state_restarts hrun fun _ => ⟨_, _, rfl, hinstall⟩).mpr
    (by decide +kernel)

/-- A probe was sent and answered under the first profile, and reduced under the second, which
allows more drift. -/
def Pair.drifted : State :=
  [Move.submit Pair.submission, Move.turn (Pair.turn "a" (Pair.profile 1 0)),
    Pair.accepted "a" .probe, Move.turn (Pair.turn "a" (Pair.profile 2 1000))].foldl
      (State.step Pair.capacity) .empty

/-- No restart, although every move was accepted and the profile is the one that is installed. -/
theorem drifted_pair_never_restarts : ¬ ∀ (k : Capacity) (s : State) (configured : Option Profile),
      State.Run k (fun _ _ => True) .empty s → Configured s configured →
        validate k configured s = .ok () := by
  intro h
  have hrun : State.Run Pair.capacity (fun _ _ => True) .empty Pair.drifted :=
    Reaches.of_list _ .refl (by decide +kernel)
  have hinstall : installProfile Pair.drifted (Pair.profile 2 1000) = .ok Pair.drifted := by
    decide +kernel
  have hrefused : validate Pair.capacity (some (Pair.profile 2 1000)) Pair.drifted ≠ .ok () := by
    decide +kernel
  exact hrefused (h _ _ _ hrun fun _ => ⟨_, _, rfl, hinstall⟩)

end RoboGuide.Federation
