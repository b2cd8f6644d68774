import RoboGuide.Replication.Certificates

/-!
# `RoboGuide.Proofs.CertificateRotation`: rotation never resurrects a leaf or locks a member out

A leaf is compared with the leaves of all members only when it is staged. That it stays apart
from them is an invariant (`Separate`): a member gains a leaf only by staging, and retiring or
aborting moves a leaf it already holds.

* `rotation_keeps_leaves`: for every sequence of calls, each leaf has one owner for ever, a
  retired leaf is never admitted again, at most one leaf is staged, and every member has a
  current leaf that is admitted.
* `receipts_rebuild_trust`: `validate` accepts every trust that is reached, since a receipt was
  accepted in the state that the receipts before it rebuild; a refused call and a repeated one
  change nothing, and a repeated one returns the original receipt.
* `staged_leaf_abortable`: a staged leaf can be aborted in every trust that is reached.
-/

namespace RoboGuide.Replication

open Domain Lib Fallible OrdMap

variable {member : Nat}

namespace CertificateTrust

/-! ### Leaves -/

/-- The member has, had or is about to have the leaf. -/
def Holds (entry : MemberCertificates) (leaf : String) : Prop :=
  entry.current = leaf ∨ entry.staged = some leaf ∨ entry.retired.contains leaf = true

/-- What the checks of an accepted action say. -/
inductive Rotation (t : CertificateTrust) (entry : MemberCertificates) :
    CertificateAction → Prop where
  | stage {previousLeaf newLeaf : String}
      (idle : ∀ member e, t.members.get? member = some e → e.staged = none)
      (fresh : ∀ member e, t.members.get? member = some e → ¬ Holds e newLeaf) :
      Rotation t entry (.stage previousLeaf newLeaf)
  | retire {stageCommandId newLeaf : String} (pending : entry.staged = some newLeaf) :
      Rotation t entry (.retire stageCommandId entry.current newLeaf)
  | abort {stageCommandId previousLeaf newLeaf : String} (pending : entry.staged = some newLeaf) :
      Rotation t entry (.abort stageCommandId previousLeaf newLeaf)

section

variable {digest : CertificateTrust → String} {t : CertificateTrust} {entry : MemberCertificates}
  {m : CertificateMutation}

lemma checkPending_ok {stageCommandId previousLeaf newLeaf : String}
    (h : t.checkPending entry member stageCommandId previousLeaf newLeaf = .ok ()) :
    entry.current = previousLeaf ∧ entry.staged = some newLeaf := by
  simp only [checkPending, bind_eq_ok, okOr_eq_ok, refuse_eq_ok, Bool.or_eq_false_iff,
    bne_eq_false_iff_eq] at h
  obtain ⟨_, -, ⟨-, hcurrent⟩, hstaged⟩ := h
  exact ⟨hcurrent, hstaged⟩

lemma checkAction_ok (h : t.checkAction digest entry m = .ok ()) :
    Rotation t entry m.request.action := by
  unfold checkAction at h
  split at h
  · next previousLeaf newLeaf haction =>
    simp only [checkStage, refuse_eq_ok, Bool.or_eq_false_iff, List.any_eq_false,
      Bool.or_eq_true, not_or] at h
    obtain ⟨-, hall⟩ := h
    have hmember : ∀ member e, t.members.get? member = some e →
        e.staged = none ∧ e.current ≠ newLeaf ∧ e.retired.contains newLeaf = false := by
      intro member e he
      have he' := hall e (mem_values_iff.mpr ⟨member, he⟩)
      simpa [and_assoc] using he'
    rw [haction]
    refine .stage (fun member e he => (hmember member e he).1) fun member e he hholds => ?_
    obtain ⟨hidle, hcurrent, hretired⟩ := hmember member e he
    rcases hholds with hc | hs | hr
    · exact hcurrent hc
    · rw [hidle] at hs
      cases hs
    · rw [hretired] at hr
      cases hr
  · next stageCommandId previousLeaf newLeaf haction =>
    simp only [bind_eq_ok] at h
    obtain ⟨_, hpending, -⟩ := h
    obtain ⟨rfl, hstaged⟩ := checkPending_ok hpending
    rw [haction]
    exact .retire hstaged
  · next stageCommandId previousLeaf newLeaf haction =>
    simp only [bind_eq_ok] at h
    obtain ⟨_, hpending, -⟩ := h
    rw [haction]
    exact .abort (checkPending_ok hpending).2

lemma checkNew_ok (h : t.checkNew digest m = .ok entry) :
    t.members.get? m.request.member = some entry ∧ Rotation t entry m.request.action ∧
      t.receipts.length < maxCertificateCommands := by
  simp only [checkNew, bind_eq_ok, okOr_eq_ok, refuse_eq_ok, Bool.or_eq_false_iff,
    decide_eq_false_iff_not, Nat.not_le, pure_eq_ok] at h
  obtain ⟨_, ⟨-, hroom⟩, _, hentry, _, haction, rfl⟩ := h
  exact ⟨hentry, checkAction_ok haction, hroom⟩

end

section

variable {t : CertificateTrust} {entry : MemberCertificates} {action : CertificateAction}
  {leaf : String} (h : Rotation t entry action)
include h

/-- A rotation never drops a leaf. -/
lemma Rotation.keeps (hentry : t.members.get? member = some entry) (hold : Holds entry leaf) :
    Holds (advance entry action) leaf := by
  cases h with
  | stage idle =>
    rcases hold with hc | hs | hr
    · exact .inl hc
    · rw [idle member entry hentry] at hs
      cases hs
    · exact .inr (.inr hr)
  | retire pending =>
    rcases hold with hc | hs | hr
    · -- the current leaf is retired
      exact .inr (.inr (by simp [advance, contains_insert, hc]))
    · exact .inl (Option.some.inj (pending.symm.trans hs))
    · exact .inr (.inr (by simp [advance, contains_insert, hr]))
  | abort pending =>
    rcases hold with hc | hs | hr
    · exact .inl hc
    · have hsame := Option.some.inj (pending.symm.trans hs)
      exact .inr (.inr (by simp [advance, contains_insert, hsame]))
    · exact .inr (.inr (by simp [advance, contains_insert, hr]))

lemma Rotation.gains (hnew : Holds (advance entry action) leaf) :
    Holds entry leaf ∨ ∀ member e, t.members.get? member = some e → ¬ Holds e leaf := by
  cases h with
  | stage idle fresh =>
    rcases hnew with hc | hs | hr
    · exact .inl (.inl hc)
    · cases hs
      exact .inr fresh
    · exact .inl (.inr (.inr hr))
  | retire pending =>
    rcases hnew with hc | hs | hr
    · exact .inl (.inr (.inl (pending.trans (congrArg some hc))))
    · cases hs
    · simp only [advance, contains_insert, Bool.or_eq_true, decide_eq_true_eq] at hr
      rcases hr with rfl | hr
      · exact .inl (.inl rfl)
      · exact .inl (.inr (.inr hr))
  | abort pending =>
    rcases hnew with hc | hs | hr
    · exact .inl (.inl hc)
    · cases hs
    · simp only [advance, contains_insert, Bool.or_eq_true, decide_eq_true_eq] at hr
      rcases hr with rfl | hr
      · exact .inl (.inr (.inl pending))
      · exact .inl (.inr (.inr hr))

lemma Rotation.retires (hr : entry.retired.contains leaf = true) :
    (advance entry action).retired.contains leaf = true := by
  cases h with
  | stage => exact hr
  | retire | abort => simp [advance, contains_insert, hr]

end

/-! ### The invariant -/

/-- A leaf has one owner and one use, and one member at most is rotating. -/
structure Separate (t : CertificateTrust) : Prop where
  owner : ∀ member member' e e' leaf, t.members.get? member = some e →
    t.members.get? member' = some e' → Holds e leaf → Holds e' leaf → member = member'
  pending : ∀ member member' e e', t.members.get? member = some e →
    t.members.get? member' = some e' → e.staged.isSome = true → e'.staged.isSome = true →
    member = member'
  current : ∀ member e, t.members.get? member = some e → e.retired.contains e.current = false
  staged : ∀ member e leaf, t.members.get? member = some e → e.staged = some leaf →
    e.current ≠ leaf ∧ e.retired.contains leaf = false

/-- No member and no leaf is forgotten, and a retired leaf stays retired. -/
structure Keeps (t t' : CertificateTrust) : Prop where
  members : t'.members.keys = t.members.keys
  leaves : ∀ member e leaf, t.members.get? member = some e → Holds e leaf →
    ∃ e', t'.members.get? member = some e' ∧ Holds e' leaf
  retired : ∀ member e leaf, t.members.get? member = some e → e.retired.contains leaf = true →
    ∃ e', t'.members.get? member = some e' ∧ e'.retired.contains leaf = true

lemma Keeps.refl (t : CertificateTrust) : Keeps t t :=
  ⟨rfl, fun _ e _ h hl => ⟨e, h, hl⟩, fun _ e _ h hl => ⟨e, h, hl⟩⟩

lemma Keeps.trans {t₁ t₂ t₃ : CertificateTrust} (h₁ : Keeps t₁ t₂) (h₂ : Keeps t₂ t₃) :
    Keeps t₁ t₃ where
  members := h₂.members.trans h₁.members
  leaves member e leaf he hl := by
    obtain ⟨e', he', hl'⟩ := h₁.leaves member e leaf he hl
    exact h₂.leaves member e' leaf he' hl'
  retired member e leaf he hl := by
    obtain ⟨e', he', hl'⟩ := h₁.retired member e leaf he hl
    exact h₂.retired member e' leaf he' hl'

section

variable {t : CertificateTrust} {entry : MemberCertificates} {m : CertificateMutation}
  {e : MemberCertificates}

lemma get?_accept (h : (t.accept entry m).members.get? member = some e) :
    (member = m.request.member ∧ e = advance entry m.request.action) ∨
      (member ≠ m.request.member ∧ t.members.get? member = some e) := by
  exact (insert_cases h).imp_left fun hnew => ⟨hnew.1, hnew.2.symm⟩

/-- An accepted mutation forgets nothing. -/
lemma Keeps.accept (hentry : t.members.get? m.request.member = some entry)
    (hrotation : Rotation t entry m.request.action) : Keeps t (t.accept entry m) where
  members := by
    refine keys_eq_of_contains fun member => ?_
    simp only [CertificateTrust.accept, contains_insert]
    by_cases hsame : member = m.request.member
    · subst hsame
      simp [contains, hentry]
    · simp [hsame]
  leaves member e leaf he hl := by
    by_cases hsame : member = m.request.member
    · subst hsame
      cases hentry.symm.trans he
      exact ⟨_, get?_insert_self _ _ _, hrotation.keeps hentry hl⟩
    · exact ⟨e, (get?_insert_of_ne hsame).trans he, hl⟩
  retired member e leaf he hl := by
    by_cases hsame : member = m.request.member
    · subst hsame
      cases hentry.symm.trans he
      exact ⟨_, get?_insert_self _ _ _, hrotation.retires hl⟩
    · exact ⟨e, (get?_insert_of_ne hsame).trans he, hl⟩

lemma Separate.apart (h : Separate t) (hentry : t.members.get? m.request.member = some entry)
    (hrotation : Rotation t entry m.request.action)
    {leaf : String} (he : t.members.get? member = some e) (hold : Holds e leaf)
    (hnew : Holds (advance entry m.request.action) leaf) : member = m.request.member := by
  rcases hrotation.gains hnew with hmine | hfresh
  · exact h.owner member _ e entry leaf he hentry hold hmine
  · exact absurd hold (hfresh member e he)

/-- An accepted mutation keeps leaves apart. -/
lemma Separate.accept (h : Separate t) (hentry : t.members.get? m.request.member = some entry)
    (hrotation : Rotation t entry m.request.action) : Separate (t.accept entry m) where
  owner member member' e e' leaf he he' hl hl' := by
    rcases get?_accept he with ⟨hmine, rfl⟩ | ⟨hother, hold⟩
    · rcases get?_accept he' with ⟨hmine', rfl⟩ | ⟨hother', hold'⟩
      · exact hmine.trans hmine'.symm
      · exact absurd (h.apart hentry hrotation hold' hl' hl) hother'
    · rcases get?_accept he' with ⟨hmine', rfl⟩ | ⟨hother', hold'⟩
      · exact absurd (h.apart hentry hrotation hold hl hl') hother
      · exact h.owner member member' e e' leaf hold hold' hl hl'
  pending member member' e e' he he' hs hs' := by
    -- after a stage it is the new one; otherwise the rotated member has none
    have hidle : ∀ member e, member ≠ m.request.member → t.members.get? member = some e →
        e.staged.isSome = true → (advance entry m.request.action).staged.isSome = false := by
      intro member e hother he hs
      generalize haction : m.request.action = action at hrotation
      cases hrotation with
      | stage idle =>
        rw [idle member e he] at hs
        cases hs
      | retire | abort => rfl
    rcases get?_accept he with ⟨hmine, rfl⟩ | ⟨hother, hold⟩
    · rcases get?_accept he' with ⟨hmine', rfl⟩ | ⟨hother', hold'⟩
      · exact hmine.trans hmine'.symm
      · rw [hidle member' e' hother' hold' hs'] at hs
        cases hs
    · rcases get?_accept he' with ⟨_, rfl⟩ | ⟨_, hold'⟩
      · rw [hidle member e hother hold hs] at hs'
        cases hs'
      · exact h.pending member member' e e' hold hold' hs hs'
  current member e he := by
    rcases get?_accept he with ⟨-, rfl⟩ | ⟨-, hold⟩
    · generalize haction : m.request.action = action at hrotation
      cases hrotation with
      | stage => exact h.current _ entry hentry
      | retire pending =>
        obtain ⟨hne, hfree⟩ := h.staged _ entry _ hentry pending
        simp [advance, contains_insert, hfree, Ne.symm hne]
      | abort pending =>
        obtain ⟨hne, -⟩ := h.staged _ entry _ hentry pending
        simp [advance, contains_insert, h.current _ entry hentry, hne]
    · exact h.current member e hold
  staged member e leaf he hs := by
    rcases get?_accept he with ⟨-, rfl⟩ | ⟨-, hold⟩
    · generalize haction : m.request.action = action at hrotation hs
      cases hrotation with
      | stage idle fresh =>
        cases hs
        have hfree := fresh _ entry hentry
        refine ⟨fun hc => hfree (.inl hc), ?_⟩
        by_contra hr
        rw [Bool.not_eq_false] at hr
        exact hfree (.inr (.inr hr))
      | retire | abort => cases hs
    · exact h.staged member e leaf hold hs

end

/-! ### Runs -/

section

variable {digest : CertificateTrust → String} {bootstrap : OrdMap Nat String}
  {t₀ t t' : CertificateTrust} {m : CertificateMutation} {entry : MemberCertificates}
  {r : CertificateReceipt}

lemma initial_ok (h : initial bootstrap = .ok t₀) :
    bootstrap.values.Nodup ∧ t₀ = ⟨trustSchema, bootstrap, 0,
      bootstrap.mapValues fun _ leaf => ⟨leaf, none, ∅⟩, []⟩ := by
  simp only [initial, bind_eq_ok, refuse_eq_ok, Bool.or_eq_false_iff, bne_eq_false_iff_eq,
    pure_eq_ok] at h
  obtain ⟨_, ⟨-, hlength⟩, rfl⟩ := h
  refine ⟨nodup_of_length_ofList (hlength.trans ?_), rfl⟩
  simp [keys, values]

lemma Separate.initial (h : initial bootstrap = .ok t₀) : Separate t₀ := by
  obtain ⟨hnodup, rfl⟩ := initial_ok h
  -- a member has its leaf of the bootstrap, and no other
  have hmember : ∀ member e, (bootstrap.mapValues fun _ leaf =>
      (⟨leaf, none, ∅⟩ : MemberCertificates)).get? member = some e →
      ∃ leaf, bootstrap.get? member = some leaf ∧ e = ⟨leaf, none, ∅⟩ := by
    intro member e he
    rw [get?_mapValues] at he
    obtain ⟨leaf, hleaf, rfl⟩ := Option.map_eq_some_iff.mp he
    exact ⟨leaf, hleaf, rfl⟩
  refine ⟨fun member member' e e' leaf he he' hl hl' => ?_, fun member member' e e' he he' hs => ?_,
    fun member e he => ?_, fun member e leaf he hs => ?_⟩
  · obtain ⟨own, hown, rfl⟩ := hmember member e he
    obtain ⟨own', hown', rfl⟩ := hmember member' e' he'
    have hsame : own = leaf := by simpa [Holds, contains] using hl
    have hsame' : own' = leaf := by simpa [Holds, contains] using hl'
    rw [hsame] at hown
    rw [hsame'] at hown'
    have hentries : (member, leaf) = (member', leaf) :=
      List.inj_on_of_nodup_map hnodup (mem_entries_iff.mpr hown)
        (mem_entries_iff.mpr hown') rfl
    exact congrArg Prod.fst hentries
  · obtain ⟨own, -, rfl⟩ := hmember member e he
    cases hs
  · obtain ⟨own, -, rfl⟩ := hmember member e he
    rfl
  · obtain ⟨_, -, rfl⟩ := hmember member e he
    cases hs

lemma Separate.step (h : Separate t) (digest : CertificateTrust → String)
    (m : CertificateMutation) : Separate (step digest t m) ∧ Keeps t (step digest t m) := by
  rcases step_cases digest t m with hsame | ⟨_, -, -, hchecked, haccepted⟩
  · rw [hsame]
    exact ⟨h, .refl t⟩
  · obtain ⟨hentry, hrotation, -⟩ := checkNew_ok hchecked
    rw [haccepted]
    exact ⟨h.accept hentry hrotation, .accept hentry hrotation⟩

lemma Separate.run (h : Separate t) (hrun : Run digest t t') : Separate t' ∧ Keeps t t' :=
  hrun.invariant (P := fun t' => Separate t' ∧ Keeps t t') ⟨h, .refl t⟩ fun t₁ m ih _ => by
    obtain ⟨hseparate, hkeeps⟩ := ih.1.step digest m
    exact ⟨hseparate, ih.2.trans hkeeps⟩

/-- The rotation of leaves, over every sequence of calls. -/
theorem rotation_keeps_leaves (hinitial : initial bootstrap = .ok t₀) (hrun : Run digest t₀ t)
    (hlater : Run digest t t') : (∀ member e leaf, t.members.get? member = some e → Holds e leaf →
      (∃ e', t'.members.get? member = some e' ∧ Holds e' leaf) ∧
        ∀ member' e', t'.members.get? member' = some e' → Holds e' leaf → member' = member) ∧
      (∀ member e leaf, t.members.get? member = some e → e.retired.contains leaf = true →
        ∀ member', t'.admits member' leaf = false) ∧
      (∀ member member' e e', t'.members.get? member = some e → t'.members.get? member' = some e' →
        e.staged.isSome = true → e'.staged.isSome = true → member = member') ∧
      t'.members.keys = bootstrap.keys ∧
      ∀ member e, t'.members.get? member = some e → t'.admits member e.current = true ∧
        ∀ member' e', t'.members.get? member' = some e' →
          e'.retired.contains e.current = false := by
  obtain ⟨hseparate, hkeeps⟩ := (Separate.initial hinitial).run hrun
  obtain ⟨hseparate', hkeeps'⟩ := hseparate.run hlater
  refine ⟨fun member e leaf he hl => ?_, fun member e leaf he hr member' => ?_, hseparate'.pending,
    ?_, fun member e he => ⟨?_, fun member' e' he' => ?_⟩⟩
  · obtain ⟨e', he', hl'⟩ := hkeeps'.leaves member e leaf he hl
    exact ⟨⟨e', he', hl'⟩, fun member' e₂ he₂ hl₂ =>
      hseparate'.owner member' member e₂ e' leaf he₂ he' hl₂ hl'⟩
  · obtain ⟨e', he', hr'⟩ := hkeeps'.retired member e leaf he hr
    -- another member never held the leaf, and the owner has retired it
    unfold admits
    rw [Option.any_eq_false]
    intro e₂ he₂
    by_contra hadmitted
    rw [Bool.not_eq_false] at hadmitted
    simp only [admitted, Bool.and_eq_true, Bool.not_eq_true', Bool.or_eq_true, beq_iff_eq]
      at hadmitted
    obtain ⟨hfree, hheld⟩ := hadmitted
    have hl₂ : Holds e₂ leaf := by
      rcases hheld with hc | hs
      · exact .inl hc
      · exact .inr (.inl hs)
    obtain rfl := hseparate'.owner member' member e₂ e' leaf he₂ he' hl₂ (.inr (.inr hr'))
    cases he₂.symm.trans he'
    rw [hr'] at hfree
    cases hfree
  · rw [hkeeps'.members, hkeeps.members, (initial_ok hinitial).2]
    simp [keys, mapValues]
  · simp [admits, he, admitted, hseparate'.current member e he]
  · by_contra hr
    rw [Bool.not_eq_false] at hr
    obtain rfl := hseparate'.owner member member' e e' e.current he he' (.inl rfl) (.inr (.inr hr))
    cases he.symm.trans he'
    rw [hseparate'.current member e he] at hr
    cases hr

/-! ### Replay -/

/-- The trust is what its receipts make of the bootstrap. -/
structure Rebuilt (digest : CertificateTrust → String) (t : CertificateTrust) : Prop where
  schema : t.schema = trustSchema
  revision : t.revision = t.receipts.length
  room : t.receipts.length ≤ maxCertificateCommands
  replayed : ∃ t₀, initial t.bootstrap = .ok t₀ ∧ t.receipts.foldlM (replay digest) t₀ = .ok t
  distinct : t.receipts.Pairwise fun r r' => r.request.commandId ≠ r'.request.commandId

lemma Rebuilt.initial (h : initial bootstrap = .ok t₀) : Rebuilt digest t₀ := by
  obtain ⟨-, rfl⟩ := initial_ok h
  exact ⟨rfl, rfl, Nat.zero_le _, ⟨_, h, rfl⟩, .nil⟩

section

variable (h : Rebuilt digest t)
include h

lemma Rebuilt.accept (hcaller : t.admits m.caller m.callerLeaf = true)
    (hnew : t.original m.request m.caller = .ok none) (hchecked : t.checkNew digest m = .ok entry) :
    Rebuilt digest (t.accept entry m) := by
  obtain ⟨-, -, _⟩ := checkNew_ok hchecked
  obtain ⟨t₀, hinitial, hreplayed⟩ := h.replayed
  refine ⟨h.schema, ?_, ?_, ⟨t₀, hinitial, ?_⟩, ?_⟩
  · simp [CertificateTrust.accept, h.revision]
  · simp only [CertificateTrust.accept, List.length_append, List.length_singleton]
    omega
  · show (t.receipts ++ [t.receipt m]).foldlM (replay digest) t₀ = _
    rw [List.foldlM_append, hreplayed]
    show (replay digest t (t.receipt m) >>= pure) = _
    have happly : apply digest (mutation (t.receipt m)) t = .ok (t.receipt m) (t.accept entry m) :=
      apply_accepted hcaller hnew hchecked
    rw [bind_pure, replay, happly]
    simp
  · show (t.receipts ++ [t.receipt m]).Pairwise _
    rw [List.pairwise_append]
    refine ⟨h.distinct, List.pairwise_singleton _ _, fun r hr r' hr' => ?_⟩
    rw [List.mem_singleton.mp hr']
    exact original_eq_none.mp hnew r hr

lemma Rebuilt.run (hrun : Run digest t t') : Rebuilt digest t' :=
  hrun.invariant (P := Rebuilt digest) h fun t₁ m ih _ => by
    rcases step_cases digest t₁ m with hsame | ⟨_, hcaller, hnew, hchecked, haccepted⟩
    · rw [hsame]
      exact ih
    · rw [haccepted]
      exact ih.accept hcaller hnew hchecked

lemma Rebuilt.validate : t.validate digest = .ok () := by
  obtain ⟨t₀, hinitial, hreplayed⟩ := h.replayed
  have hroom := h.room
  simp only [CertificateTrust.validate, bind_eq_ok, refuse_eq_ok]
  refine ⟨(), ?_, t₀, hinitial, t, hreplayed, by simp⟩
  simp [h.schema, h.revision, hroom]

lemma Rebuilt.find (hr : r ∈ t.receipts) :
    t.receipts.find? (fun entry => entry.request.commandId == r.request.commandId) = some r := by
  have hdistinct := h.distinct
  generalize t.receipts = receipts at hr hdistinct
  induction receipts with
  | nil => cases hr
  | cons first rest ih =>
    obtain ⟨hfirst, hrest⟩ := List.pairwise_cons.mp hdistinct
    rcases List.mem_cons.mp hr with rfl | hmem
    · simp
    · rw [List.find?_cons_of_neg (by simpa using hfirst r hmem)]
      exact ih hmem hrest

lemma Rebuilt.original (hr : r ∈ t.receipts) : t.original r.request r.caller = .ok (some r) := by
  unfold CertificateTrust.original
  rw [h.find hr]
  simp

end

lemma receipts_run (hrun : Run digest t t') : ∀ r ∈ t.receipts, r ∈ t'.receipts :=
  hrun.invariant (P := fun t' => ∀ r ∈ t.receipts, r ∈ t'.receipts) (fun _ hr => hr)
    fun t₁ m ih _ r hr => by
      rcases step_cases digest t₁ m with hsame | ⟨_, -, -, -, haccepted⟩
      · rw [hsame]
        exact ih r hr
      · rw [haccepted]
        exact List.mem_append_left _ (ih r hr)

/-- Every trust that is reached is rebuilt by its receipts; a call that is refused changes
nothing, and a command that is repeated is answered with its receipt. -/
theorem receipts_rebuild_trust (hinitial : initial bootstrap = .ok t₀) (hrun : Run digest t₀ t) :
    t.validate digest = .ok () ∧
      (∀ m e left, apply digest m t = .error e left → left = t) ∧
      ∀ t', Run digest t t' → ∀ r ∈ t.receipts, ∀ leaf probes, t'.admits r.caller leaf = true →
        apply digest ⟨r.request, r.caller, leaf, probes⟩ t' = .ok r t' := by
  have hrebuilt := (Rebuilt.initial hinitial).run hrun
  refine ⟨hrebuilt.validate, fun m e left hrefused => ?_,
      fun t' hlater r hr leaf probes hcaller => ?_⟩
  · have houtcome := apply_outcome digest t m
    rw [hrefused] at houtcome
    cases houtcome with
    | refused => rfl
  · have hfound := (hrebuilt.run hlater).original (receipts_run hlater r hr)
    unfold apply
    rw [run_get_bind, run_check_bind, hcaller]
    show (check (t'.original r.request r.caller) >>= _) t' = _
    rw [run_check_bind, hfound]
    rfl

/-! ### A staged leaf -/

/-- A staged leaf is of the last operation, and a receipt is left for its end. -/
def Reserved (t : CertificateTrust) : Prop :=
  ∀ member e leaf, t.members.get? member = some e → e.staged = some leaf →
    t.receipts.length < maxCertificateCommands ∧ ∃ stage ∈ t.receipts,
      stage.request.member = member ∧ stage.revision = t.revision ∧
        stage.request.action = .stage e.current leaf

lemma Reserved.accept (h : Separate t)
    (hchecked : t.checkNew digest m = .ok entry) : Reserved (t.accept entry m) := by
  obtain ⟨hentry, hrotation, -⟩ := checkNew_ok hchecked
  intro member e leaf he hstaged
  rcases get?_accept he with ⟨rfl, rfl⟩ | ⟨hother, hold⟩
  · cases haction : m.request.action with
    | stage =>
      rw [haction] at hstaged
      cases hstaged
      simp only [checkNew, checkAction, haction, checkStage, bind_eq_ok, okOr_eq_ok, refuse_eq_ok,
        Bool.or_eq_false_iff, decide_eq_false_iff_not, bne_eq_false_iff_eq, pure_eq_ok] at hchecked
      obtain ⟨_, -, entry', -, _, ⟨⟨⟨⟨hcurrent, -⟩, _⟩, -⟩, -⟩, rfl⟩ := hchecked
      refine ⟨?_, t.receipt m, List.mem_append_right _ (List.mem_singleton_self _), rfl, rfl, ?_⟩
      · simp only [CertificateTrust.accept, List.length_append, List.length_singleton]
        omega
      · show m.request.action = .stage entry'.current leaf
        rw [haction, hcurrent]
    | retire | abort =>
      rw [haction] at hstaged
      cases hstaged
  · -- only one leaf is staged, and it is not the one of another member
    have hnone : e.staged = none ∨ entry.staged.isSome = true := by
      generalize m.request.action = action at hrotation
      cases hrotation with
      | stage idle => exact .inl (idle member e hold)
      | retire pending | abort pending => exact .inr (by rw [pending]; rfl)
    rcases hnone with hnone | hpending
    · cases hnone.symm.trans hstaged
    · exact absurd (h.pending _ _ e entry hold hentry (by rw [hstaged]; rfl) hpending) hother

lemma Reserved.run (hinitial : initial bootstrap = .ok t₀) (hrun : Run digest t₀ t) :
    Separate t ∧ Reserved t := by
  refine hrun.invariant (P := fun t => Separate t ∧ Reserved t) ⟨.initial hinitial, ?_⟩
    fun t₁ m ih _ => ⟨(ih.1.step digest m).1, ?_⟩
  · obtain ⟨-, rfl⟩ := initial_ok hinitial
    intro member e leaf he hstaged
    obtain ⟨_, -, rfl⟩ := Option.map_eq_some_iff.mp ((get?_mapValues _ _ _).symm.trans he)
    cases hstaged
  · rcases step_cases digest t₁ m with hsame | ⟨_, -, -, hchecked, haccepted⟩
    · rw [hsame]
      exact ih.2
    · rw [haccepted]
      exact .accept ih.1 hchecked

/-- A staged leaf can be aborted in every trust that is reached, whatever was asked in between:
a new command of any admitted caller is accepted, and there is room for its receipt. -/
theorem staged_leaf_abortable {e : MemberCertificates} {leaf : String}
    (hinitial : initial bootstrap = .ok t₀) (hrun : Run digest t₀ t)
    (hmember : t.members.get? member = some e) (hstaged : e.staged = some leaf) :
    t.receipts.length < maxCertificateCommands ∧ ∃ stage ∈ t.receipts,
      stage.request.member = member ∧ stage.request.action = .stage e.current leaf ∧
      ∀ id caller callerLeaf, isBlank id = false → id.utf8ByteSize ≤ 128 →
        (∀ r ∈ t.receipts, r.request.commandId ≠ id) → t.admits caller callerLeaf = true →
        ∃ r t', apply digest ⟨⟨id, t.revision, member,
          .abort stage.request.commandId e.current leaf⟩, caller, callerLeaf, []⟩ t = .ok r t' ∧
            t'.receipts = t.receipts ++ [r] := by
  obtain ⟨hroom, stage, hstage, hof, hrevision, haction⟩ :=
    (Reserved.run hinitial hrun).2 member e leaf hmember hstaged
  have hfind := ((Rebuilt.initial hinitial).run hrun).find hstage
  refine ⟨hroom, stage, hstage, hof, haction,
    fun id caller callerLeaf hblank hsize hfresh hcaller => ?_⟩
  refine ⟨_, t.accept e _, apply_accepted hcaller (original_eq_none.mpr hfresh) ?_, rfl⟩
  simp [checkNew, checkAction, checkPending, hmember, hfind, hof, hrevision, haction,
      hstaged, hblank,
    hsize, hroom]

end

/-! ### A rotation that is aborted -/

namespace Trio

def leaf (c : Char) : String := "sha256:" ++ String.ofList (List.replicate 64 c)

def bootstrap : OrdMap Nat String := OrdMap.ofList [(1, leaf '1'), (2, leaf '2'), (3, leaf '3')]

def stage : CertificateMutation :=
  ⟨⟨"stage", 0, 1, .stage (leaf '1') (leaf 'a')⟩, 2, leaf '2', []⟩

def abort : CertificateMutation :=
  ⟨⟨"abort", 1, 1, .abort "stage" (leaf '1') (leaf 'a')⟩, 3, leaf '3', []⟩

/-- The trust of three members, if their leaves are accepted. -/
def start : CertificateTrust := ⟨trustSchema, bootstrap, 0,
  bootstrap.mapValues fun _ leaf => ⟨leaf, none, ∅⟩, []⟩

def ended : CertificateTrust := [stage, abort].foldl (step fun _ => "") start

end Trio

/-- The leaf that was staged for the first member and aborted is admitted for none. -/
theorem aborted_leaf_never_admitted :
    Trio.ended.receipts.length = 2 ∧
      ∀ member, Trio.ended.admits member (Trio.leaf 'a') = false := by
  have hinitial : initial Trio.bootstrap = .ok Trio.start := by decide +kernel
  have hrun : Run (fun _ => "") Trio.start Trio.ended :=
    Reaches.of_list _ .refl (by simp [Reaches.AllowedAlong])
  have hretired : Trio.ended.receipts.length = 2 ∧
      (Trio.ended.members.get? 1).map (·.retired.contains (Trio.leaf 'a')) = some true := by
    decide +kernel
  obtain ⟨e, he, hr⟩ := Option.map_eq_some_iff.mp hretired.2
  exact ⟨hretired.1, (rotation_keeps_leaves hinitial hrun .refl).2.1 1 e _ he hr⟩

/-- The trust after a stage and its abort. -/
theorem aborted_trust_validates :
    Trio.ended.receipts.length = 2 ∧ Trio.ended.validate (fun _ => "") = .ok () := by
  have hinitial : initial Trio.bootstrap = .ok Trio.start := by decide +kernel
  have hrun : Run (fun _ => "") Trio.start Trio.ended :=
    Reaches.of_list _ .refl (by simp [Reaches.AllowedAlong])
  exact ⟨by decide +kernel, (receipts_rebuild_trust hinitial hrun).1⟩

/-- The trust of three members with one leaf staged. -/
theorem staged_trio_abortable : ∃ stage ∈ (step (fun _ => "") Trio.start Trio.stage).receipts,
    stage.request.action = .stage (Trio.leaf '1') (Trio.leaf 'a') := by
  have hinitial : initial Trio.bootstrap = .ok Trio.start := by decide +kernel
  have hmember : (step (fun _ => "") Trio.start Trio.stage).members.get? 1 =
      some ⟨Trio.leaf '1', some (Trio.leaf 'a'), ∅⟩ := by
    decide +kernel
  obtain ⟨-, stage, hstage, -, haction, -⟩ :=
    staged_leaf_abortable hinitial (.tail Trio.stage .refl trivial) hmember rfl
  exact ⟨stage, hstage, haction⟩

end CertificateTrust

end RoboGuide.Replication
