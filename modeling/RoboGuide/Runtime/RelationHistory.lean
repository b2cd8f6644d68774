import RoboGuide.Runtime.Attempts

/-!
# `RoboGuide.Runtime.RelationHistory`: what the latches of a relation mean

A relation's recorded state, its fence and its proof are written when it is read again, and
it is read again only when something about one of its slots was observed. `Guarded` is what
keeps the three truthful in between: a state that asks for reconciliation is fenced, and it
is never out of date in the sense that both endpoints are live. `RelationStep` says what any
call may do to them: relations are never dropped, a fence falls only by an acknowledgement of
a satisfied relation, and a new proof comes from a state in which both endpoints were live.
-/

namespace RoboGuide.Runtime

open Domain Lib Fallible RuntimeExecutionManager AttemptLedger OrdMap Option

variable {m : RuntimeExecutionManager} {r : RuntimeExecutionRelation} {slot : ExecutionSlot}
  {keys : List RelationKey} {k : RelationKey}

/-! ### Satisfied relations -/

def AttemptLedger.slotLive (a : AttemptLedger) (slot : ExecutionSlot) : Bool :=
  (a.currentStatus slot).any ExecutionStatus.isLive

structure Coordinated (a : AttemptLedger) (r : RuntimeExecutionRelation) : Prop where
  target : a.slotLive r.targetKey = true
  source : a.slotLive r.sourceKey = true

lemma Coordinated.of_satisfied
    (h : m.deriveRelationState r = .satisfied) : Coordinated m.toAttemptLedger r := by
  have hlive : ∀ {slot status}, m.currentStatus slot = some status → status.isLive = true →
      m.slotLive slot = true := by
    intro slot status hs hl
    rw [slotLive, hs, any_some, hl]
  -- only a live target leaves the decision to the source, and only a live source satisfies
  have hsource : m.deriveLiveState r = .satisfied → m.slotLive r.sourceKey = true := by
    intro hd
    rw [deriveLiveState] at hd
    split at hd
    · split at hd <;> first | exact hlive ‹_› rfl | cases hd
    · split at hd
      · exact hlive ‹_› rfl
      · exact hlive ‹_› rfl
      · cases hd
      · cases hd
      · cases hd
      · cases hd
      · rw [missingSpatialEvidenceState] at hd
        split at hd <;> cases hd
      · rw [missingSpatialEvidenceState] at hd
        split at hd <;> cases hd
    all_goals cases hd
  rw [deriveRelationState] at h
  split at h
  · next hs => exact ⟨hlive hs rfl, hsource h⟩
  · next hs => exact ⟨hlive hs rfl, hsource h⟩
  · cases h
  · split at h <;> cases h
  · cases h
  · cases h
  · cases h
  · cases h

lemma slotLive_cases {a : AttemptLedger} (h : a.slotLive slot = true) :
    a.currentStatus slot = some .accepted ∨ a.currentStatus slot = some .running := by
  rw [slotLive] at h
  cases hs : a.currentStatus slot with
  | none => simp [hs] at h
  | some status =>
    rw [hs, any_some] at h
    cases status <;> first | exact .inl rfl | exact .inr rfl | cases h

lemma Coordinated.satisfied
    (h : Coordinated m.toAttemptLedger r) (hkind : r.kind = .requiresActive) :
    m.deriveRelationState r = .satisfied := by
  have hsource : m.deriveLiveState r = .satisfied := by
    rw [deriveLiveState, hkind]
    rcases slotLive_cases h.source with hs | hs <;> simp [hs]
  rw [deriveRelationState]
  rcases slotLive_cases h.target with hs | hs <;> simp [hs, hsource]

/-! ### Reading relations again -/

structure RelationsRead (keys : List RelationKey) (m m' : RuntimeExecutionManager) : Prop where
  frame : Refreshed m m'
  fences : ∀ k, m.relationFences.contains k = true → m'.relationFences.contains k = true
  newFence : ∀ k, m'.relationFences.contains k = true → m.relationFences.contains k = true ∨
    ∃ r, m.relations.get? k = some r
  complete : ∀ k, m.relationStates.contains k = true → m'.relationStates.contains k = true
  states : ∀ k state, m'.relationStates.get? k = some state →
    (m.relationStates.get? k = some state ∧ (k ∈ keys → m.relations.get? k = none)) ∨
    ∃ r, m.relations.get? k = some r ∧
      (r.kind = .requiresActive → Coordinated m.toAttemptLedger r → state = .satisfied) ∧
      (state.requiresReconciliation = true → m'.relationFences.contains k = true)
  proofs : ∀ k id, m'.relationProofs.get? k = some id → m.relationProofs.get? k = some id ∨
    (k ∈ keys ∧ ∃ r, m.relations.get? k = some r ∧
      m.activeExecutions.get? r.targetKey = some id ∧ Coordinated m.toAttemptLedger r)

lemma RelationsRead.nil (m : RuntimeExecutionManager) : RelationsRead [] m m :=
  ⟨.refl m, fun _ h => h, fun _ h => .inl h, fun _ h => h, fun _ _ h => .inl ⟨h, by simp⟩,
    fun _ _ h => .inl h⟩

lemma relationsRead_refreshRelation (m : RuntimeExecutionManager) (key : RelationKey) :
    RelationsRead [key] m (m.refreshRelation key).1 := by
  have hframe := refreshed_refreshRelation m key
  rw [refreshRelation] at hframe ⊢
  cases hrel : m.relations.get? key with
  | none =>
    refine ⟨.refl m, fun _ h => h, fun _ h => .inl h, fun _ h => h,
      fun k state h => .inl ⟨h, fun hk => ?_⟩, fun _ _ h => .inl h⟩
    rw [List.mem_singleton.mp hk, hrel]
  | some relation =>
    rw [hrel] at hframe
    refine ⟨hframe, fun k h => ?_, fun k h => ?_, fun k h => ?_, fun k state h => ?_,
      fun k id h => ?_⟩
    · show (if _ then m.relationFences.insert key () else m.relationFences).contains k = true
      split
      · rw [contains_insert, h, Bool.or_true]
      · exact h
    · have hf : (if (m.deriveRelationState relation).requiresReconciliation
          then m.relationFences.insert key () else m.relationFences).contains k = true := h
      by_cases hk : k = key
      · rw [hk]
        exact .inr ⟨relation, hrel⟩
      · left
        split at hf
        · rw [contains_insert] at hf
          simpa [hk] using hf
        · exact hf
    · show (m.relationStates.insert key (m.deriveRelationState relation)).contains k = true
      rw [contains_insert, h, Bool.or_true]
    · rcases insert_cases h with ⟨rfl, rfl⟩ | ⟨hk, hs⟩
      · refine .inr ⟨relation, hrel, fun hkind hc => hc.satisfied hkind, fun hrequires => ?_⟩
        · show (if (m.deriveRelationState relation).requiresReconciliation
            then m.relationFences.insert k () else m.relationFences).contains k = true
          rw [if_pos hrequires, contains_insert]
          simp
      · exact .inl ⟨hs, fun hmem => absurd (List.mem_singleton.mp hmem) hk⟩
    · have hp : (m.recordRelation key relation).relationProofs.get? k = some id := h
      rw [recordRelation] at hp
      dsimp only at hp
      split at hp
      · next target hsatisfied hactive =>
        rcases insert_cases hp with ⟨rfl, rfl⟩ | ⟨-, hp⟩
        · exact .inr ⟨List.mem_singleton_self k, relation, hrel, hactive, .of_satisfied hsatisfied⟩
        · exact .inl hp
      · exact .inl hp

lemma RelationsRead.cons {key : RelationKey}
    {m₁ m₂ : RuntimeExecutionManager} (h₁ : RelationsRead [key] m m₁)
    (h₂ : RelationsRead keys m₁ m₂) : RelationsRead (key :: keys) m m₂ := by
  have hrel := h₁.frame.relations
  have hatt := h₁.frame.attempts
  refine ⟨h₁.frame.trans h₂.frame, fun k h => h₂.fences k (h₁.fences k h), fun k h => ?_,
    fun k h => h₂.complete k (h₁.complete k h), fun k state h => ?_, fun k id h => ?_⟩
  · rcases h₂.newFence k h with h | h
    · exact h₁.newFence k h
    · rw [hrel] at h
      exact .inr h
  · rcases h₂.states k state h with ⟨hs, hnone⟩ | ⟨r, hr, hlive, hfence⟩
    · rcases h₁.states k state hs with ⟨hs', hnone'⟩ | ⟨r, hr, hlive, hfence⟩
      · refine .inl ⟨hs', fun hmem => ?_⟩
        rcases List.mem_cons.mp hmem with rfl | hmem
        · exact hnone' (List.mem_singleton_self k)
        · rw [← hrel]
          exact hnone hmem
      · exact .inr ⟨r, hr, hlive, fun hrequires => h₂.fences k (hfence hrequires)⟩
    · rw [hrel] at hr
      rw [hatt] at hlive
      exact .inr ⟨r, hr, hlive, hfence⟩
  · rcases h₂.proofs k id h with h | ⟨hmem, r, hr, hactive, hc⟩
    · rcases h₁.proofs k id h with h | ⟨hmem, hr⟩
      · exact .inl h
      · exact .inr ⟨List.mem_cons.mpr (.inl (List.mem_singleton.mp hmem)), hr⟩
    · rw [hrel] at hr
      rw [hatt] at hactive hc
      exact .inr ⟨List.mem_cons_of_mem _ hmem, r, hr, hactive, hc⟩

lemma relationsRead_refreshKeys (m : RuntimeExecutionManager) (keys : List RelationKey) :
    RelationsRead keys m (m.refreshKeys keys).1 := by
  induction keys generalizing m with
  | nil => exact .nil m
  | cons key keys ih => exact (relationsRead_refreshRelation m key).cons (ih _)

lemma mem_relationKeysAt : k ∈ m.relationKeysAt slot ↔
      ∃ r, m.relations.get? k = some r ∧ (r.sourceKey = slot ∨ r.targetKey = slot) := by
  rw [relationKeysAt, List.mem_map]
  constructor
  · rintro ⟨⟨k', r⟩, hmem, rfl⟩
    obtain ⟨hmem, htouches⟩ := List.mem_filter.mp hmem
    exact ⟨r, mem_entries_iff.mp hmem, by simpa using htouches⟩
  · rintro ⟨r, hr, htouches⟩
    refine ⟨(k, r), List.mem_filter.mpr ⟨mem_entries_iff.mpr hr, ?_⟩, rfl⟩
    simpa using htouches

/-! ### The invariant -/

structure RelationsKnown (m : RuntimeExecutionManager) : Prop where
  /-- A current attempt was dispatched for its slot. -/
  slots : ∀ slot id, m.activeExecutions.get? slot = some id →
    ∃ context, m.executions.get? id = some context ∧ commandSlot context.command = slot
  keyed : ∀ k r, m.relations.get? k = some r → r.key = k
  contract : ∀ k r, m.relations.get? k = some r → validateRelationContract r = .ok ()
  complete : ∀ k r, m.relations.get? k = some r → m.relationStates.contains k = true
  covered : ∀ k state, m.relationStates.get? k = some state → ∃ r, m.relations.get? k = some r
  fenceKnown : ∀ k, m.relationFences.contains k = true → ∃ r, m.relations.get? k = some r
  /-- A proof names an attempt of its relation's target slot. -/
  proofKnown : ∀ k id, m.relationProofs.get? k = some id → ∃ r context,
    m.relations.get? k = some r ∧ m.executions.get? id = some context ∧
      commandSlot context.command = r.targetKey
  fenced : ∀ k r state, m.relations.get? k = some r → r.kind = .requiresActive →
    m.relationStates.get? k = some state → state.requiresReconciliation = true →
    m.relationFences.contains k = true

/-- What keeps the latches truthful between two readings of a relation: a state that asks
for reconciliation does not outlive the return of both endpoints. -/
structure Guarded (m : RuntimeExecutionManager) : Prop extends RelationsKnown m where
  stale : ∀ k r state, m.relations.get? k = some r → r.kind = .requiresActive →
    m.relationStates.get? k = some state → state.requiresReconciliation = true →
    ¬ Coordinated m.toAttemptLedger r

structure RelationStep (m : RuntimeExecutionManager) (call : RuntimeCall)
    (m' : RuntimeExecutionManager) : Prop where
  guarded : Guarded m'
  relations : ∀ k r, m.relations.get? k = some r → m'.relations.get? k = some r
  fences : ∀ k, m.relationFences.contains k = true → m'.relationFences.contains k = true ∨
    ∃ group relationId r, call = .acknowledgeRelationReconciliation group relationId ∧
      k = toLex (group, relationId) ∧ m.relations.get? k = some r ∧
      m.deriveRelationState r = .satisfied
  proofs : ∀ k id, m'.relationProofs.get? k = some id → m.relationProofs.get? k = some id ∨
    ∃ r, m'.relations.get? k = some r ∧ m'.activeExecutions.get? r.targetKey = some id ∧
      Coordinated m'.toAttemptLedger r

section

variable {m' : RuntimeExecutionManager} {call : RuntimeCall} {id : ExecutionId}

lemma Guarded.slot_unique (h : Guarded m) {slot' : ExecutionSlot}
    (hslot : m.activeExecutions.get? slot = some id)
    (hslot' : m.activeExecutions.get? slot' = some id) : slot = slot' := by
  obtain ⟨_, hc, rfl⟩ := h.slots slot id hslot
  obtain ⟨_, hc', rfl⟩ := h.slots slot' id hslot'
  rw [hc] at hc'
  cases hc'
  rfl

lemma RelationsKnown.congr (h : RelationsKnown m) (hex : m'.executions = m.executions)
    (hactive : m'.activeExecutions = m.activeExecutions) (hrel : m'.relations = m.relations)
    (hstates : m'.relationStates = m.relationStates)
    (hfences : m'.relationFences = m.relationFences)
    (hproofs : m'.relationProofs = m.relationProofs) : RelationsKnown m' := by
  refine ⟨?_, ?_, ?_, ?_, ?_, ?_, ?_, ?_⟩
  · rw [hactive, hex]
    exact h.slots
  · rw [hrel]
    exact h.keyed
  · rw [hrel]
    exact h.contract
  · rw [hrel, hstates]
    exact h.complete
  · rw [hrel, hstates]
    exact h.covered
  · rw [hrel, hfences]
    exact h.fenceKnown
  · rw [hrel, hproofs, hex]
    exact h.proofKnown
  · rw [hrel, hstates, hfences]
    exact h.fenced

/-- The part of the registry the invariant and the latches depend on. -/
def relationView (m : RuntimeExecutionManager) :=
  (m.executions, m.activeExecutions, m.executionStatus, m.relations, m.relationStates,
    m.relationFences, m.relationProofs)

lemma Coordinated.of_view (h : relationView m' = relationView m)
    (hc : Coordinated m'.toAttemptLedger r) : Coordinated m.toAttemptLedger r := by
  simp only [relationView, Prod.mk.injEq] at h
  obtain ⟨-, hactive, hstatus, -⟩ := h
  have hlive : ∀ slot, m'.slotLive slot = m.slotLive slot := by
    intro slot
    rw [slotLive, slotLive, currentStatus, currentStatus, hactive]
    show Option.any _ (Option.bind _ fun id => m'.executionStatus.get? id) = _
    rw [hstatus]
    rfl
  exact ⟨hlive _ ▸ hc.target, hlive _ ▸ hc.source⟩

lemma RelationStep.of_view (hg : Guarded m) (h : relationView m' = relationView m) :
    RelationStep m call m' := by
  have hcoordinated {r} := Coordinated.of_view (r := r) h
  simp only [relationView, Prod.mk.injEq] at h
  obtain ⟨hex, hactive, -, hrel, hstates, hfences, hproofs⟩ := h
  refine ⟨⟨hg.toRelationsKnown.congr hex hactive hrel hstates hfences hproofs,
    fun k r state hr hkind hs hrequires hc => ?_⟩, fun k r hr => by rw [hrel, hr],
    fun k hk => .inl (by rw [hfences, hk]), fun k id hid => .inl (by rw [← hproofs, hid])⟩
  rw [hrel] at hr
  rw [hstates] at hs
  exact hg.stale k r state hr hkind hs hrequires (hcoordinated hc)

/-- Reading relations again restores the invariant, provided that every relation whose
endpoints came alive is among them. -/
lemma Guarded.of_read (hread : RelationsRead keys m m') (h : RelationsKnown m)
    (hstale : ∀ k r state, m.relations.get? k = some r → r.kind = .requiresActive →
      m.relationStates.get? k = some state → state.requiresReconciliation = true →
      Coordinated m.toAttemptLedger r → k ∈ keys) : Guarded m' := by
  have hatt := hread.frame.attempts
  have hrel := hread.frame.relations
  refine ⟨⟨?_, ?_, ?_, fun k r hr => ?_, fun k state hs => ?_, fun k hk => ?_, fun k id hp => ?_,
    fun k r state hr hkind hs hrequires => ?_⟩, fun k r state hr hkind hs hrequires hc => ?_⟩
  · rw [hatt]
    exact h.slots
  · rw [hrel]
    exact h.keyed
  · rw [hrel]
    exact h.contract
  · rw [hrel] at hr
    exact hread.complete k (h.complete k r hr)
  · rw [hrel]
    rcases hread.states k state hs with ⟨hs, -⟩ | ⟨r, hr, -⟩
    · exact h.covered k state hs
    · exact ⟨r, hr⟩
  · rw [hrel]
    rcases hread.newFence k hk with hk | hk
    · exact h.fenceKnown k hk
    · exact hk
  · rw [hrel, hatt]
    rcases hread.proofs k id hp with hp | ⟨-, r, hr, hactive, -⟩
    · exact h.proofKnown k id hp
    · obtain ⟨context, hc, hslot⟩ := h.slots _ _ hactive
      exact ⟨r, context, hr, hc, hslot⟩
  · rw [hrel] at hr
    rcases hread.states k state hs with ⟨hs, -⟩ | ⟨-, -, -, hfence⟩
    · exact hread.fences k (h.fenced k r state hr hkind hs hrequires)
    · exact hfence hrequires
  · rw [hrel] at hr
    rw [hatt] at hc
    rcases hread.states k state hs with ⟨hs, hnone⟩ | ⟨r', hr', hlive, -⟩
    · have hmem := hstale k r state hr hkind hs hrequires hc
      rw [hnone hmem] at hr
      cases hr
    · rw [hr] at hr'
      cases hr'
      rw [hlive hkind hc] at hrequires
      cases hrequires

/-! ### Statuses -/

lemma slotLive_insert {a a' : AttemptLedger} {status : ExecutionStatus}
    (hactive : a'.activeExecutions = a.activeExecutions)
    (hstatus : a'.executionStatus = a.executionStatus.insert id status) (slot : ExecutionSlot) :
    a'.slotLive slot =
      if a.activeExecutions.get? slot = some id then status.isLive else a.slotLive slot := by
  rw [slotLive, slotLive, currentStatus, currentStatus, hactive]
  cases hget : a.activeExecutions.get? slot with
  | none => rfl
  | some id' =>
    show Option.any _ (a'.executionStatus.get? id') = _
    rw [hstatus, get?_insert]
    by_cases hid : id' = id
    · simp [hid]
    · simp [hid, statusOf]

/-- The status of an attempt is written, and the relations of its slot are read again when
the attempt is current. -/
structure StatusWritten (m : RuntimeExecutionManager) (id : ExecutionId)
    (status : ExecutionStatus) (m₁ : RuntimeExecutionManager) : Prop where
  executions : m₁.executions = m.executions
  active : m₁.activeExecutions = m.activeExecutions
  statuses : m₁.executionStatus = m.executionStatus.insert id status
  ledger : m₁.toRelationLedger = m.toRelationLedger

variable {m₁ : RuntimeExecutionManager} {status : ExecutionStatus}
  {relation : RuntimeExecutionRelation}

lemma StatusWritten.known (hw : StatusWritten m id status m₁) (h : RelationsKnown m) :
    RelationsKnown m₁ :=
  h.congr hw.executions hw.active (congrArg (·.relations) hw.ledger)
    (congrArg (·.relationStates) hw.ledger) (congrArg (·.relationFences) hw.ledger)
    (congrArg (·.relationProofs) hw.ledger)

lemma StatusWritten.revived (hg : Guarded m) (hw : StatusWritten m id status m₁)
    {state : ExecutionRelationState}
    (hr : m.relations.get? k = some r) (hkind : r.kind = .requiresActive)
    (hs : m.relationStates.get? k = some state) (hrequires : state.requiresReconciliation = true)
    (hc : Coordinated m₁.toAttemptLedger r) : m.activeExecutions.get? r.targetKey = some id ∨
      m.activeExecutions.get? r.sourceKey = some id := by
  by_contra hother
  rw [not_or] at hother
  obtain ⟨htarget, hsource⟩ := hc
  rw [slotLive_insert hw.active hw.statuses, if_neg hother.1] at htarget
  rw [slotLive_insert hw.active hw.statuses, if_neg hother.2] at hsource
  exact hg.stale k r state hr hkind hs hrequires ⟨htarget, hsource⟩

/-- The attempt is nobody's current attempt: nothing has to be read again. -/
lemma RelationStep.of_unused (hg : Guarded m) (hw : StatusWritten m id status m₁)
    (hunused : ∀ slot, m.activeExecutions.get? slot ≠ some id) : RelationStep m call m₁ := by
  have hledger := hw.ledger
  refine ⟨⟨hw.known hg.toRelationsKnown, fun k r state hr hkind hs hrequires hc => ?_⟩, ?_, ?_, ?_⟩
  · rw [hledger] at hr hs
    rcases hw.revived hg hr hkind hs hrequires hc with h | h
    · exact hunused _ h
    · exact hunused _ h
  · intro k r hr
    rw [hledger, hr]
  · intro k hk
    rw [hledger]
    exact .inl hk
  · intro k pid hp
    rw [hledger] at hp
    exact .inl hp

lemma RelationStep.of_current (hg : Guarded m) (hw : StatusWritten m id status m₁)
    (hcurrent : m.activeExecutions.get? slot = some id) :
    RelationStep m call (m₁.refreshRelationsForSlot slot).1 ∧ (status.isLive = false → ∀ k pid,
        (m₁.refreshRelationsForSlot slot).1.relationProofs.get? k = some pid →
          m.relationProofs.get? k = some pid) := by
  have hread := relationsRead_refreshKeys m₁ (m₁.relationKeysAt slot)
  have hledger := hw.ledger
  have hatt := hread.frame.attempts
  rw [refreshRelationsForSlot]
  refine ⟨⟨.of_read hread (hw.known hg.toRelationsKnown)
    fun k r state hr hkind hs hrequires hc => ?_, ?_, ?_, ?_⟩, ?_⟩
  · have htouches : r.sourceKey = slot ∨ r.targetKey = slot := by
      rw [hledger] at hr hs
      rcases hw.revived hg hr hkind hs hrequires hc with h | h
      · exact .inr (hg.slot_unique h hcurrent)
      · exact .inl (hg.slot_unique h hcurrent)
    exact mem_relationKeysAt.mpr ⟨r, hr, htouches⟩
  · intro k r hr
    rw [hread.frame.relations, hledger, hr]
  · intro k hk
    refine .inl (hread.fences k ?_)
    rw [hledger]
    exact hk
  · intro k pid hp
    rcases hread.proofs k pid hp with hp | ⟨-, r, hr, hactive, hc⟩
    · rw [hledger] at hp
      exact .inl hp
    · refine .inr ⟨r, ?_, ?_, ?_⟩
      · rw [hread.frame.relations, hr]
      · rw [hatt, hactive]
      · rw [hatt]
        exact hc
  · intro hdead k pid hp
    rcases hread.proofs k pid hp with hp | ⟨hmem, r, hr, -, hc⟩
    · rw [hledger] at hp
      exact hp
    · -- one endpoint is the attempt itself, and it is not live
      exfalso
      obtain ⟨r', hr', htouches⟩ := mem_relationKeysAt.mp hmem
      rw [hr] at hr'
      cases hr'
      have hlive := slotLive_insert hw.active hw.statuses slot
      rw [if_pos hcurrent, hdead] at hlive
      rcases htouches with rfl | rfl
      · rw [hc.source] at hlive
        cases hlive
      · rw [hc.target] at hlive
        cases hlive

/-! ### The other calls -/

lemma RelationStep.then_view (h : RelationStep m call m₁)
    (hview : relationView m' = relationView m₁) : RelationStep m call m' := by
  have h' : RelationStep m₁ call m' := .of_view h.guarded hview
  have hback {r} := Coordinated.of_view (r := r) hview.symm
  simp only [relationView, Prod.mk.injEq] at hview
  obtain ⟨-, hactive, -, hrel, -, hfences, hproofs⟩ := hview
  refine ⟨h'.guarded, fun k r hr => h'.relations k r (h.relations k r hr), fun k hk => ?_,
    fun k pid hp => ?_⟩
  · rw [hfences]
    exact h.fences k hk
  · rw [hproofs] at hp
    refine (h.proofs k pid hp).imp_right ?_
    rintro ⟨r, hr, ha, hc⟩
    exact ⟨r, by rw [hrel, hr], by rw [hactive, ha], hback hc⟩

lemma Guarded.addRelation (hg : Guarded m)
    (hcontract : validateRelationContract relation = .ok ()) : Guarded (m.addRelation relation) ∧
      ∀ k r, m.relations.get? k = some r → (m.addRelation relation).relations.get? k = some r := by
  rw [RuntimeExecutionManager.addRelation]
  split
  · exact ⟨hg, fun _ _ h => h⟩
  next hnew =>
  have hkeep : ∀ k r, m.relations.get? k = some r →
      (m.relations.insert relation.key relation).get? k = some r := by
    intro k r hr
    have hne : k ≠ relation.key := by
      rintro rfl
      exact hnew (contains_eq_true_iff.mpr ⟨r, hr⟩)
    rw [get?_insert_of_ne hne, hr]
  have hstate : ∀ {k state}, (m.relationStates.insert relation.key .dormant).get? k =
      some state → state.requiresReconciliation = true →
      m.relationStates.get? k = some state ∧ k ≠ relation.key := by
    intro k state hs hrequires
    rcases insert_cases hs with ⟨-, rfl⟩ | ⟨hne, hs⟩
    · cases hrequires
    · exact ⟨hs, hne⟩
  have hrelation : ∀ {k r}, (m.relations.insert relation.key relation).get? k = some r →
      (k = relation.key ∧ r = relation) ∨ (k ≠ relation.key ∧ m.relations.get? k = some r) := by
    intro k r hr
    exact (insert_cases hr).imp_left fun hnew => ⟨hnew.1, hnew.2.symm⟩
  refine ⟨⟨⟨hg.slots, fun k r hr => ?_, fun k r hr => ?_, fun k r hr => ?_, fun k state hs => ?_,
    fun k hk => ?_, fun k id hp => ?_, fun k r state hr hkind hs hrequires => ?_⟩,
    fun k r state hr hkind hs hrequires => ?_⟩, hkeep⟩
  · rcases hrelation hr with ⟨rfl, rfl⟩ | ⟨-, hr⟩
    · rfl
    · exact hg.keyed k r hr
  · rcases hrelation hr with ⟨rfl, rfl⟩ | ⟨-, hr⟩
    · exact hcontract
    · exact hg.contract k r hr
  · show (m.relationStates.insert relation.key .dormant).contains k = true
    rw [contains_insert]
    rcases hrelation hr with ⟨rfl, rfl⟩ | ⟨-, hr⟩
    · simp
    · rw [hg.complete k r hr, Bool.or_true]
  · have hs' : (m.relationStates.insert relation.key .dormant).get? k = some state := hs
    show ∃ r, (m.relations.insert relation.key relation).get? k = some r
    by_cases hk : k = relation.key
    · rw [hk]
      exact ⟨relation, get?_insert_self _ _ _⟩
    · rw [get?_insert_of_ne hk] at hs'
      obtain ⟨r, hr⟩ := hg.covered k state hs'
      exact ⟨r, hkeep k r hr⟩
  · obtain ⟨r, hr⟩ := hg.fenceKnown k hk
    exact ⟨r, hkeep k r hr⟩
  · obtain ⟨r, context, hr, hc⟩ := hg.proofKnown k id hp
    exact ⟨r, context, hkeep k r hr, hc⟩
  · obtain ⟨hs, hne⟩ := hstate hs hrequires
    rcases hrelation hr with ⟨hk, -⟩ | ⟨-, hr⟩
    · exact absurd hk hne
    · exact hg.fenced k r state hr hkind hs hrequires
  · obtain ⟨hs, hne⟩ := hstate hs hrequires
    rcases hrelation hr with ⟨hk, -⟩ | ⟨-, hr⟩
    · exact absurd hk hne
    · exact hg.stale k r state hr hkind hs hrequires

lemma resolveRelation_contract (group : ExecutionGroupId) (mission : MissionId)
    (modes : OrdMap TaskId ExecutionCouplingMode) (specification : ExecutionRelationSpec) :
    validateRelationContract (resolveRelation group mission modes specification) = .ok () := by
  have haccepted := specification.accepted
  simp only [validateRelationContract, resolveRelation, ExecutionRelationSpec.kind,
      bne_self_eq_false,
    refuse_false, haccepted]
  rfl

section

variable (hg : Guarded m)
include hg

lemma RelationStep.addRelations {relations : List RuntimeExecutionRelation}
    (hcontracts : ∀ relation ∈ relations, validateRelationContract relation = .ok ()) :
    RelationStep m call (m.addRelations relations) := by
  have hkeep : (Guarded (m.addRelations relations) ∧ ∀ k r, m.relations.get? k = some r →
      (m.addRelations relations).relations.get? k = some r) ∧
      (m.addRelations relations).relationFences = m.relationFences ∧
        (m.addRelations relations).relationProofs = m.relationProofs := foldl_keeps
    (P := fun m' : RuntimeExecutionManager => (Guarded m' ∧ ∀ k r,
      m.relations.get? k = some r → m'.relations.get? k = some r) ∧
        m'.relationFences = m.relationFences ∧ m'.relationProofs = m.relationProofs)
    (fun m' relation hmem h => by
      obtain ⟨⟨hg', hsub⟩, hfences, hproofs⟩ := h
      obtain ⟨hg'', hsub'⟩ := hg'.addRelation (hcontracts relation hmem)
      refine ⟨⟨hg'', fun k r hr => hsub' k r (hsub k r hr)⟩, ?_, ?_⟩
      · rw [← hfences, addRelation]
        split <;> rfl
      · rw [← hproofs, addRelation]
        split <;> rfl)
    ⟨⟨hg, fun _ _ h => h⟩, rfl, rfl⟩
  obtain ⟨⟨hg', hsub⟩, hfences, hproofs⟩ := hkeep
  refine ⟨hg', hsub, fun k hk => .inl ?_, fun k pid hp => .inl ?_⟩
  · rw [hfences, hk]
  · rw [← hproofs, hp]

lemma RelationStep.recordDispatch {command : ExecutionCommand}
    (hroute : Routable m.toAttemptLedger id command) (resources : List ResourceId) :
    RelationStep m call (m.recordDispatch id command resources) := by
  -- the identity is new, so no slot has it
  have hunused : ∀ slot, m.activeExecutions.get? slot ≠ some id := by
    intro slot h
    obtain ⟨context, hc, -⟩ := hg.slots slot id h
    rw [hroute.noContext] at hc
    cases hc
  have hlive : ∀ slot, (m.recordDispatch id command resources).slotLive slot = true →
      m.slotLive slot = true := by
    intro slot h
    have h : Option.any ExecutionStatus.isLive (((m.activeExecutions.insert (commandSlot command)
      id).get? slot).bind fun id' => (m.executionStatus.insert id .dispatched).get? id') = true := h
    rw [get?_insert] at h
    split at h
    · rw [bind_some, get?_insert_self] at h
      cases h
    · rw [slotLive, currentStatus]
      cases hget : m.activeExecutions.get? slot with
      | none => simp [hget] at h
      | some id' =>
        have hne : id' ≠ id := by
          rintro rfl
          exact hunused slot hget
        rw [hget, bind_some, get?_insert_of_ne hne] at h
        exact h
  refine ⟨⟨{ hg.toRelationsKnown with slots := fun slot id' h => ?_, proofKnown := ?_ },
    fun k r state hr hkind hs hrequires hc => ?_⟩, fun _ _ h => h, fun _ h => .inl h,
    fun _ _ h => .inl h⟩
  · show ∃ context, (m.executions.insert id ⟨command, resources⟩).get? id' = some context ∧ _
    rcases insert_cases h with ⟨hslot, rfl⟩ | ⟨-, ha⟩
    · exact ⟨_, get?_insert_self _ _ _, hslot.symm⟩
    · obtain ⟨context, hc, hslot⟩ := hg.slots slot id' ha
      have hne : id' ≠ id := by
        intro he
        exact hunused slot (he ▸ ha)
      exact ⟨context, by rw [get?_insert_of_ne hne, hc], hslot⟩
  · intro k pid hp
    obtain ⟨r, context, hr, hc, hslot⟩ := hg.proofKnown k pid hp
    have hne : pid ≠ id := by
      rintro rfl
      rw [hroute.noContext] at hc
      cases hc
    refine ⟨r, context, hr, ?_, hslot⟩
    show (m.executions.insert id ⟨command, resources⟩).get? pid = some context
    rw [get?_insert_of_ne hne, hc]
  · exact hg.stale k r state hr hkind hs hrequires ⟨hlive _ hc.target, hlive _ hc.source⟩

lemma RelationStep.acknowledge {group : ExecutionGroupId} {relationId : ExecutionRelationId}
    (hrelation : m.relations.get? (toLex (group, relationId)) = some relation)
    (hsatisfied : m.deriveRelationState relation = .satisfied) :
    RelationStep m (.acknowledgeRelationReconciliation group relationId)
      { m with relationFences := m.relationFences.erase (toLex (group, relationId)) } := by
  have herase : ∀ {k}, k ≠ toLex (group, relationId) →
      (m.relationFences.erase (toLex (group, relationId))).contains k =
        m.relationFences.contains k := by
    intro k hne
    rw [contains, get?_erase_of_ne _ hne]
    rfl
  refine ⟨⟨{ hg.toRelationsKnown with fenceKnown := fun k hk => ?_, fenced := ?_ }, hg.stale⟩,
    fun _ _ h => h, fun k hk => ?_, fun _ _ h => .inl h⟩
  · have hk' : (m.relationFences.erase (toLex (group, relationId))).contains k = true := hk
    refine hg.fenceKnown k ?_
    by_cases hne : k = toLex (group, relationId)
    · rw [hne, contains, get?_erase_self] at hk'
      cases hk'
    · rw [← herase hne]
      exact hk'
  · intro k r state hr hkind hs hrequires
    have hne : k ≠ toLex (group, relationId) := by
      rintro rfl
      have hr : m.relations.get? (toLex (group, relationId)) = some r := hr
      rw [hrelation] at hr
      cases hr
      exact hg.stale _ _ state hrelation hkind hs hrequires (.of_satisfied hsatisfied)
    exact (herase hne).trans (hg.fenced k r state hr hkind hs hrequires)
  · by_cases hk' : k = toLex (group, relationId)
    · refine .inr ⟨group, relationId, relation, rfl, hk', ?_, hsatisfied⟩
      rw [hk', hrelation]
    · exact .inl ((herase hk').trans hk)

lemma Guarded.unused (h : ∀ context, m.executions.get? id = some context →
      m.activeExecutions.get? (commandSlot context.command) ≠ some id) (slot : ExecutionSlot) :
    m.activeExecutions.get? slot ≠ some id := by
  intro hslot
  obtain ⟨context, hc, rfl⟩ := hg.slots slot id hslot
  exact h context hc hslot

lemma RelationStep.factState (node : NodeId) (sequence : Nat)
    (reason : String) : RelationStep m call (m.factState id node sequence status reason) := by
  have hw : StatusWritten m id status (m.recordFact id node sequence status) := ⟨rfl, rfl, rfl, rfl⟩
  rw [RuntimeExecutionManager.factState, reduceFact]
  have hex : (m.recordFact id node sequence status).executions = m.executions := rfl
  have hactive : (m.recordFact id node sequence status).activeExecutions = m.activeExecutions := rfl
  rw [hex, hactive]
  cases hget : m.executions.get? id with
  | none => exact .of_unused hg hw (hg.unused (by simp [hget]))
  | some context =>
    dsimp only
    split
    · next hcurrent =>
      rw [reduceCurrent]
      have hw' : StatusWritten m id status
          (if status.provesActivation then
            { m.recordFact id node sequence status with
              toAttemptLedger := (m.recordFact id node sequence status).activated id
                context.command }
          else m.recordFact id node sequence status) := by
        split <;> exact ⟨rfl, rfl, rfl, rfl⟩
      exact (RelationStep.of_current hg hw' hcurrent).1
    · next hother =>
      refine .of_unused hg hw (hg.unused fun context' hc' => ?_)
      rw [hget] at hc'
      cases hc'
      exact hother

lemma RelationStep.ambiguous : RelationStep m call (m.ambiguous id) := by
  have hw : StatusWritten m id .unknown (m.setUnknown id) := ⟨rfl, rfl, rfl, rfl⟩
  rw [RuntimeExecutionManager.ambiguous]
  cases hget : m.executions.get? id with
  | none => exact .of_unused hg hw (hg.unused (by simp [hget]))
  | some =>
    dsimp only
    split
    · next hcurrent => exact (RelationStep.of_current hg hw hcurrent).1
    · next hother =>
      refine .of_unused hg hw (hg.unused fun context' hc' => ?_)
      rw [hget] at hc'
      cases hc'
      exact hother

lemma RelationStep.loseAttempts (node : NodeId) (reason : String) {ids : List ExecutionId}
    (hcurrent : ∀ id ∈ ids, ∃ slot, m.activeExecutions.get? slot = some id) :
    Guarded (m.loseAttempts node reason ids).1 ∧
      (m.loseAttempts node reason ids).1.relations = m.relations ∧
      (∀ k, m.relationFences.contains k = true →
        (m.loseAttempts node reason ids).1.relationFences.contains k = true) ∧
      ∀ k pid, (m.loseAttempts node reason ids).1.relationProofs.get? k = some pid →
        m.relationProofs.get? k = some pid := by
  induction ids generalizing m with
  | nil => exact ⟨hg, rfl, fun _ h => h, fun _ _ h => h⟩
  | cons id ids ih =>
    obtain ⟨slot, hslot⟩ := hcurrent id List.mem_cons_self
    obtain ⟨context, hcontext, rfl⟩ := hg.slots slot id hslot
    have hw : StatusWritten m id .unknown (m.setUnknown id) := ⟨rfl, rfl, rfl, rfl⟩
    have hread := relationsRead_refreshKeys (m.setUnknown id)
      ((m.setUnknown id).relationKeysAt (commandSlot context.command))
    obtain ⟨hstep, hproofs⟩ : RelationStep m .restart _ ∧ _ := RelationStep.of_current hg hw hslot
    have hfirst : (m.loseAttempt node reason id).1 =
        ((m.setUnknown id).refreshRelationsForSlot (commandSlot context.command)).1 := by
      rw [loseAttempt, hcontext]
      rfl
    have hactive : (m.loseAttempt node reason id).1.activeExecutions = m.activeExecutions := by
      rw [loseAttempt_attempts]
      rfl
    have hrel : (m.loseAttempt node reason id).1.relations = m.relations := by
      rw [hfirst, refreshRelationsForSlot, hread.frame.relations]
      rfl
    have hfences : ∀ k, m.relationFences.contains k = true →
        (m.loseAttempt node reason id).1.relationFences.contains k = true := by
      intro k hk
      rw [hfirst]
      exact hread.fences k hk
    rw [← hfirst] at hstep hproofs
    obtain ⟨hg', hrel', hfences', hproofs'⟩ := ih hstep.guarded fun id' hid' => by
      rw [hactive]
      exact hcurrent id' (List.mem_cons_of_mem _ hid')
    refine ⟨hg', hrel'.trans hrel, fun k hk => hfences' k (hfences k hk), fun k pid hp => ?_⟩
    exact hproofs rfl k pid (hproofs' k pid hp)

lemma RelationStep.withEvidence (evidence : SharedSpatialEvidence) :
    RelationStep m call (m.withEvidence evidence) := by
  rw [RuntimeExecutionManager.withEvidence]
  set m₀ : RuntimeExecutionManager :=
    { m with spatialEvidence := m.spatialEvidence.insert evidence.slot evidence } with hm₀
  have hread := relationsRead_refreshKeys m₀ (m₀.relationKeysAt evidence.slot)
  have hatt := hread.frame.attempts
  refine ⟨.of_read hread (hg.toRelationsKnown.congr rfl rfl rfl rfl rfl rfl)
    fun k r state hr hkind hs hrequires hc => absurd hc (hg.stale k r state hr hkind hs hrequires),
    fun k r hr => ?_, fun k hk => .inl (hread.fences k hk), fun k pid hp => ?_⟩
  · rw [refreshRelationsForSlot, hread.frame.relations]
    exact hr
  · refine (hread.proofs k pid hp).imp_right ?_
    rintro ⟨-, r, hr, hactive, hc⟩
    rw [refreshRelationsForSlot, hread.frame.relations, hatt]
    exact ⟨r, hr, hactive, hc⟩

end

/-! ### Restarts -/

lemma restoreRelationMaps_eq (hkeyed : ∀ k r, m.relations.get? k = some r → r.key = k)
    {ledger : RelationLedger} (h : restoreRelationMaps m.checkpoint = .ok ledger) :
    ledger.relations = m.relations ∧ ledger.relationStates = m.relationStates ∧
      ledger.relationFences = m.relationFences ∧ ledger.relationProofs = m.relationProofs := by
  rw [restoreRelationMaps] at h
  simp only [bind_eq_ok, pure_eq_ok] at h
  obtain ⟨_, hrelations, _, hstates, _, -, _, hfences, _, hproofs, rfl⟩ := h
  refine ⟨eq_of_collect_entries (values_map_key hkeyed) hrelations,
    eq_of_collect_entries (List.map_id _) hstates, eq_of_collect_entries ?_ hfences,
    eq_of_collect_entries (List.map_id _) hproofs⟩
  show (m.relationFences.entries.map (·.1)).map (fun k => (k, ())) = m.relationFences.entries
  rw [List.map_map]
  exact List.map_id _

lemma RelationStep.restore (hg : Guarded m) (h : restore m.checkpoint = .ok m') :
    RelationStep m .restart m' := by
  obtain ⟨_, hassembled, rfl, -⟩ := restore_ok h
  obtain ⟨-, -, ledger, contexts, channels, evidence, active, budgets, hledger, -, -, hactive, -,
    rfl⟩ := rebuild_ok hassembled
  obtain ⟨hrel, hstates, hfences, hproofs⟩ := restoreRelationMaps_eq hg.keyed hledger
  have hactive : active = m.activeExecutions := hactive.trans (ofList_entries _)
  subst hactive
  rw [refreshAllRelationsAfterRestore]
  set a := assemble m.checkpoint ledger evidence contexts channels m.activeExecutions budgets
    with ha
  have hread := relationsRead_refreshKeys a a.relations.keys
  have hatt := hread.frame.attempts
  have harel : a.relations = m.relations := hrel
  have hastates : a.relationStates = m.relationStates := hstates
  have hafences : a.relationFences = m.relationFences := hfences
  refine ⟨.of_read hread (hg.toRelationsKnown.congr rfl rfl harel hastates hafences hproofs)
    fun k r state hr _ _ _ _ => mem_keys_iff.mpr ⟨r, hr⟩,
    fun k r hr => ?_, fun k hk => .inl (hread.fences k ?_), fun k pid hp => ?_⟩
  · rw [hread.frame.relations, harel, hr]
  · rw [hafences]
    exact hk
  · rcases hread.proofs k pid hp with hp | ⟨-, r, hr, hact, hc⟩
    · left
      rw [← hproofs]
      exact hp
    · right
      rw [hread.frame.relations, hatt]
      exact ⟨r, hr, hact, hc⟩

/-! ### Every call -/

lemma relationStep_of_effect (hg : Guarded m)
    (h : Effect m call m') : RelationStep m call m' := by
  cases h with
  | registered =>
    refine .addRelations hg fun relation hmem => ?_
    obtain ⟨specification, -, rfl⟩ := List.mem_map.mp (List.mem_of_mem_take hmem)
    exact resolveRelation_contract _ _ _ specification
  | prepared h => exact .recordDispatch hg (routable_of_route h) _
  | dispatched h => exact (RelationStep.recordDispatch hg (routable_of_route h) _).then_view rfl
  | rejected | cancellationRejected => exact .ambiguous hg
  | observed | received => exact .factState hg _ _ _
  | receivedTerminal => exact (RelationStep.factState hg _ _ _).then_view rfl
  | @nodeUnavailable node =>
    have hcurrent : ∀ id ∈ m.openAttemptsOf node,
        ∃ slot, m.activeExecutions.get? slot = some id := by
      intro id hid
      obtain ⟨⟨_, _⟩, hmem, rfl⟩ := List.mem_map.mp hid
      have hopen := (List.mem_filter.mp hmem).2
      simp only [Bool.and_eq_true, List.contains_iff_mem] at hopen
      exact mem_values_iff.mp hopen.1.1
    obtain ⟨hg', hrel, hfences, hproofs⟩ := RelationStep.loseAttempts hg _ _ hcurrent
    rw [observeNodeUnavailable]
    exact ⟨hg', fun k r hr => by rw [hrel, hr], fun k hk => .inl (hfences k hk),
      fun k pid hp => .inl (hproofs k pid hp)⟩
  | stopConfirmed =>
    refine .of_view hg ?_
    rw [confirmRecoveryStop]
    split <;> rfl
  | released =>
    refine .of_view hg ?_
    rw [markRecoveryRelease]
    split <;> rfl
  | roundConfirmed =>
    refine .of_view hg ?_
    rw [confirmGroupRecoveryStop]
    split <;> rfl
  | admitted =>
    refine .of_view hg ?_
    rw [confirmGroupContinuationAdmission]
    split <;> rfl
  | acknowledged relation hrelation hsatisfied => exact .acknowledge hg hrelation hsatisfied
  | evidence => exact .withEvidence hg _
  | progressed =>
    refine .of_view hg ?_
    rw [observeProgress]
    split
    · split <;> rfl
    · rfl
  | restarted _ hrestore => exact .restore hg hrestore
  | unchanged | contextAdded | allocated | redispatched | delivered | counted | receipt | cancelled
  | stopRequested | roundRequested | continued | readinessRefused | readiness | deadlines
  | nodeFenced | channelFenced | channelClosed | groupClosed | progressFenced =>
    exact .of_view hg rfl

end

lemma guarded_new : Guarded new where
  slots _ _ h := by cases h
  keyed _ _ h := by cases h
  contract _ _ h := by cases h
  complete _ _ h := by cases h
  covered _ _ h := by cases h
  fenceKnown _ h := by cases h
  proofKnown _ _ h := by cases h
  fenced _ _ _ h := by cases h
  stale _ _ _ h := by cases h

end RoboGuide.Runtime
