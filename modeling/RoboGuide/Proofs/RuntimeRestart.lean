import RoboGuide.Runtime.Restore

/-!
# `RoboGuide.Proofs.RuntimeRestart`: what a restart gives back

`Recovered m m'` is what a restart is for: the durable facts are as they were, what is
terminal stays terminal, everything else is unknown, and a second restart changes nothing
further. `restart_recovers_iff` says of every registry a run can reach when that is so.

The conditions are those of `Restorable`. Three of them make `restore` fail (`Readable`).
The other two are about what is not in the checkpoint. A current attempt whose generation
was never allocated gets generation one. The activated Tasks are read off the statuses of
the current attempts, and a restart turns `Running` into `Unknown`: a second restart no
longer finds the Task activated, unless another of its current attempts is terminal.

The relations need no condition. No attempt is live after a restart, so reading them again
yields no proof and the same states (`refreshKeys_settled`, `refreshKeys_eq_self`).
-/

namespace RoboGuide.Runtime

open Domain Lib Fallible RuntimeExecutionManager AttemptLedger Option OrdMap

section

variable {m m' : RuntimeExecutionManager} {k : RelationKey} {keys : List RelationKey}
  {key : RelationKey}

/-! ### Reading relations when nothing is live -/

/-- No current attempt is accepted or running. -/
def Quiet (m : RuntimeExecutionManager) : Prop := ∀ slot, m.slotLive slot = false

lemma Quiet.deriveRelationState_congr (hq : Quiet m)
    (hstatus : ∀ slot, m'.currentStatus slot = m.currentStatus slot)
    (hactive : m'.activeExecutions = m.activeExecutions)
    (hproofs : m'.relationProofs = m.relationProofs) (r : RuntimeExecutionRelation) :
    m'.deriveRelationState r = m.deriveRelationState r := by
  have hproven : m'.targetProven r = m.targetProven r := by
    rw [targetProven, targetProven, hactive, hproofs]
  have hnot := hq r.targetKey
  rw [slotLive] at hnot
  rw [deriveRelationState, deriveRelationState, hstatus, hproven]
  split
  · next hs => simp [hs, ExecutionStatus.isLive] at hnot
  · next hs => simp [hs, ExecutionStatus.isLive] at hnot
  all_goals rfl

lemma Refreshed.quiet (h : Refreshed m m') (hq : Quiet m) : Quiet m' := by
  intro slot
  rw [h.attempts]
  exact hq slot

lemma Quiet.refreshRelation_proofs (hq : Quiet m) (key : RelationKey) :
    (m.refreshRelation key).1.relationProofs = m.relationProofs := by
  rw [refreshRelation]
  cases m.relations.get? key with
  | none => rfl
  | some r =>
    show (m.recordRelation key r).relationProofs = m.relationProofs
    rw [recordRelation]
    dsimp only
    split
    · next hs _ =>
      have hlive := (Coordinated.of_satisfied hs).target
      rw [hq] at hlive
      cases hlive
    · rfl

lemma Quiet.refreshKeys_proofs (hq : Quiet m) (keys : List RelationKey) :
    (m.refreshKeys keys).1.relationProofs = m.relationProofs := by
  induction keys generalizing m with
  | nil => rfl
  | cons key keys ih =>
    have hfirst := refreshed_refreshRelation m key
    exact (ih (hfirst.quiet hq)).trans (hq.refreshRelation_proofs key)

/-- The recorded state and fence of a relation are what reading it again would record. -/
def SettledAt (m : RuntimeExecutionManager) (key : RelationKey) : Prop :=
  ∀ r, m.relations.get? key = some r →
    m.relationStates.get? key = some (m.deriveRelationState r) ∧
      ((m.deriveRelationState r).requiresReconciliation = true →
        m.relationFences.contains key = true)

lemma Quiet.refreshRelation_settled (hq : Quiet m)
    (h : k = key ∨ SettledAt m k) : SettledAt (m.refreshRelation key).1 k := by
  have hframe := refreshed_refreshRelation m key
  intro r hr
  rw [hframe.relations] at hr
  have hderive : (m.refreshRelation key).1.deriveRelationState r = m.deriveRelationState r :=
    hq.deriveRelationState_congr (by rw [hframe.attempts]; exact fun _ => rfl)
      (by rw [hframe.attempts]) (hq.refreshRelation_proofs key) r
  rw [hderive, refreshRelation]
  cases hkey : m.relations.get? key with
  | none =>
    have hne : k ≠ key := by
      rintro rfl
      rw [hr] at hkey
      cases hkey
    exact (h.resolve_left hne) r hr
  | some relation =>
    show (m.relationStates.insert key (m.deriveRelationState relation)).get? k = _ ∧
      (_ → (if (m.deriveRelationState relation).requiresReconciliation
        then m.relationFences.insert key () else m.relationFences).contains k = true)
    by_cases hk : k = key
    · subst hk
      rw [hr] at hkey
      cases hkey
      refine ⟨get?_insert_self .., fun hrequires => ?_⟩
      rw [if_pos hrequires, contains_insert]
      simp
    · obtain ⟨hstate, hfence⟩ := (h.resolve_left hk) r hr
      refine ⟨by rw [get?_insert_of_ne hk, hstate], fun hrequires => ?_⟩
      split
      · rw [contains_insert, hfence hrequires, Bool.or_true]
      · exact hfence hrequires

lemma Quiet.refreshKeys_settled (hq : Quiet m)
    (h : k ∈ keys ∨ SettledAt m k) : SettledAt (m.refreshKeys keys).1 k := by
  induction keys generalizing m with
  | nil => exact h.resolve_left (List.not_mem_nil)
  | cons key keys ih =>
    have hfirst := refreshed_refreshRelation m key
    refine ih (hfirst.quiet hq) ?_
    rcases h with hmem | hsettled
    · rcases List.mem_cons.mp hmem with rfl | hmem
      · exact .inr (hq.refreshRelation_settled (.inl rfl))
      · exact .inl hmem
    · exact .inr (hq.refreshRelation_settled (.inr hsettled))

lemma Quiet.refreshRelation_eq_self (hq : Quiet m)
    (h : SettledAt m key) : (m.refreshRelation key).1 = m := by
  have hproofs := hq.refreshRelation_proofs key
  rw [refreshRelation] at hproofs ⊢
  cases hr : m.relations.get? key with
  | none => rfl
  | some r =>
    rw [hr] at hproofs
    obtain ⟨hstate, hfence⟩ := h r hr
    have hstates : m.relationStates.insert key (m.deriveRelationState r) = m.relationStates :=
      insert_eq_self hstate
    have hfences : (if (m.deriveRelationState r).requiresReconciliation
        then m.relationFences.insert key () else m.relationFences) = m.relationFences := by
      split
      · next hrequires =>
        obtain ⟨⟨⟩, hf⟩ := contains_eq_true_iff.mp (hfence hrequires)
        exact insert_eq_self hf
      · rfl
    have hproofs : (m.recordRelation key r).relationProofs = m.relationProofs := hproofs
    have hledger : m.recordRelation key r = m.toRelationLedger := by
      have hstates : (m.recordRelation key r).relationStates = m.relationStates := hstates
      have hfences : (m.recordRelation key r).relationFences = m.relationFences := hfences
      calc m.recordRelation key r
          = { m.toRelationLedger with
              relationStates := (m.recordRelation key r).relationStates
              relationFences := (m.recordRelation key r).relationFences
              relationProofs := (m.recordRelation key r).relationProofs } := rfl
        _ = m.toRelationLedger := by rw [hstates, hfences, hproofs]
    show { m with toRelationLedger := m.recordRelation key r } = m
    rw [hledger]

lemma Quiet.refreshKeys_eq_self (hq : Quiet m)
    (h : ∀ k ∈ keys, SettledAt m k) : (m.refreshKeys keys).1 = m := by
  induction keys with
  | nil => rfl
  | cons key keys ih =>
    show ((m.refreshRelation key).1.refreshKeys keys).1 = m
    rw [hq.refreshRelation_eq_self (h key List.mem_cons_self)]
    exact ih fun k hk => h k (List.mem_cons_of_mem _ hk)

/-! ### The second restart -/

@[simp] lemma ExecutionStatus.restored_restored (s : ExecutionStatus) :
    s.restored.restored = s.restored := by
  cases s <;> rfl

section

variable (m : RuntimeExecutionManager)

lemma currentStatus_restored (slot : ExecutionSlot) :
    m.restored.currentStatus slot = (m.currentStatus slot).map ExecutionStatus.restored := by
  rw [currentStatus, active_restored, currentStatus]
  cases m.activeExecutions.get? slot with
  | none => rfl
  | some id => exact statusOf_restored m id

lemma quiet_restored : Quiet m.restored := by
  intro slot
  rw [slotLive, currentStatus_restored]
  cases m.currentStatus slot with
  | none => rfl
  | some status => cases status <;> rfl

lemma quiet_reassembled : Quiet m.reassembled := by
  intro slot
  rw [← (refreshed_restored m).attempts]
  exact quiet_restored m slot

lemma settledAt_restored (key : RelationKey) : SettledAt m.restored key := by
  intro r hr
  have hkey : key ∈ m.reassembled.relations.keys := by
    rw [(refreshed_restored m).relations] at hr
    exact mem_keys_iff.mpr ⟨r, hr⟩
  exact (quiet_reassembled m).refreshKeys_settled (.inl hkey) r hr

end

lemma RestoredFrom.unique {c : RuntimeExecutionCheckpoint} {a a' : AttemptLedger}
    (h : RestoredFrom c a) (h' : RestoredFrom c a') : a = a' := by
  have hactive := h.activeExecutions.trans h'.activeExecutions.symm
  have hgenerations : a.attemptGenerations = a'.attemptGenerations := by
    rw [h.attemptGenerations, h'.attemptGenerations, hactive]
  obtain ⟨⟩ := a
  obtain ⟨⟩ := a'
  simp only [AttemptLedger.mk.injEq]
  exact ⟨h.terminalReceivedAt.trans h'.terminalReceivedAt.symm,
    h.executions.trans h'.executions.symm, h.executionStatus.trans h'.executionStatus.symm,
    h.executionSequences.trans h'.executionSequences.symm,
    h.executionNodes.trans h'.executionNodes.symm, hactive,
    h.restoredExecutions.trans h'.restoredExecutions.symm,
    h.activatedTasks.trans h'.activatedTasks.symm,
    h.reactivationAttempts.trans h'.reactivationAttempts.symm, hgenerations,
    h.dispatchOutbox.trans h'.dispatchOutbox.symm,
    h.cancellationIntents.trans h'.cancellationIntents.symm⟩

lemma fillGenerations_idem (active : List ExecutionSlot) (g : OrdMap ExecutionSlot Nat) :
    fillGenerations active (fillGenerations active g) = fillGenerations active g := by
  refine ext_get? fun slot => ?_
  rw [get?_fillGenerations active (fillGenerations active g), if_neg]
  rintro ⟨hnone, hmem⟩
  rw [contains, get?_fillGenerations] at hnone
  split at hnone
  · cases hnone
  · next hfilled => exact hfilled ⟨hnone, hmem⟩

lemma attempts_restored_restored (h : Registry m) : m.restored.restored.toAttemptLedger =
      { m.restored.toAttemptLedger with
        activatedTasks := activatedFrom m.restored.checkpoint } := by
  have hr := restoredFrom_restored m
  refine (restoredFrom_restored m.restored).unique
    ⟨rfl, rfl, ?_, rfl, rfl, (ofList_entries _).symm, ?_, rfl, ?_, ?_, ?_, rfl⟩
  · show m.restored.executionStatus = m.restored.executionStatus.mapValues fun _ s => s.restored
    rw [hr.executionStatus, mapValues_mapValues]
    exact mapValues_congr fun _ s _ => s.restored_restored.symm
  · show m.restored.restoredExecutions = OrdSet.ofList m.restored.executions.keys
    rw [hr.restoredExecutions, hr.executions]
  · exact hr.reactivationAttempts
  · show m.restored.attemptGenerations = fillGenerations m.restored.activeExecutions.keys
      (ofList m.restored.attemptGenerations.entries)
    rw [ofList_entries, generations_restored, active_restored, fillGenerations_idem]
  · exact (ofList_outbox h.attempts.restored).symm

lemma RuntimePeerChannel.restored_restored (channel : RuntimePeerChannel) :
    channel.restored.restored = channel.restored := by
  simp only [RuntimePeerChannel.restored, RuntimePeerChannel.mk.injEq, true_and, and_true]
  split
  · exact if_neg (by decide)
  · rfl

lemma coordination_restored_restored (m : RuntimeExecutionManager) :
    m.restored.restored.toCoordinationLedger = m.restored.toCoordinationLedger := by
  rw [coordination_restored m.restored, coordination_restored m]
  simp only [mapValues_mapValues, RuntimePeerChannel.restored_restored]

lemma relations_restored_restored (m : RuntimeExecutionManager) :
    m.restored.restored.toRelationLedger = m.restored.toRelationLedger := by
  have hq := quiet_reassembled m.restored
  have hattempts := (refreshed_restored m.restored).attempts
  have hstatus : ∀ slot, m.restored.reassembled.currentStatus slot =
      m.restored.currentStatus slot := by
    intro slot
    rw [← hattempts, currentStatus_restored m.restored, currentStatus_restored m, map_map]
    congr 1
    funext s
    exact s.restored_restored
  have hsettled : ∀ key, SettledAt m.restored.reassembled key := by
    intro key r hr
    have hderive : m.restored.reassembled.deriveRelationState r =
        m.restored.deriveRelationState r :=
      (quiet_restored m).deriveRelationState_congr hstatus
        (by rw [← hattempts, active_restored]) rfl r
    rw [hderive]
    exact settledAt_restored m key r hr
  have hsame : m.restored.restored = m.restored.reassembled :=
    hq.refreshKeys_eq_self fun key _ => hsettled key
  rw [hsame]
  rfl

lemma restored_restored (h : Registry m) : m.restored.restored =
      { m.restored with activatedTasks := activatedFrom m.restored.checkpoint } := by
  calc m.restored.restored
      = { toAttemptLedger := m.restored.restored.toAttemptLedger
          toRecoveryLedger := m.restored.restored.toRecoveryLedger
          toRelationLedger := m.restored.restored.toRelationLedger
          toCoordinationLedger := m.restored.restored.toCoordinationLedger } := rfl
    _ = _ := by
      rw [attempts_restored_restored h, recoveries_restored, relations_restored_restored,
        coordination_restored_restored]

/-! ### When everything comes back -/

/-- A Task with a live current attempt has a terminal one too, so it is still known to be
activated once the live one is unknown. -/
def KeepsActivation (m : RuntimeExecutionManager) : Prop :=
  ∀ slot id status, m.activeExecutions.get? slot = some id → m.statusOf id = some status →
    status.isLive = true →
    ∃ slot' id', m.activeExecutions.get? slot' = some id' ∧ m.isTerminal id' = true ∧
      slotGroup slot' = slotGroup slot ∧ slotTask slot' = slotTask slot

lemma mem_activated {m : RuntimeExecutionManager} {key : ExecutionGroupId ×ₗ TaskRef} :
    key ∈ (m.checkpoint.activeExecutions.filter fun active =>
      (m.checkpoint.executionStatus.get? active.2).any ExecutionStatus.provesActivation).map
        (fun active => toLex (slotGroup active.1, slotTask active.1)) ↔
      ∃ slot id status, m.activeExecutions.get? slot = some id ∧ m.statusOf id = some status ∧
        status.provesActivation = true ∧ key = toLex (slotGroup slot, slotTask slot) := by
  rw [List.mem_map]
  constructor
  · rintro ⟨⟨slot, id⟩, hmem, rfl⟩
    obtain ⟨hmem, hproves⟩ := List.mem_filter.mp hmem
    obtain ⟨status, hs, hproves⟩ := (any_eq_true _ _).mp hproves
    exact ⟨slot, id, status, mem_entries_iff.mp hmem, hs, hproves, rfl⟩
  · rintro ⟨slot, id, status, hactive, hs, hproves, rfl⟩
    refine ⟨(slot, id), List.mem_filter.mpr ⟨mem_entries_iff.mpr hactive, ?_⟩, rfl⟩
    exact (any_eq_true _ _).mpr ⟨status, hs, hproves⟩

lemma ExecutionStatus.provesActivation_iff (s : ExecutionStatus) :
    s.provesActivation = true ↔ s.isLive = true ∨ s.isTerminal = true := by
  cases s <;> decide

lemma ExecutionStatus.provesActivation_restored (s : ExecutionStatus) :
    s.restored.provesActivation = s.isTerminal := by
  cases s <;> rfl

lemma activatedFrom_restored_iff (m : RuntimeExecutionManager) :
    activatedFrom m.restored.checkpoint = activatedFrom m.checkpoint ↔ KeepsActivation m := by
  rw [activatedFrom, activatedFrom, OrdSet.ofList_eq_iff]
  -- after the restart only terminal attempts prove activation
  have hrestored : ∀ key, (∃ slot id status, m.restored.activeExecutions.get? slot = some id ∧
      m.restored.statusOf id = some status ∧ status.provesActivation = true ∧
      key = toLex (slotGroup slot, slotTask slot)) ↔
      ∃ slot id, m.activeExecutions.get? slot = some id ∧ m.isTerminal id = true ∧
        key = toLex (slotGroup slot, slotTask slot) := by
    intro key
    simp only [active_restored, statusOf_restored, map_eq_some_iff]
    constructor
    · rintro ⟨slot, id, _, hactive, ⟨status, hs, rfl⟩, hproves, hkey⟩
      rw [ExecutionStatus.provesActivation_restored] at hproves
      exact ⟨slot, id, hactive, by rw [isTerminal, hs]; exact hproves, hkey⟩
    · rintro ⟨slot, id, hactive, hterminal, hkey⟩
      rw [isTerminal, any_eq_true] at hterminal
      obtain ⟨status, hs, hterminal⟩ := hterminal
      refine ⟨slot, id, _, hactive, ⟨status, hs, rfl⟩, ?_, hkey⟩
      rw [ExecutionStatus.provesActivation_restored, hterminal]
  constructor
  · intro hsame slot id status hactive hs hlive
    have hbefore := (hsame _).mpr (mem_activated.mpr ⟨slot, id, status, hactive, hs,
      status.provesActivation_iff.mpr (.inl hlive), rfl⟩)
    obtain ⟨slot', id', hactive', hterminal, hkey⟩ := (hrestored _).mp (mem_activated.mp hbefore)
    have hkey : (slotGroup slot, slotTask slot) = (slotGroup slot', slotTask slot') := hkey
    rw [Prod.mk.injEq] at hkey
    exact ⟨slot', id', hactive', hterminal, hkey.1.symm, hkey.2.symm⟩
  · intro hkeeps key
    rw [mem_activated, mem_activated, hrestored]
    constructor
    · rintro ⟨slot, id, hactive, hterminal, hkey⟩
      rw [isTerminal, any_eq_true] at hterminal
      obtain ⟨status, hs, hterminal⟩ := hterminal
      exact ⟨slot, id, status, hactive, hs, status.provesActivation_iff.mpr (.inr hterminal), hkey⟩
    · rintro ⟨slot, id, status, hactive, hs, hproves, rfl⟩
      rcases status.provesActivation_iff.mp hproves with hlive | hterminal
      · obtain ⟨slot', id', hactive', hterminal, hgroup, htask⟩ :=
          hkeeps slot id status hactive hs hlive
        exact ⟨slot', id', hactive', hterminal, by rw [hgroup, htask]⟩
      · exact ⟨slot, id, hactive, by rw [isTerminal, hs]; exact hterminal, rfl⟩

lemma generations_restored_iff (m : RuntimeExecutionManager) :
    m.restored.attemptGenerations = m.attemptGenerations ↔
      ∀ slot id, m.activeExecutions.get? slot = some id →
        m.attemptGenerations.contains slot = true := by
  rw [generations_restored]
  constructor
  · intro hsame slot id hactive
    by_contra hmissing
    have hfilled := get?_fillGenerations m.activeExecutions.keys m.attemptGenerations slot
    rw [if_pos ⟨Bool.eq_false_iff.mpr hmissing, mem_keys_iff.mpr ⟨id, hactive⟩⟩, hsame] at hfilled
    exact hmissing (contains_eq_true_iff.mpr ⟨1, hfilled⟩)
  · intro hallocated
    refine ext_get? fun slot => ?_
    rw [get?_fillGenerations, if_neg]
    rintro ⟨hnone, hmem⟩
    obtain ⟨id, hactive⟩ := mem_keys_iff.mp hmem
    rw [hallocated slot id hactive] at hnone
    cases hnone

/-- What a restart is to give back. -/
structure Recovered (m m' : RuntimeExecutionManager) : Prop where
  contexts : m'.executions = m.executions
  sequences : m'.executionSequences = m.executionSequences
  owners : m'.executionNodes = m.executionNodes
  current : m'.activeExecutions = m.activeExecutions
  generations : m'.attemptGenerations = m.attemptGenerations
  cancellations : m'.cancellationIntents = m.cancellationIntents
  budgets : m'.recoveryBudgets = m.recoveryBudgets
  stops : m'.recoveryStops = m.recoveryStops
  rounds : m'.groupRecoveries = m.groupRecoveries
  proofs : m'.relationProofs = m.relationProofs
  times : m'.terminalReceivedAt = m.terminalReceivedAt
  terminal : ∀ id status, status.isTerminal = true →
    (m'.statusOf id = some status ↔ m.statusOf id = some status)
  unknown : ∀ id status, m.statusOf id = some status → status.isTerminal = false →
    m'.statusOf id = some .unknown
  again : restore m'.checkpoint = .ok m'

/-- The condition under which it does. -/
structure Restorable (m : RuntimeExecutionManager) : Prop extends Readable m where
  allocated : ∀ slot id, m.activeExecutions.get? slot = some id →
    m.attemptGenerations.contains slot = true
  activation : KeepsActivation m

instance (m : RuntimeExecutionManager) : Decidable (KeepsActivation m) :=
  decidable_of_iff (∀ e ∈ m.activeExecutions.entries, (m.statusOf e.2).any (·.isLive) = true →
      ∃ e' ∈ m.activeExecutions.entries, m.isTerminal e'.2 = true ∧
        slotGroup e'.1 = slotGroup e.1 ∧ slotTask e'.1 = slotTask e.1) <| by
    constructor
    · intro h slot id status hactive hs hlive
      obtain ⟨⟨slot', id'⟩, hmem, hterminal⟩ :=
        h (slot, id) (mem_entries_iff.mpr hactive)
          (by rw [hs, Option.any_some, hlive])
      exact ⟨slot', id', mem_entries_iff.mp hmem, hterminal⟩
    · rintro h ⟨slot, id⟩ hmem hlive
      obtain ⟨status, hs, hlive⟩ := (Option.any_eq_true _ _).mp hlive
      obtain ⟨slot', id', hactive, hterminal⟩ :=
        h slot id status (mem_entries_iff.mp hmem) hs hlive
      exact ⟨(slot', id'), mem_entries_iff.mpr hactive, hterminal⟩

instance (m : RuntimeExecutionManager) : Decidable (Restorable m) :=
  decidable_of_iff ((∀ e ∈ m.executions.entries, isBlank e.1 = false) ∧
      (∀ i ∈ m.groupRecoveries, ∀ e ∈ i.admittedAtMs.entries,
        m.statusOf e.1 ≠ some .dispatched) ∧
      (∀ e ∈ m.peerChannels.entries, 2 ≤ e.2.peers.length) ∧
      (∀ e ∈ m.activeExecutions.entries, m.attemptGenerations.contains e.1 = true) ∧
      KeepsActivation m) <| by
    constructor
    · rintro ⟨hnamed, hadmitted, hpeers, hallocated, hactivation⟩
      exact ⟨⟨OrdMap.forall_get?_iff.mpr hnamed,
        fun i hi => OrdMap.forall_get?_iff.mpr (hadmitted i hi),
        OrdMap.forall_get?_iff.mpr hpeers⟩, OrdMap.forall_get?_iff.mpr hallocated, hactivation⟩
    · rintro ⟨⟨hnamed, hadmitted, hpeers⟩, hallocated, hactivation⟩
      exact ⟨OrdMap.forall_get?_iff.mp hnamed,
        fun i hi => OrdMap.forall_get?_iff.mp (hadmitted i hi),
        OrdMap.forall_get?_iff.mp hpeers, OrdMap.forall_get?_iff.mp hallocated, hactivation⟩

lemma statusOf_restored_terminal (m : RuntimeExecutionManager) (id : ExecutionId)
    {status : ExecutionStatus} (hterminal : status.isTerminal = true) :
    m.restored.statusOf id = some status ↔ m.statusOf id = some status := by
  rw [statusOf_restored, map_eq_some_iff]
  constructor
  · rintro ⟨before, hs, rfl⟩
    have hbefore : before.isTerminal = true := by
      revert hterminal
      cases before <;> decide
    rw [hs, ExecutionStatus.restored, if_pos hbefore]
  · intro hs
    exact ⟨status, hs, by rw [ExecutionStatus.restored, if_pos hterminal]⟩

lemma Readable.restored (h : Readable m) : Readable m.restored := by
  refine ⟨fun id context hc => ?_, fun i hi id t ht hs => ?_, fun key channel hc => ?_⟩
  · rw [(restoredFrom_restored m).executions] at hc
    exact h.named id context hc
  · rw [statusOf_restored, map_eq_some_iff] at hs
    obtain ⟨status, -, hs⟩ := hs
    cases status <;> cases hs
  · rw [coordination_restored, get?_mapValues, map_eq_some_iff] at hc
    obtain ⟨before, hbefore, rfl⟩ := hc
    exact h.peers key before hbefore

lemma Readable.registry (hr : Readable m) (h : Registry m) : Registry m.restored :=
  h.step (.restarted m.restored ((restore_checkpoint_iff h).mpr hr)) trivial

lemma restore_again_iff (hr : Readable m) (h : Registry m) :
    restore m.restored.checkpoint = .ok m.restored ↔ KeepsActivation m := by
  have hregistry := hr.registry h
  have hsecond : restore m.restored.checkpoint = .ok m.restored.restored :=
    (restore_checkpoint_iff hregistry).mpr hr.restored
  have hactivated : m.restored.activatedTasks = activatedFrom m.checkpoint :=
    (restoredFrom_restored m).activatedTasks
  rw [← activatedFrom_restored_iff, hsecond, Except.ok.injEq, restored_restored h]
  constructor
  · intro hsame
    rw [← hactivated]
    exact congrArg (·.activatedTasks) hsame
  · intro hsame
    rw [hsame, ← hactivated]

end

/-- In every registry that a run reaches, restarts included, a restart gives everything back
exactly when the registry is restorable. -/
theorem restart_recovers_iff {m : RuntimeExecutionManager}
    (hrun : Reaches RuntimeExecutionManager.step Promised RuntimeExecutionManager.new m) :
    (∃ m', restore m.checkpoint = .ok m' ∧ Recovered m m') ↔ Restorable m := by
  have h := Registry.of_run hrun
  have hr := restoredFrom_restored m
  constructor
  · rintro ⟨m', hrestore, hrecovered⟩
    obtain rfl := restore_eq h hrestore
    have hreadable := (restore_checkpoint_iff h).mp hrestore
    exact ⟨hreadable, (generations_restored_iff m).mp hrecovered.generations,
      (restore_again_iff hreadable h).mp hrecovered.again⟩
  · rintro ⟨hreadable, hallocated, hactivation⟩
    have hrecoveries := recoveries_restored m
    refine ⟨m.restored, (restore_checkpoint_iff h).mpr hreadable, hr.executions,
      hr.executionSequences, hr.executionNodes, active_restored m,
      (generations_restored_iff m).mpr hallocated, hr.cancellationIntents, ?_, ?_, ?_,
      (quiet_reassembled m).refreshKeys_proofs _, hr.terminalReceivedAt, fun id status ht =>
      statusOf_restored_terminal m id ht, fun id status hs ht => ?_,
      (restore_again_iff hreadable h).mpr hactivation⟩
    · rw [hrecoveries]
    · rw [hrecoveries]
    · rw [hrecoveries]
    · rw [statusOf_restored, hs, map_some, ExecutionStatus.restored, if_neg (by simp [ht])]

/-! ### Runs -/

namespace Restarted

open Sample

def after (calls : List RuntimeCall) : RuntimeExecutionManager :=
  calls.foldl RuntimeExecutionManager.step .new

/-- An attempt that was allocated, prepared and is working. -/
def working : List RuntimeCall :=
  [.allocateAttemptId group ⟨mission, task⟩ role, .prepareDispatch "attempt" (command task node) [],
    .observeExecution "attempt" node 1 .running ""]

/-- The attempt is done, and its receive time is known. -/
def done : List RuntimeCall :=
  working ++ [.observeExecutionReceived "attempt" node 2 .completed "" 20]

def alone : CoordinationDeclaration where
  context := ⟨⟨"context", .refl false⟩,
      [⟨⟨"only", .refl false⟩, ⟨"actor", .refl false⟩, [], ContextRole.no_envelope⟩],
    [], .independent⟩
  relations := []
  sharedView := none
  peerChannel := some ⟨"profile", "schema"⟩

lemma alone_accepted : alone.newWithCoordination = .ok () := by decide +kernel

/-- Registering that Context. -/
def declared : List RuntimeCall := [.registerCoordinationContext group alone alone_accepted]

end Restarted

open Sample Restarted in
/-- A finished attempt comes back with everything that is known about it. -/
theorem finished_attempt_recovered :
    ∃ m', restore (after done).checkpoint = .ok m' ∧ Recovered (after done) m' := by
  have hrun : Reaches step Promised new
      (after done) :=
    Reaches.of_list done .refl ⟨trivial, trivial, trivial, trivial, trivial⟩
  exact (restart_recovers_iff hrun).mpr (by decide +kernel)

open Sample Restarted in
/-- The Context is registered, and the checkpoint that holds its channel is refused. -/
theorem lone_channel_refused :
    ¬ ∀ m, Reaches RuntimeExecutionManager.step Promised RuntimeExecutionManager.new m →
      ∃ m', restore m.checkpoint = .ok m' ∧ Recovered m m' := by
  intro hall
  have hrun : Reaches step Promised new
      (after declared) :=
    Reaches.of_list declared .refl ⟨trivial, trivial⟩
  obtain ⟨m', hrestore, -⟩ := hall _ hrun
  have hrefused : (restore (after declared).checkpoint).isOk = false := by decide +kernel
  rw [hrestore] at hrefused
  cases hrefused

open Sample Restarted in
/-- The second restart of a working attempt forgets that its Task was activated. -/
example : (after (working ++ [.restart])).activatedTasks ≠ ∅ ∧
    (after (working ++ [.restart, .restart])).activatedTasks = ∅ := by decide +kernel

end RoboGuide.Runtime
