import RoboGuide.Runtime.RoundHistory

/-!
# `RoboGuide.Runtime.Ledgers`: how the maps of the registry hang together

The registry holds about twenty maps that name one another: an outbox entry repeats an
execution context, a cancellation names a known execution, a sequence an attempt with a
status. `restore` checks all of it again. This module states what is true of the ledgers of
attempts, stops, progress, evidence and coordination in every reachable state; each ledger
has one structure and one lemma that every call keeps it.
-/

namespace RoboGuide.Runtime

open Domain Lib Fallible AttemptLedger Option

variable {id : ExecutionId}
open RuntimeExecutionManager

/-! ### Attempts -/

/-- The tables of attempts agree with each other. -/
structure SoundAttempts (a : AttemptLedger) : Prop where
  times : ∀ id t, a.terminalReceivedAt.get? id = some t →
    a.executions.contains id = true ∧ a.isTerminal id = true
  generations : ∀ slot g, a.attemptGenerations.get? slot = some g → 0 < g
  /-- An outbox entry repeats the context of its attempt. -/
  outbox : ∀ id intent, a.dispatchOutbox.get? id = some intent → intent.executionId = id ∧
    a.executions.get? id = some ⟨intent.command, intent.resourceIds⟩ ∧
    normalizedResources intent.resourceIds = intent.resourceIds
  posted : ∀ id context, a.executions.get? id = some context → a.dispatchOutbox.contains id = true
  cancellations : ∀ id, a.cancellationIntents.contains id = true → a.executions.contains id = true
  declared : ∀ id context, a.executions.get? id = some context →
    context.command.recoveryMismatch = false
  owned : ∀ id context, a.executions.get? id = some context →
    a.executionNodes.get? id = some context.command.nodeId
  known : ∀ id context, a.executions.get? id = some context →
    a.executionStatus.contains id = true
  sequences : ∀ id n, a.executionSequences.get? id = some n → a.executionStatus.contains id = true

lemma contains_insert_of_contains {K V : Type} [LinearOrder K] {m : OrdMap K V} {k k' : K}
    {v : V} (h : m.contains k' = true) : (m.insert k v).contains k' = true := by
  rw [contains_insert, h, Bool.or_true]

namespace SoundAttempts

variable {a a' : AttemptLedger} (h : SoundAttempts a)
include h

lemma outbox_modify (id : ExecutionId)
    {f : DispatchIntent → DispatchIntent} (hf : ∀ i, (f i).executionId = i.executionId ∧
      (f i).command = i.command ∧ (f i).resourceIds = i.resourceIds) :
    (∀ id' intent, (a.dispatchOutbox.modify id f).get? id' = some intent →
      intent.executionId = id' ∧
      a.executions.get? id' = some ⟨intent.command, intent.resourceIds⟩ ∧
      normalizedResources intent.resourceIds = intent.resourceIds) ∧
    ∀ id' context, a.executions.get? id' = some context →
      (a.dispatchOutbox.modify id f).contains id' = true := by
  refine ⟨fun id' intent hget => ?_, fun id' context hc => ?_⟩
  · rw [get?_modify] at hget
    split at hget
    · obtain ⟨old, hold, rfl⟩ := map_eq_some_iff.mp hget
      obtain ⟨hid, hcommand, hresources⟩ := hf old
      rw [hid, hcommand, hresources]
      exact h.outbox id' old hold
    · exact h.outbox id' intent hget
  · have hposted := h.posted id' context hc
    rw [OrdMap.contains] at hposted ⊢
    rw [get?_modify]
    split
    · rw [isSome_map]
      exact hposted
    · exact hposted

lemma delivered (id : ExecutionId) : SoundAttempts (a.delivered id) := by
  obtain ⟨houtbox, hposted⟩ := h.outbox_modify id
    (f := fun intent => { intent with delivered := true }) fun i => ⟨rfl, rfl, rfl⟩
  exact { h with outbox := houtbox, posted := hposted }

lemma status (id : ExecutionId) (hopen : a.isTerminal id = false) (status : ExecutionStatus) :
    SoundAttempts { a with executionStatus := a.executionStatus.insert id status } := by
  have hp : Persists a { a with executionStatus := a.executionStatus.insert id status } :=
    .of_open hopen rfl ⟨_, rfl⟩ rfl rfl
  refine { h with
    times := fun id' t ht => ?_
    known := fun id' context hc => contains_insert_of_contains (h.known id' context hc)
    sequences := fun id' n hn => contains_insert_of_contains (h.sequences id' n hn) }
  obtain ⟨hknown, hterminal⟩ := h.times id' t ht
  refine ⟨hknown, ?_⟩
  rw [isTerminal] at hterminal ⊢
  cases hs : a.statusOf id' with
  | none =>
    rw [hs] at hterminal
    cases hterminal
  | some s =>
    rw [hs, any_some] at hterminal
    rw [hp.terminal id' s hs hterminal, any_some, hterminal]

lemma observed {node : NodeId} {sequence : Nat}
    (hfact : AcceptedFact a id node sequence) (status : ExecutionStatus) :
    SoundAttempts (a.observed id node sequence status) := by
  have hwritten := (h.delivered id).status id hfact.isOpen status
  refine { hwritten with owned := fun id' context hc => ?_, sequences := fun id' n hn => ?_ }
  · -- the owner of a dispatched attempt is known already
    have howned := h.owned id' context hc
    show (if a.executionNodes.contains id then a.executionNodes
      else a.executionNodes.insert id node).get? id' = _
    split
    · exact howned
    · next hnew =>
      have hne : id' ≠ id := by
        rintro rfl
        exact hnew (contains_eq_true_iff.mpr ⟨_, howned⟩)
      rw [get?_insert_of_ne hne, howned]
  · show (a.executionStatus.insert id status).contains id' = true
    rcases insert_cases hn with ⟨rfl, -⟩ | ⟨-, hn⟩
    · rw [contains_insert]
      simp
    · exact contains_insert_of_contains (h.sequences id' n hn)

lemma prepared {command : ExecutionCommand}
    (hroute : Routable a id command) (resources : List ResourceId) :
    SoundAttempts (a.prepared id command (normalizedResources resources)) := by
  -- every context is the new one or an old one of another identity
  have hexecutions : ∀ {id' context}, (a.executions.insert id
      ⟨command, normalizedResources resources⟩).get? id' = some context →
      (id' = id ∧ context = ⟨command, normalizedResources resources⟩) ∨
        (id' ≠ id ∧ a.executions.get? id' = some context) := by
    intro id' context hc
    exact (insert_cases hc).imp_left fun hnew => ⟨hnew.1, hnew.2.symm⟩
  refine
    { times := fun id' t ht => ?_
      generations := h.generations
      outbox := fun id' intent hi => ?_
      posted := fun id' context hc => ?_
      cancellations := fun id' hc => contains_insert_of_contains (h.cancellations id' hc)
      declared := fun id' context hc => ?_
      owned := fun id' context hc => ?_
      known := fun id' context hc => ?_
      sequences := fun id' n hn => contains_insert_of_contains (h.sequences id' n hn) }
  · obtain ⟨hknown, hterminal⟩ := h.times id' t ht
    have hne : id' ≠ id := by
      rintro rfl
      rw [isTerminal, statusOf, hroute.noStatus] at hterminal
      cases hterminal
    refine ⟨contains_insert_of_contains hknown, ?_⟩
    show ((a.executionStatus.insert id .dispatched).get? id').any _ = true
    rw [get?_insert_of_ne hne]
    exact hterminal
  · show _ ∧ (a.executions.insert id _).get? id' = _ ∧ _
    rcases insert_cases hi with ⟨rfl, rfl⟩ | ⟨he, hi⟩
    · exact ⟨rfl, get?_insert_self .., normalizedResources_idem resources⟩
    · obtain ⟨hid, hc, hn⟩ := h.outbox id' intent hi
      exact ⟨hid, by rw [get?_insert_of_ne he, hc], hn⟩
  · show (a.dispatchOutbox.insert id _).contains id' = true
    rcases hexecutions hc with ⟨rfl, -⟩ | ⟨-, hc⟩
    · rw [contains_insert]
      simp
    · exact contains_insert_of_contains (h.posted id' context hc)
  · rcases hexecutions hc with ⟨-, rfl⟩ | ⟨-, hc⟩
    · exact hroute.declared
    · exact h.declared id' context hc
  · show (a.executionNodes.insert id command.nodeId).get? id' = _
    rcases hexecutions hc with ⟨rfl, rfl⟩ | ⟨hne, hc⟩
    · exact get?_insert_self _ _ _
    · rw [get?_insert_of_ne hne, h.owned id' context hc]
  · show (a.executionStatus.insert id .dispatched).contains id' = true
    rcases hexecutions hc with ⟨rfl, -⟩ | ⟨-, hc⟩
    · rw [contains_insert]
      simp
    · exact contains_insert_of_contains (h.known id' context hc)

/-- Every change of the ledger. -/
lemma move (hmove : AttemptMove a a') : SoundAttempts a' := by
  cases hmove with
  | prepared id command resources hroute => exact h.prepared hroute resources
  | delivered id => exact h.delivered id
  | counted id =>
    obtain ⟨houtbox, hposted⟩ := h.outbox_modify id
      (f := fun intent =>
        { intent with deliveryAttempts := min (intent.deliveryAttempts + 1) (2 ^ 32 - 1) })
      fun i => ⟨rfl, rfl, rfl⟩
    exact { h with outbox := houtbox, posted := hposted }
  | lost id hopen => exact h.status id hopen .unknown
  | fact id node sequence status hfact => exact h.observed hfact status
  | timedFact id node sequence status receivedAt hfact hterminal hknown =>
    have hobserved := h.observed hfact status
    refine { hobserved with times := fun id' t ht => ?_ }
    rcases insert_cases ht with ⟨rfl, -⟩ | ⟨-, ht⟩
    · refine ⟨hknown, ?_⟩
      show ((a.executionStatus.insert id' status).get? id').any _ = true
      rw [get?_insert_self, any_some, hterminal]
    · exact hobserved.times id' t ht
  | activated => exact { h with }
  | cancelled ids hknown =>
    refine { h with cancellations := fun id hc => ?_ }
    rcases (OrdSet.contains_foldl_insert id ids a.cancellationIntents).mp hc with hc | hc
    · exact h.cancellations id hc
    · exact hknown id hc
  | allocated =>
    refine { h with generations := fun slot' g hg => ?_ }
    rcases insert_cases hg with ⟨-, rfl⟩ | ⟨-, hg⟩
    · omega
    · exact h.generations slot' g hg

end SoundAttempts

/-! ### Progress -/

/-- A retained sample is the Node's own report about its attempt. -/
structure SoundSample (a : AttemptLedger) (id : ExecutionId) (o : ProgressObservation) :
    Prop where
  same : o.sample.executionId = id
  attributed : ∃ context, a.executions.get? id = some context ∧
    progressAttributed o.record.key o.sample context.command = true
  valid : o.record.validForMs ≠ 0
  ordered : o.lastAdvancedAt ≤ o.record.receivedAt

def SoundProgress (a : AttemptLedger) (progress : OrdMap ExecutionId ProgressObservation) : Prop :=
  ∀ id o, progress.get? id = some o → SoundSample a id o

lemma SoundProgress.persists {a a' : AttemptLedger}
    {progress : OrdMap ExecutionId ProgressObservation} (h : SoundProgress a progress)
    (hp : Persists a a') : SoundProgress a' progress := by
  intro id o ho
  have hs := h id o ho
  obtain ⟨context, hc, hattributed⟩ := hs.attributed
  exact { hs with attributed := ⟨context, hp.context id context hc, hattributed⟩ }

lemma nextProgress_ordered {previous : Option ProgressObservation} {record : ProgressSource}
    {sample : OperationProgressSample} {o : ProgressObservation}
    (hprevious : ∀ old, previous = some old → old.lastAdvancedAt ≤ old.record.receivedAt)
    (h : nextProgress previous record sample = some o) :
    o.sample = sample ∧ o.record = record ∧ o.lastAdvancedAt ≤ record.receivedAt := by
  rw [nextProgress.eq_def] at h
  split at h
  · cases h
    exact ⟨rfl, rfl, Nat.le_refl _⟩
  · next old =>
    have hold := hprevious old rfl
    split at h
    · cases h
    · split at h
      · split at h
        · cases h
        · next hforward =>
          cases h
          refine ⟨rfl, rfl, ?_⟩
          -- an unchanged sample is not received before the one it repeats
          have hle : old.record.receivedAt ≤ record.receivedAt := by
            simp only [progressRegresses, Bool.or_eq_true, decide_eq_true_eq, not_or] at hforward
            exact Nat.le_of_not_lt hforward.1.1.2
          show (if _ then old.lastAdvancedAt else record.receivedAt) ≤ record.receivedAt
          split
          · exact hold.trans hle
          · exact Nat.le_refl _
      · cases h
        exact ⟨rfl, rfl, Nat.le_refl _⟩

lemma SoundProgress.observe {m : RuntimeExecutionManager}
    (h : SoundProgress m.toAttemptLedger m.progress) (record : StateRecord)
    (sample : OperationProgressSample) :
    SoundProgress m.toAttemptLedger (m.observeProgress record sample).progress := by
  rw [observeProgress]
  split
  case isFalse => exact h
  next hadmits =>
  split
  case h_2 => exact h
  next o hnext =>
  intro id o' ho'
  rcases insert_cases ho' with ⟨rfl, rfl⟩ | ⟨-, ho'⟩
  · obtain ⟨hsample, hrecord, hordered⟩ :=
      nextProgress_ordered (fun old hold => (h _ old hold).ordered) hnext
    cases hc : m.executions.get? sample.executionId with
    | none => simp [admitsProgress, hc] at hadmits
    | some context =>
      simp only [admitsProgress, hc, any_some, Bool.and_eq_true, bne_iff_ne] at hadmits
      refine ⟨by rw [hsample], ⟨context, hc, ?_⟩, ?_, ?_⟩
      · rw [hsample, hrecord]
        exact hadmits.1.1.1.2
      · rw [hrecord]
        exact hadmits.2
      · rw [hrecord]
        exact hordered
  · exact h id o' ho'

/-! ### Evidence -/

structure SoundEvidence (m : RuntimeExecutionManager) : Prop where
  keyed : ∀ slot e, m.spatialEvidence.get? slot = some e → e.slot = slot
  current : ∀ slot e, m.spatialEvidence.get? slot = some e →
    m.activeExecutions.get? slot = some e.executionId
  owned : ∀ slot e, m.spatialEvidence.get? slot = some e →
    m.executionNodes.get? e.executionId = some e.nodeId

namespace SoundEvidence

variable {m m' : RuntimeExecutionManager}

/-- Owners that are added later do not matter. -/
lemma mono (h : SoundEvidence m) (hevidence : m'.spatialEvidence = m.spatialEvidence)
    (hactive : m'.activeExecutions = m.activeExecutions)
    (hnodes : ∀ id node, m.executionNodes.get? id = some node →
      m'.executionNodes.get? id = some node) : SoundEvidence m' := by
  refine ⟨?_, ?_, fun slot e he => ?_⟩
  · rw [hevidence]
    exact h.keyed
  · rw [hevidence, hactive]
    exact h.current
  · rw [hevidence] at he
    exact hnodes _ _ (h.owned slot e he)

lemma recordDispatch (h : SoundEvidence m)
    (hslots : ∀ slot id, m.activeExecutions.get? slot = some id →
      ∃ context, m.executions.get? id = some context ∧ commandSlot context.command = slot)
    {command : ExecutionCommand}
    (hroute : Routable m.toAttemptLedger id command) (resources : List ResourceId) :
    SoundEvidence (m.recordDispatch id command resources) := by
  have hunused : ∀ slot, m.activeExecutions.get? slot ≠ some id := by
    intro slot hslot
    obtain ⟨_, hc, -⟩ := hslots slot id hslot
    rw [hroute.noContext] at hc
    cases hc
  -- what is left is evidence of another slot
  have hleft : ∀ {slot e}, (m.recordDispatch id command resources).spatialEvidence.get? slot =
      some e → m.spatialEvidence.get? slot = some e ∧ slot ≠ commandSlot command := by
    intro slot e he
    have he : (if m.replaces (commandSlot command) id
      then m.spatialEvidence.erase (commandSlot command) else m.spatialEvidence).get? slot =
        some e := he
    split at he
    · rw [get?_erase] at he
      split at he
      · cases he
      · next hne => exact ⟨he, hne⟩
    · next hfree =>
      refine ⟨he, ?_⟩
      rintro rfl
      have hcurrent := h.current _ e he
      refine hfree ?_
      rw [replaces, hcurrent, any_some, bne_iff_ne]
      intro heq
      exact hunused _ (heq ▸ hcurrent)
  refine ⟨fun slot e he => ?_, fun slot e he => ?_, fun slot e he => ?_⟩
  · exact h.keyed slot e (hleft he).1
  · obtain ⟨he, hne⟩ := hleft he
    show (m.activeExecutions.insert (commandSlot command) id).get? slot = _
    rw [get?_insert_of_ne hne, h.current slot e he]
  · obtain ⟨he, -⟩ := hleft he
    have hne : e.executionId ≠ id := by
      intro heq
      exact hunused slot (heq ▸ h.current slot e he)
    show (m.executionNodes.insert id command.nodeId).get? e.executionId = _
    rw [get?_insert_of_ne hne, h.owned slot e he]

lemma withEvidence (h : SoundEvidence m) {e : SharedSpatialEvidence}
    (hvalid : validateSpatialEvidence m e = .ok true) : SoundEvidence (m.withEvidence e) := by
  rw [validateSpatialEvidence] at hvalid
  simp only [bind_eq_ok, refuse_eq_ok, bne_eq_false_iff_eq] at hvalid
  obtain ⟨_, hcurrent, _, howned, -⟩ := hvalid
  have hframe := refreshed_refreshRelationsForSlot
    { m with spatialEvidence := m.spatialEvidence.insert e.slot e } e.slot
  have hcases : ∀ {slot e'}, (m.withEvidence e).spatialEvidence.get? slot = some e' →
      (slot = e.slot ∧ e' = e) ∨ m.spatialEvidence.get? slot = some e' := by
    intro slot e' he'
    rw [RuntimeExecutionManager.withEvidence, hframe.evidence] at he'
    exact (insert_cases he').imp (fun hnew => ⟨hnew.1, hnew.2.symm⟩) And.right
  have hatt : (m.withEvidence e).toAttemptLedger = m.toAttemptLedger := hframe.attempts
  refine ⟨fun slot e' he' => ?_, fun slot e' he' => ?_, fun slot e' he' => ?_⟩
  · rcases hcases he' with ⟨rfl, rfl⟩ | he'
    · rfl
    · exact h.keyed slot e' he'
  · rw [hatt]
    rcases hcases he' with ⟨rfl, rfl⟩ | he'
    · exact hcurrent
    · exact h.current slot e' he'
  · rw [hatt]
    rcases hcases he' with ⟨rfl, rfl⟩ | he'
    · exact howned
    · exact h.owned slot e' he'

end SoundEvidence

end RoboGuide.Runtime
