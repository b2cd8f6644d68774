import RoboGuide.Runtime.Registry

/-!
# `RoboGuide.Runtime.Restore`: which checkpoints are read back

`restore` runs its validators over every list of a checkpoint. Under the invariant of the
registry each of them passes, with three exceptions that `Readable` collects: an execution
whose identity is blank, a peer channel with fewer than two peers, and a continuation whose
admitted attempt is reported as `Dispatched` again. `restore_checkpoint_iff` puts the
validators together.
-/

namespace RoboGuide.Runtime

open Domain Lib Fallible RuntimeExecutionManager RuntimeExecutionCheckpoint List Option OrdMap Bool

variable {id : ExecutionId} {context : ExecutionContext} {slot : ExecutionSlot}

/-- What `restore` asks of a registry beyond its invariant. -/
structure Readable (m : RuntimeExecutionManager) : Prop where
  named : ∀ id context, m.executions.get? id = some context → isBlank id = false
  admitted : ∀ i ∈ m.groupRecoveries, ∀ id t, i.admittedAtMs.get? id = some t →
    m.statusOf id ≠ some .dispatched
  peers : ∀ key channel, m.peerChannels.get? key = some channel → 2 ≤ channel.peers.length

variable {m : RuntimeExecutionManager}

/-! ### The lists of the checkpoint -/

lemma validateTerminalTimes_checkpoint (h : SoundAttempts m.toAttemptLedger) :
    m.checkpoint.validateTerminalTimes = .ok () := by
  rw [validateTerminalTimes, forM_eq_ok]
  intro id hid
  obtain ⟨t, ht⟩ := mem_keys_iff.mp hid
  obtain ⟨hknown, hterminal⟩ := h.times id t ht
  have hstatus : ((m.executionStatus.get? id).all fun status => !status.isTerminal) = false := by
    rw [AttemptLedger.isTerminal, AttemptLedger.statusOf] at hterminal
    cases hs : m.executionStatus.get? id with
    | none => simp [hs] at hterminal
    | some => simpa [hs] using hterminal
  rw [refuse_eq_ok]
  show (!m.executions.contains id || _) = false
  rw [hknown]
  exact hstatus

lemma SoundRounds.admitted_known (h : Registry m) {i : GroupRecoveryStopIntent}
    (hi : i ∈ m.groupRecoveries) {t : TimestampMs}
    (ht : i.admittedAtMs.get? id = some t) : ∃ status, m.statusOf id = some status := by
  have hround := h.rounds.sound i hi
  have hne : i.replacements ≠ ∅ := by
    intro hempty
    rw [(hround.waiting hempty).2] at ht
    cases ht
  obtain ⟨_, hc⟩ := hround.continued hne
  obtain ⟨-, hreplacement⟩ := hc.admittedAfter id t ht
  obtain ⟨source, hsource⟩ : ∃ source, i.replacements.get? source = some id := by
    rw [GroupRecoveryStopIntent.hasReplacement, List.any_eq_true] at hreplacement
    obtain ⟨_, hvalue, heq⟩ := hreplacement
    rw [beq_iff_eq] at heq
    exact mem_values_iff.mp (heq ▸ hvalue)
  obtain ⟨-, actual, -, hactual, -, -⟩ := hc.repeats source id hsource
  exact contains_eq_true_iff.mp (h.attempts.known id actual hactual)

lemma validateAdmissions_checkpoint_iff (h : Registry m) :
    m.checkpoint.validateAdmissions = .ok () ↔
      ∀ i ∈ m.groupRecoveries, ∀ id t, i.admittedAtMs.get? id = some t →
        m.statusOf id ≠ some .dispatched := by
  rw [validateAdmissions, refuse_eq_ok, List.any_eq_false]
  show (∀ i ∈ m.groupRecoveries, _) ↔ _
  refine forall₂_congr fun i hi => ?_
  rw [not_eq_true, List.any_eq_false]
  constructor
  · intro hall id t ht hs
    have hid := hall id (mem_keys_iff.mpr ⟨t, ht⟩)
    have hs : m.executionStatus.get? id = some .dispatched := hs
    simp only [checkpoint, hs] at hid
    simp at hid
  · intro hall id hid
    obtain ⟨t, ht⟩ := mem_keys_iff.mp hid
    obtain ⟨status, hs⟩ := SoundRounds.admitted_known h hi ht
    have hne := hall id t ht
    rw [hs] at hne
    have hs : m.executionStatus.get? id = some status := hs
    simp only [checkpoint, hs, all_some, beq_iff_eq]
    exact fun he => hne (by rw [he])

section

variable (h : SoundAttempts m.toAttemptLedger)
include h

lemma validateGenerations_checkpoint : m.checkpoint.validateGenerations = .ok () := by
  rw [validateGenerations, checkAgainstEarlier_eq_ok]
  intro l attempt r hsplit
  have hsplit : m.attemptGenerations.entries = l ++ attempt :: r := hsplit
  have hmem : attempt ∈ m.attemptGenerations.entries := by
    rw [hsplit]
    exact mem_append_right _ mem_cons_self
  have hpos := h.generations attempt.1 attempt.2 (mem_entries_iff.mp hmem)
  have hnew : attempt.1 ∉ l.map (·.1) := not_mem_earlier_keys m.attemptGenerations.nodup_keys hsplit
  rw [refuse_eq_ok, nil_append]
  simpa [Nat.ne_of_gt hpos] using hnew

lemma validateOutbox_checkpoint_iff : m.checkpoint.validateOutbox = .ok () ↔
      ∀ id context, m.executions.get? id = some context → isBlank id = false := by
  have hkeys : m.dispatchOutbox.values.map (·.executionId) = m.dispatchOutbox.keys := by
    have hentries := OrdMap.values_map_key fun id intent hi => (h.outbox id intent hi).1
    rw [OrdMap.keys, ← hentries, List.map_map]
    rfl
  rw [validateOutbox, checkAgainstEarlier_eq_ok]
  constructor
  · intro hall id context hcontext
    obtain ⟨intent, hintent⟩ := contains_eq_true_iff.mp (h.posted id context hcontext)
    obtain ⟨l, r, hsplit⟩ := append_of_mem (mem_values_iff.mpr ⟨id, hintent⟩)
    have hone := hall l intent r hsplit
    simp only [bind_eq_ok, refuse_eq_ok, or_eq_false_iff] at hone
    obtain ⟨_, -, ⟨⟨hblank, -⟩, -⟩, -⟩ := hone
    rwa [(h.outbox id intent hintent).1] at hblank
  · intro hnamed l intent r hsplit
    have hsplit : m.dispatchOutbox.values = l ++ intent :: r := hsplit
    obtain ⟨id, hintent⟩ := mem_values_iff.mp
      (show intent ∈ m.dispatchOutbox.values by
        rw [hsplit]
        exact mem_append_right _ mem_cons_self)
    obtain ⟨hid, hcontext, hnormal⟩ := h.outbox id intent hintent
    have hnew : intent.executionId ∉ l.map (·.executionId) := by
      refine not_mem_earlier_keys ?_ hsplit
      rw [hkeys]
      exact m.dispatchOutbox.nodup_keys
    have hblank := hnamed id _ hcontext
    rw [← hid] at hcontext hblank
    have hcontext : m.checkpoint.executions.get? intent.executionId =
        some ⟨intent.command, intent.resourceIds⟩ := hcontext
    rw [nil_append]
    simp only [bind_eq_ok, okOr_eq_ok, refuse_eq_ok]
    refine ⟨_, hcontext, ?_⟩
    simpa [hblank, hnormal] using hnew

lemma validateCancellations_checkpoint : m.checkpoint.validateCancellations = .ok () := by
  rw [validateCancellations, refuse_eq_ok, List.any_eq_false]
  intro id hid
  have hc : m.cancellationIntents.contains id = true := by
    rw [contains_eq_true_iff]
    exact mem_keys_iff.mp hid
  have hknown := h.cancellations id hc
  simpa [checkpoint] using hknown

lemma validateExecution_checkpoint (hcontext : m.executions.get? id = some context)
    (hnamed : isBlank id = false) : m.checkpoint.validateExecution id context = .ok () := by
  have hdeclared := h.declared id context hcontext
  have howned : m.checkpoint.executionNodes.get? id = some context.command.nodeId :=
    h.owned id context hcontext
  have hknown : m.checkpoint.executionStatus.contains id = true := h.known id context hcontext
  have hne : (id == "") = false := by
    rw [beq_eq_false_iff_ne]
    rintro rfl
    exact absurd hnamed (by decide)
  rw [validateExecution, context.command.memories_valid]
  simp [hdeclared, howned, hknown, hne]

end

lemma validateProof_checkpoint (h : Guarded m) {key : RelationKey}
    (hproof : m.relationProofs.get? key = some id) :
    m.checkpoint.validateProof (key, id) = .ok () := by
  obtain ⟨relation, context, hrelation, hcontext, hslot⟩ := h.proofKnown key id hproof
  rw [validateProof]
  -- the relation that is found is the one registered under the key
  cases hfind : m.checkpoint.relations.find? fun r => r.key == (key, id).1 with
  | none => rfl
  | some found =>
    obtain ⟨key', hfound⟩ := mem_values_iff.mp (mem_of_find?_eq_some hfind)
    have hkey : found.key = key := by simpa using find?_some hfind
    have hkey' := h.keyed key' found hfound
    rw [hkey] at hkey'
    rw [← hkey', hrelation] at hfound
    cases hfound
    have hcontext : m.checkpoint.executions.get? id = some context := hcontext
    simp [hcontext, hslot]

lemma validate_checkpoint_iff (h : Registry m) : m.checkpoint.validate = .ok () ↔
      (∀ id context, m.executions.get? id = some context → isBlank id = false) ∧
      ∀ i ∈ m.groupRecoveries, ∀ id t, i.admittedAtMs.get? id = some t →
        m.statusOf id ≠ some .dispatched := by
  rw [validate]
  simp only [bind_eq_ok]
  constructor
  · rintro ⟨⟨⟩, hadmissions, -, -, ⟨⟩, houtbox, -⟩
    exact ⟨(validateOutbox_checkpoint_iff h.attempts).mp houtbox,
      (validateAdmissions_checkpoint_iff h).mp hadmissions⟩
  · rintro ⟨hnamed, hadmitted⟩
    refine ⟨(), (validateAdmissions_checkpoint_iff h).mpr hadmitted, (),
      validateGenerations_checkpoint h.attempts, (),
      (validateOutbox_checkpoint_iff h.attempts).mpr hnamed, (),
      validateCancellations_checkpoint h.attempts, (), forM_eq_ok.mpr ?_, (),
      forM_eq_ok.mpr ?_, (), forM_eq_ok.mpr ?_, forM_eq_ok.mpr ?_⟩
    · rintro ⟨id, context⟩ hmem
      have hcontext := mem_entries_iff.mp hmem
      exact validateExecution_checkpoint h.attempts hcontext (hnamed id context hcontext)
    · rintro ⟨slot, id⟩ hmem
      obtain ⟨context, hcontext, hslot⟩ := h.relations.slots slot id
        (mem_entries_iff.mp hmem)
      replace hcontext : m.checkpoint.executions.get? id = some context := hcontext
      rw [validateActive, hcontext]
      simp [hslot]
    · intro id hmem
      obtain ⟨n, hn⟩ := mem_keys_iff.mp hmem
      have hknown : m.checkpoint.executionStatus.contains id = true := h.attempts.sequences id n hn
      rw [validateSequence, hknown]
      rfl
    · rintro ⟨_, id⟩ hmem
      exact validateProof_checkpoint h.relations (mem_entries_iff.mp hmem)

/-! ### The maps -/

lemma restoreRelationMaps_checkpoint (h : Guarded m)
    (hnamed : ∀ id context, m.executions.get? id = some context → isBlank id = false) :
    ∃ ledger, restoreRelationMaps m.checkpoint = .ok ledger := by
  have hknown : ∀ {key}, (∃ r, m.relations.get? key = some r) → m.relations.contains key = true :=
    fun hr => contains_eq_true_iff.mpr hr
  -- every relation has a state and every state a relation
  have hlength : m.relationStates.entries.length = m.relations.entries.length := by
    have hperm : m.relationStates.keys.Perm m.relations.keys := by
      refine (perm_ext_iff_of_nodup m.relationStates.nodup_keys m.relations.nodup_keys).mpr ?_
      intro key
      rw [mem_keys_iff, mem_keys_iff]
      constructor
      · rintro ⟨state, hs⟩
        exact h.covered key state hs
      · rintro ⟨r, hr⟩
        exact contains_eq_true_iff.mp (h.complete key r hr)
    simpa [OrdMap.keys] using hperm.length_eq
  rw [restoreRelationMaps]
  simp only [bind_eq_ok, pure_eq_ok, refuse_eq_ok]
  refine ⟨_, m.relations, ?_, m.relationStates, ?_, (), by simp [hlength], m.relationFences, ?_,
    m.relationProofs, ?_, rfl⟩
  · refine collect_entries (values_map_key h.keyed) fun r hr => ?_
    obtain ⟨key, hr⟩ := mem_values_iff.mp hr
    exact h.contract key r hr
  · refine collect_entries (map_id _) fun state hs => ?_
    have hs := mem_entries_iff.mp hs
    rw [refuse_eq_ok, hknown (h.covered _ _ hs)]
    rfl
  · refine collect_entries (keys_map_unit _) fun key hk => ?_
    obtain ⟨u, hu⟩ := mem_keys_iff.mp hk
    rw [refuse_eq_ok, hknown (h.fenceKnown key (contains_eq_true_iff.mpr ⟨u, hu⟩))]
    rfl
  · refine collect_entries (map_id _) fun proof hproof => ?_
    obtain ⟨r, _, hr, hcontext, -⟩ := h.proofKnown _ _ (mem_entries_iff.mp hproof)
    rw [refuse_eq_ok, hknown ⟨r, hr⟩, hnamed _ _ hcontext]
    rfl

lemma validChannel_iff (h : SoundCoordination m.toCoordinationLedger) {key : CoordinationKey}
    {channel : RuntimePeerChannel} (hchannel : m.peerChannels.get? key = some channel) :
    validChannel m.coordinationContexts channel = true ↔ 2 ≤ channel.peers.length := by
  have hdeclared := h.declared key channel hchannel
  rw [← h.channelKey key channel hchannel] at hdeclared
  have hsound := h.sound key channel hchannel
  have hacknowledged : channel.readiness.all (validReadiness channel) = true :=
    all_eq_true.mpr hsound.acknowledged
  rw [validChannel, hdeclared, hsound.profile, hsound.schema, hacknowledged]
  simp [hsound.peers, hsound.distinct]

lemma restoreCoordinationMaps_checkpoint_iff (h : SoundCoordination m.toCoordinationLedger) :
    (∃ maps, restoreCoordinationMaps m.checkpoint = .ok maps) ↔
      ∀ key channel, m.peerChannels.get? key = some channel → 2 ≤ channel.peers.length := by
  have hcontexts : collect
      (fun context : RuntimeCoordinationContext =>
        (toLex (context.groupId, context.contextId) : CoordinationKey))
      (fun context => context) validateContextView
      (invalid "checkpoint contains duplicate coordination Context") ∅
      m.checkpoint.coordinationContexts = .ok m.coordinationContexts := by
    refine collect_entries (values_map_key h.contextKey) fun context hc => ?_
    obtain ⟨key, hc⟩ := mem_values_iff.mp hc
    exact h.view key context hc
  rw [restoreCoordinationMaps, hcontexts]
  constructor
  · rintro ⟨_, hmaps⟩ key channel hchannel
    simp only [bind_eq_ok, Except.ok.injEq] at hmaps
    obtain ⟨_, rfl, _, hchannels, -⟩ := hmaps
    have hvalid := (collect_eq_ok hchannels).2 channel
      (mem_values_iff.mpr ⟨key, hchannel⟩)
    rw [refuse_eq_ok, not_eq_false'] at hvalid
    exact (validChannel_iff h hchannel).mp hvalid
  · intro hpeers
    refine ⟨(m.coordinationContexts, m.peerChannels), ?_⟩
    simp only [bind_eq_ok]
    refine ⟨_, rfl, m.peerChannels, ?_, rfl⟩
    refine collect_entries (values_map_key h.channelKey) fun channel hc => ?_
    obtain ⟨key, hc⟩ := mem_values_iff.mp hc
    rw [refuse_eq_ok, (validChannel_iff h hc).mpr (hpeers key channel hc)]
    rfl

lemma rebuild_checkpoint_iff (h : Registry m) :
    (∃ assembled, rebuild m.checkpoint = .ok assembled) ↔ Readable m := by
  constructor
  · rintro ⟨_, hrebuild⟩
    obtain ⟨-, hvalid, _, contexts, channels, _, _, _, _, hmaps, _⟩ := rebuild_ok hrebuild
    obtain ⟨hnamed, hadmitted⟩ := (validate_checkpoint_iff h).mp hvalid
    exact ⟨hnamed, hadmitted, (restoreCoordinationMaps_checkpoint_iff h.coordination).mp ⟨_, hmaps⟩⟩
  · rintro ⟨hnamed, hadmitted, hpeers⟩
    obtain ⟨ledger, hledger⟩ := restoreRelationMaps_checkpoint h.relations hnamed
    obtain ⟨⟨contexts, channels⟩, hmaps⟩ :=
      (restoreCoordinationMaps_checkpoint_iff h.coordination).mpr hpeers
    rw [rebuild]
    simp only [bind_eq_ok]
    refine ⟨_, (), validateTerminalTimes_checkpoint h.attempts, (),
      (validate_checkpoint_iff h).mpr ⟨hnamed, hadmitted⟩, ledger, hledger, (contexts, channels),
      hmaps, m.spatialEvidence, collect_entries (values_map_key h.evidence.keyed)
        fun e _ => ?_, m.activeExecutions, collect_entries (map_id _) fun _ _ => rfl,
          (), forM_eq_ok.mpr ?_, m.recoveryBudgets,
      collect_entries (values_map_key fun slot b hb => (h.stops.budget slot b hb).same)
        fun _ _ => rfl, rfl⟩
    · rw [refuse_eq_ok, e.executionId_nonblank, e.frameId_nonblank]
      rfl
    · rintro ⟨slot, e⟩ hmem
      replace hmem := mem_entries_iff.mp hmem
      have howned : m.checkpoint.executionNodes.get? e.executionId = some e.nodeId :=
        h.evidence.owned slot e hmem
      rw [validateEvidenceOwner, h.evidence.current slot e hmem, howned]
      simp

/-! ### The validators of the restored registry -/

lemma validateProgress_ok (h : SoundProgress m.toAttemptLedger m.progress) :
    m.validateProgress = .ok () := by
  rw [validateProgress, forM_eq_ok]
  rintro ⟨id, o⟩ hmem
  have hs := h id o (mem_entries_iff.mp hmem)
  obtain ⟨context, hcontext, hattributed⟩ := hs.attributed
  simp only [bind_eq_ok, okOr_eq_ok, refuse_eq_ok]
  refine ⟨context, hcontext, ?_⟩
  simp [hs.same, hattributed, hs.valid, hs.ordered]

lemma validStop_of_sound (h : SoundStops m.toAttemptLedger m.recoveryStops m.recoveryBudgets)
    {i : RecoveryStopIntent} (hi : m.recoveryStops.get? id = some i)
    (hcontext : m.executions.get? id = some context) :
    m.validStop id i (commandSlot context.command) = true := by
  have hs := h.stop id i hi
  obtain ⟨_, budget, hcontext', hbudget, hlimit⟩ := hs.charged
  rw [hcontext] at hcontext'
  cases hcontext'
  have hb := h.budget _ budget hbudget
  have hwithin : budget.used ≤ i.maxReplacements := hlimit ▸ hb.within
  have hconfirmed : (i.confirmedAtMs.all fun time =>
      decide (i.requestedAtMs ≤ time) && m.statusOf id == some .cancelled) = true := by
    rw [Option.all_eq_true]
    intro time ht
    obtain ⟨hle, hstatus⟩ := hs.confirmed time ht
    simp [hle, hstatus]
  have hreleased : (!i.releaseAuthorized ||
      i.confirmedAtMs.any fun time => time < i.deadlineMs) = true := by
    cases hr : i.releaseAuthorized with
    | false => rfl
    | true =>
      obtain ⟨_, ht, hlt⟩ := hs.released hr
      simp [ht, hlt]
  rw [validStop, hbudget, hconfirmed, hreleased]
  simp [hs.same, hs.positive, hs.inHour, hs.deadline, hs.cancelling, hlimit, hb.positive, hwithin]

lemma validateRecoveryStops_ok
    (h : SoundStops m.toAttemptLedger m.recoveryStops m.recoveryBudgets) :
    m.validateRecoveryStops = .ok () := by
  rw [validateRecoveryStops]
  simp only [bind_eq_ok]
  refine ⟨(), forM_eq_ok.mpr ?_, forM_eq_ok.mpr ?_⟩
  · rintro ⟨id, i⟩ hmem
    have hi := mem_entries_iff.mp hmem
    obtain ⟨context, -, hcontext, -⟩ := (h.stop id i hi).charged
    simp only [bind_eq_ok, okOr_eq_ok, refuse_eq_ok]
    exact ⟨context, hcontext, by rw [validStop_of_sound h hi hcontext]; rfl⟩
  · rintro ⟨slot, b⟩ hmem
    have hs := h.budget slot b (mem_entries_iff.mp hmem)
    have hcount : m.recoveryStops.values.countP (m.stopInSlot slot) = b.used := hs.count
    rw [refuse_eq_ok, validBudget, hcount]
    simp [hs.same, hs.atLeastOne, hs.atMost, hs.within, Nat.ne_of_gt hs.positive]

section

variable {i : GroupRecoveryStopIntent} {session : ExecutionSessionDescriptor}
  {shared : Option ExecutionSessionDescriptor}

section

variable (h : SoundRound m.toAttemptLedger i)
include h

lemma validRoundSets_of_sound : validRoundSets i = true := by
  have hpreserved : i.preservedCompleted.keys.all i.memberIds.contains = true := by
    rw [List.all_eq_true]
    intro id hid
    have hc := contains_eq_true_iff.mpr (mem_keys_iff.mp hid)
    exact List.contains_iff_mem.mpr (h.preserved id hc).1
  have hconfirmed : i.confirmedAtMs.keys.all i.memberIds.contains = true := by
    rw [List.all_eq_true]
    intro id hid
    obtain ⟨t, ht⟩ := mem_keys_iff.mp hid
    exact List.contains_iff_mem.mpr (h.confirmed id t ht).1
  rw [validRoundSets, hpreserved, hconfirmed]
  simp [h.distinct]

lemma validRoundTimes_of_sound : validRoundTimes i = true := by
  rw [validRoundTimes]
  split
  · next hempty =>
    rw [entries_isEmpty_iff] at hempty
    obtain ⟨hprepared, hadmitted⟩ := h.waiting hempty
    rw [hprepared, hadmitted]
    rfl
  · next hne =>
    rw [entries_isEmpty_iff] at hne
    obtain ⟨prepared, hc⟩ := h.continued hne
    have hbefore : (i.confirmedAtMs.values.all fun time => time ≤ prepared) = true := by
      rw [List.all_eq_true]
      intro time htime
      obtain ⟨id, ht⟩ := mem_values_iff.mp htime
      exact decide_eq_true (hc.confirmedBefore id time ht)
    have hafter : ∀ id time, (id, time) ∈ i.admittedAtMs.entries →
        prepared ≤ time ∧ i.hasReplacement id = true := by
      intro id time hmem
      exact hc.admittedAfter id time (mem_entries_iff.mp hmem)
    rw [hc.preparedAt, any_some, hbefore]
    simpa [hc.afterRequest, hc.inTime] using hafter

lemma validMember_of_sound {member : GroupRecoveryMember}
    (hm : SoundMember m.toAttemptLedger i.groupId i.preservedCompleted session member context)
    (hshared : shared.all (· == session) = true) :
    m.validMember i member shared = some session := by
  have hsession : validMemberSession i.groupId context.command session = true := by
    rw [validMemberSession, hm.validSlot, hm.independent]
    simp [hm.bounded, Except.isOk, Except.toBool]
  have houtcome : (if i.preservedCompleted.contains member.executionId
      then m.statusOf member.executionId == some .completed
      else member.repeatAuthorized && m.cancellationIntents.contains member.executionId) =
      true := by
    split
    · next hp => simp [(h.preserved _ hp).2]
    · next hp =>
      obtain ⟨hrepeat, hcancel⟩ := hm.authorized.resolve_left hp
      rw [hrepeat, hcancel]
      rfl
  have hconfirmed : ((i.confirmedAtMs.get? member.executionId).all fun time =>
      decide (i.requestedAtMs ≤ time) && confirmsStop (m.statusOf member.executionId)) = true := by
    rw [Option.all_eq_true]
    intro time ht
    obtain ⟨-, -, hle, hstop⟩ := h.confirmed _ time ht
    simp [hle, hstop]
  rw [validMember, hm.known, bind_some]
  show context.command.session.bind _ = _
  rw [hm.hasSession, bind_some, hshared, hsession, hm.declaration, houtcome, hconfirmed,
    hm.sameGroup, hm.sameNode]
  simp

lemma validMembers_of_sound
    {members : List GroupRecoveryMember} (hmembers : ∀ member ∈ members, ∃ context,
      SoundMember m.toAttemptLedger i.groupId i.preservedCompleted session member context)
    (hshared : shared.all (· == session) = true) : m.validMembers i shared members = true := by
  induction members generalizing shared with
  | nil => rfl
  | cons member members ih =>
    obtain ⟨_, hm⟩ := hmembers member mem_cons_self
    rw [validMembers, validMember_of_sound h hm hshared]
    exact ih (fun member' hmem => hmembers member' (mem_cons_of_mem _ hmem)) (by simp)

end

lemma SoundRound.member_group {a : AttemptLedger} (h : SoundRound a i) (hid : id ∈ i.memberIds)
    (hcontext : a.executions.get? id = some context) : context.command.groupId = i.groupId := by
  obtain ⟨member, hmem, rfl⟩ := mem_map.mp hid
  obtain ⟨_, hmembers⟩ := h.members
  obtain ⟨_, hm⟩ := hmembers member hmem
  have hsame := hm.known
  rw [hcontext] at hsame
  cases hsame
  exact hm.sameGroup

lemma validReplacements_of_sound (h : SoundRound m.toAttemptLedger i) :
    m.validReplacements i = true := by
  rw [validReplacements]
  by_cases hempty : i.replacements = ∅
  · rw [hempty]
    rfl
  obtain ⟨_, hc⟩ := h.continued hempty
  have hsources : OrdSet.ofList i.replacements.keys = OrdSet.ofList (m.cancelledMembers i) := by
    rw [OrdSet.ofList_eq_iff]
    intro id
    rw [mem_keys_iff, ← contains_eq_true_iff, hc.sources id, cancelledMembers,
      List.mem_filter, beq_iff_eq]
  have hstopped : (i.memberIds.all fun id => i.preservedCompleted.contains id ||
      (i.confirmedAtMs.get? id).any fun time => time < i.deadlineMs) = true := by
    rw [List.all_eq_true]
    intro id hid
    rcases hc.allStopped id hid with hp | ⟨_, ht, hlt⟩
    · rw [hp]
      rfl
    · simp [ht, hlt]
  have hrepeats : ∀ source replacement, (source, replacement) ∈ i.replacements.entries →
      m.validReplacement i source replacement = true := by
    intro source replacement hmem
    have hget := mem_entries_iff.mp hmem
    obtain ⟨original, actual, ho, ha, hsame, hnot⟩ := hc.repeats source replacement hget
    have hsource := ((hc.sources source).mp
      (contains_eq_true_iff.mpr ⟨replacement, hget⟩)).1
    have hgroup : actual.command.groupId = i.groupId := by
      have hgroups : actual.command.groupId = original.command.groupId := by
        simp only [sameInvocation, and_eq_true, beq_iff_eq] at hsame
        exact hsame.1.1.1.1.2
      rw [hgroups, h.member_group hsource ho]
    rw [validReplacement, ha, ho]
    simp [hsame, hgroup, hnot]
  rw [hsources, hstopped]
  simpa [hc.distinct] using .inr hrepeats

lemma validRound_of_sound (h : SoundRound m.toAttemptLedger i) : m.validRound i = true := by
  obtain ⟨_, hmembers⟩ := h.members
  have hvalid : m.validMembers i none i.members = true := validMembers_of_sound h hmembers rfl
  have hpolicy : validRoundPolicy i = true := by
    simp [validRoundPolicy, h.nonblank, h.shortId, h.nonempty, h.bounded, h.positive, h.inHour,
      h.atLeastOne, h.atMost, h.deadline]
  rw [validRound, hpolicy, validRoundSets_of_sound h,
    validRoundTimes_of_sound h, hvalid, validReplacements_of_sound h]
  rfl

end

lemma validateGroupRecoveries_ok (h : SoundRounds m.toAttemptLedger m.groupRecoveries) :
    m.validateGroupRecoveries = .ok () := by
  rw [validateGroupRecoveries, checkAgainstEarlier_eq_ok]
  intro l i r hsplit
  have hmem : i ∈ m.groupRecoveries := by
    rw [hsplit]
    exact mem_append_right _ mem_cons_self
  have hearlier : ∀ previous ∈ l, previous.groupId = i.groupId → Follows previous i := by
    intro previous hprevious
    have hordered := h.ordered
    rw [hsplit, pairwise_append] at hordered
    exact hordered.2.2 previous hprevious i mem_cons_self
  -- the round itself counts towards the limit, so the earlier ones stay below it
  have hbelow : (l.filter fun previous => previous.groupId == i.groupId).length <
      i.maxReplacements := by
    have hbound := h.bounded i hmem
    rw [hsplit, countP_append, countP_cons, if_pos (by simp)] at hbound
    rw [← countP_eq_length_filter]
    omega
  have hhistory : ((l.filter fun previous => previous.groupId == i.groupId).any fun previous =>
      previous.recoveryId == i.recoveryId ||
        previous.maxReplacements != i.maxReplacements) = false := by
    rw [List.any_eq_false]
    intro previous hprevious
    obtain ⟨hprevious, hgroup⟩ := List.mem_filter.mp hprevious
    have hfollows := hearlier previous hprevious (beq_iff_eq.mp hgroup)
    simp [hfollows.newId, hfollows.sameLimit]
  rw [nil_append]
  show refuse (!m.validRound i || decide (i.maxReplacements ≤ _) || _) _ = _
  rw [refuse_eq_ok, validRound_of_sound (h.sound i hmem), hhistory]
  simpa using hbelow

/-! ### Restoring -/

lemma restore_checkpoint_iff (h : Registry m) :
    restore m.checkpoint = .ok m.restored ↔ Readable m := by
  constructor
  · intro hrestore
    obtain ⟨assembled, hrebuild, -⟩ := restore_ok hrestore
    exact (rebuild_checkpoint_iff h).mp ⟨assembled, hrebuild⟩
  · intro hreadable
    obtain ⟨assembled, hrebuild⟩ := (rebuild_checkpoint_iff h).mpr hreadable
    have hrestored := rebuild_eq h hrebuild
    have hp := (restoredFrom_restored m).persists
    have hrecoveries := recoveries_restored m
    have hprogress : m.restored.validateProgress = .ok () := by
      refine validateProgress_ok ?_
      rw [coordination_restored]
      exact h.progress.persists hp
    have hstops : m.restored.validateRecoveryStops = .ok () := by
      refine validateRecoveryStops_ok ?_
      rw [hrecoveries]
      exact h.stops.persists hp
    have hrounds : m.restored.validateGroupRecoveries = .ok () := by
      refine validateGroupRecoveries_ok ?_
      rw [hrecoveries]
      exact h.rounds.persists hp
    rw [restore]
    simp only [bind_eq_ok, pure_eq_ok]
    rw [restored] at hprogress hstops hrounds
    exact ⟨assembled, hrebuild, (), hrestored ▸ hprogress, (), hrestored ▸ hstops, (),
      hrestored ▸ hrounds, by rw [hrestored, restored]⟩

end RoboGuide.Runtime
