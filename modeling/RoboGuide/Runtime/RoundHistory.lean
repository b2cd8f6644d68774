import RoboGuide.Runtime.Attempts

/-!
# `RoboGuide.Runtime.RoundHistory`: the history of Group recovery rounds

Rounds are appended and never removed. A round keeps its members and policy; what is added
to it later is its confirmations, one association of replacements, and its admissions.
`SoundRounds` says what is true of the history in every reachable state; it is the invariant
behind both the guarantees of a continuation and the acceptance of a checkpoint.
-/

namespace RoboGuide.Runtime

open Domain Lib Fallible GroupRecoveryStopIntent List RuntimeExecutionManager Bool

variable {id : ExecutionId} {group : ExecutionGroupId} {now : TimestampMs}

/-! ### Which calls touch recoveries -/

/-- The ledgers and evidence that facts about attempts leave alone. -/
def RuntimeExecutionManager.aside (m : RuntimeExecutionManager) :
    RecoveryLedger × CoordinationLedger × OrdMap ExecutionSlot SharedSpatialEvidence :=
  (m.toRecoveryLedger, m.toCoordinationLedger, m.spatialEvidence)

section

variable (m : RuntimeExecutionManager)

lemma Refreshed.aside {m m' : RuntimeExecutionManager} (h : Refreshed m m') :
    m'.aside = m.aside := by
  rw [RuntimeExecutionManager.aside, h.recoveries, h.coordination, h.evidence]
  rfl

lemma ambiguous_aside (id : ExecutionId) : (m.ambiguous id).aside = m.aside := by
  rw [ambiguous]
  split
  · rfl
  · split
    · exact (refreshed_refreshRelationsForSlot _ _).aside
    · rfl

lemma loseAttempts_aside (node : NodeId) (reason : String) (ids : List ExecutionId) :
    (m.loseAttempts node reason ids).1.aside = m.aside := by
  induction ids generalizing m with
  | nil => rfl
  | cons id ids ih =>
    refine (ih _).trans ?_
    rw [loseAttempt]
    cases m.executions.get? id with
    | none => rfl
    | some => exact (refreshed_refreshRelationsForSlot _ _).aside

lemma factState_aside (id : ExecutionId) (node : NodeId) (sequence : Nat)
    (status : ExecutionStatus) (reason : String) :
    (m.factState id node sequence status reason).aside = m.aside := by
  rw [factState, reduceFact]
  cases (m.recordFact id node sequence status).executions.get? id with
  | none => rfl
  | some =>
    dsimp only
    split
    · rw [reduceCurrent]
      refine (refreshed_refreshRelationsForSlot _ _).aside.trans ?_
      split <;> rfl
    · rfl

lemma addRelations_aside (relations : List RuntimeExecutionRelation) :
    (m.addRelations relations).aside = m.aside := by
  refine foldl_view aside (fun m relation => ?_) relations m
  rw [addRelation]
  split <;> rfl

end

lemma restore_recoveries {m m' : RuntimeExecutionManager} (h : restore m.checkpoint = .ok m') :
    m'.groupRecoveries = m.groupRecoveries ∧ m'.recoveryStops = m.recoveryStops := by
  obtain ⟨_, hassembled, rfl, -⟩ := restore_ok h
  obtain ⟨-, -, _, _, _, _, _, _, -, -, -, -, -, rfl⟩ := rebuild_ok hassembled
  rw [refreshAllRelationsAfterRestore, (refreshed_refreshKeys _ _).recoveries]
  exact ⟨rfl, rfl⟩

inductive RoundMove (m : RuntimeExecutionManager) :
    RuntimeCall → RuntimeExecutionManager → Prop where
  | kept {call m'} (h : m'.groupRecoveries = m.groupRecoveries) : RoundMove m call m'
  | aborted {call m'} (id : ExecutionId)
      (h : m'.groupRecoveries = (m.abortGroupRecoveryForAttempt id).groupRecoveries) :
      RoundMove m call m'
  | requested {call m'} (group : ExecutionGroupId) (now : TimestampMs)
      (intent : GroupRecoveryStopIntent) (hround : RequestedRound m group now intent)
      (h : m' = m.addGroupRound intent) : RoundMove m call m'
  | confirmed {m'} (id : ExecutionId) (receivedAt : TimestampMs)
      (hstop : confirmsStop (m.statusOf id) = true)
      (h : m'.groupRecoveries = m.groupRecoveries.map (confirmRound id receivedAt)) :
      RoundMove m (.confirmGroupRecoveryStop id receivedAt) m'
  | admitted {call m'} (id : ExecutionId) (receivedAt : TimestampMs)
      (hadmission : confirmsAdmission (m.statusOf id) = true)
      (h : m'.groupRecoveries = m.groupRecoveries.map (admitRound id receivedAt)) :
      RoundMove m call m'
  | continued {call m'} (group : ExecutionGroupId) (now : TimestampMs)
      (replacements : OrdMap ExecutionId ExecutionId) (intent : GroupRecoveryStopIntent)
      (hlatest : m.groupRecovery group = some intent)
      (hchecked : CheckedContinuation m now replacements intent)
      (h : m' = m.publishContinuation group now replacements) : RoundMove m call m'

variable {m m' : RuntimeExecutionManager} {call : RuntimeCall}
  {replacements : OrdMap ExecutionId ExecutionId}

lemma Effect.rounds (h : Effect m call m') : RoundMove m call m' := by
  have haside {m' : RuntimeExecutionManager} (h : m'.aside = m.aside) : RoundMove m call m' :=
    .kept (congrArg (fun p => p.1.groupRecoveries) h)
  cases h with
  | registered => exact haside (addRelations_aside m _)
  | rejected | cancellationRejected => exact haside (ambiguous_aside m _)
  | observed | received => exact haside (factState_aside m _ _ _ _ _)
  | receivedTerminal =>
    refine haside ?_
    exact factState_aside m _ _ _ _ _
  | nodeUnavailable => exact haside (loseAttempts_aside m _ _ _)
  | evidence =>
    exact .kept (congrArg (·.groupRecoveries) (refreshed_refreshRelationsForSlot _ _).recoveries)
  | cancelled => exact .aborted _ rfl
  | stopConfirmed =>
    refine .kept ?_
    rw [confirmRecoveryStop]
    split <;> rfl
  | released =>
    refine .kept ?_
    rw [markRecoveryRelease]
    split <;> rfl
  | roundRequested intent h => exact .requested _ _ intent (requestedRound_of_valid h).1 rfl
  | @roundConfirmed id receivedAt =>
    rw [confirmGroupRecoveryStop]
    split
    · next hstop => exact .confirmed id receivedAt hstop rfl
    · exact .kept rfl
  | @admitted id receivedAt =>
    rw [confirmGroupContinuationAdmission]
    split
    · next hadmission => exact .admitted id receivedAt hadmission rfl
    · exact .kept rfl
  | continued h =>
    obtain ⟨intent, hlatest, -, hchecked⟩ := checkedContinuation_of_valid h
    exact .continued _ _ _ intent hlatest hchecked rfl
  | progressed =>
    refine .kept ?_
    rw [observeProgress]
    split
    · split <;> rfl
    · rfl
  | restarted _ hrestore => exact .kept (restore_recoveries hrestore).1
  | unchanged | contextAdded | allocated | prepared | dispatched | redispatched | delivered
  | counted | receipt | stopRequested | acknowledged | readinessRefused | readiness | deadlines
  | nodeFenced | channelFenced | channelClosed | groupClosed | progressFenced => exact .kept rfl

/-! ### One round -/

structure SoundMember (a : AttemptLedger) (group : ExecutionGroupId)
    (preserved : OrdSet ExecutionId) (session : ExecutionSessionDescriptor)
    (member : GroupRecoveryMember) (context : ExecutionContext) : Prop
    extends MemberCommand a group member context session where
  authorized : preserved.contains member.executionId = true ∨
    (member.repeatAuthorized = true ∧
      a.cancellationIntents.contains member.executionId = true)

/-- The association of a round that was continued at `prepared`. -/
structure SoundContinuation (a : AttemptLedger) (i : GroupRecoveryStopIntent)
    (prepared : TimestampMs) : Prop where
  preparedAt : i.preparedAtMs = some prepared
  afterRequest : i.requestedAtMs ≤ prepared
  inTime : prepared < i.deadlineMs
  confirmedBefore : ∀ id t, i.confirmedAtMs.get? id = some t → t ≤ prepared
  admittedAfter : ∀ id t, i.admittedAtMs.get? id = some t →
    prepared ≤ t ∧ i.hasReplacement id = true
  allStopped : ∀ id ∈ i.memberIds, i.preservedCompleted.contains id = true ∨
    ∃ t, i.confirmedAtMs.get? id = some t ∧ t < i.deadlineMs
  sources : ∀ id, i.replacements.contains id = true ↔
    id ∈ i.memberIds ∧ a.statusOf id = some .cancelled
  distinct : i.replacements.values.Nodup
  repeats : ∀ source replacement, i.replacements.get? source = some replacement →
    ∃ original actual, a.executions.get? source = some original ∧
      a.executions.get? replacement = some actual ∧ sameInvocation original actual = true ∧
      replacement ∉ i.memberIds

structure SoundRound (a : AttemptLedger) (i : GroupRecoveryStopIntent) : Prop where
  nonblank : isBlank i.recoveryId = false
  shortId : i.recoveryId.utf8ByteSize ≤ 256
  nonempty : i.members ≠ []
  bounded : i.members.length ≤ 32
  positive : i.timeoutMs ≠ 0
  inHour : i.timeoutMs ≤ 3600000
  atLeastOne : 1 ≤ i.maxReplacements
  atMost : i.maxReplacements ≤ 16
  deadline : checkedAdd i.requestedAtMs i.timeoutMs = some i.deadlineMs
  distinct : i.memberIds.Nodup
  preserved : ∀ id, i.preservedCompleted.contains id = true →
    id ∈ i.memberIds ∧ a.statusOf id = some .completed
  confirmed : ∀ id t, i.confirmedAtMs.get? id = some t →
    id ∈ i.memberIds ∧ i.preservedCompleted.contains id = false ∧ i.requestedAtMs ≤ t ∧
      confirmsStop (a.statusOf id) = true
  members : ∃ session, ∀ member ∈ i.members, ∃ context,
    SoundMember a i.groupId i.preservedCompleted session member context
  waiting : i.replacements = ∅ → i.preparedAtMs = none ∧ i.admittedAtMs = ∅
  continued : i.replacements ≠ ∅ → ∃ prepared, SoundContinuation a i prepared

lemma Persists.confirmsStop {a a' : AttemptLedger} (h : Persists a a')
    (hstop : confirmsStop (a.statusOf id) = true) : a'.statusOf id = a.statusOf id := by
  obtain ⟨status, hs, hterminal⟩ : ∃ s, a.statusOf id = some s ∧ s.isTerminal = true := by
    rw [Runtime.confirmsStop.eq_def] at hstop
    split at hstop
    · exact ⟨_, by assumption, rfl⟩
    · exact ⟨_, by assumption, rfl⟩
    · cases hstop
  rw [hs]
  exact h.terminal id status hs hterminal

namespace SoundRound

variable {a a' : AttemptLedger} {i : GroupRecoveryStopIntent}

lemma persists (h : SoundRound a i) (hp : Persists a a') : SoundRound a' i := by
  have hpreserved : ∀ id, i.preservedCompleted.contains id = true →
      a'.statusOf id = some .completed :=
    fun id hid => hp.terminal id _ (h.preserved id hid).2 rfl
  refine { h with
    preserved := fun id hid => ⟨(h.preserved id hid).1, hpreserved id hid⟩
    confirmed := fun id t ht => ?_
    members := ?_
    continued := fun hne => ?_ }
  · obtain ⟨hmem, hpres, hle, hstop⟩ := h.confirmed id t ht
    exact ⟨hmem, hpres, hle, by rw [hp.confirmsStop hstop]; exact hstop⟩
  · obtain ⟨session, hmembers⟩ := h.members
    refine ⟨session, fun member hmem => ?_⟩
    obtain ⟨context, hm⟩ := hmembers member hmem
    exact ⟨context, { hm with
      known := hp.context _ _ hm.known
      authorized := hm.authorized.imp_right (And.imp_right (hp.cancellation _)) }⟩
  · obtain ⟨prepared, hc⟩ := h.continued hne
    refine ⟨prepared, { hc with sources := fun id => ?_, repeats := fun s r hsr => ?_ }⟩
    · -- every member has a final outcome, so the cancelled ones stay the same
      rw [hc.sources id]
      refine and_congr_right fun hmem => ?_
      have hsame : a'.statusOf id = a.statusOf id := by
        rcases hc.allStopped id hmem with hpres | ⟨t, ht, -⟩
        · rw [hpreserved id hpres, (h.preserved id hpres).2]
        · exact hp.confirmsStop (h.confirmed id t ht).2.2.2
      rw [hsame]
    · obtain ⟨original, actual, ho, ha, hsame, hnot⟩ := hc.repeats s r hsr
      exact ⟨original, actual, hp.context _ _ ho, hp.context _ _ ha, hsame, hnot⟩

lemma abort (h : SoundRound a i) : SoundRound a { i with aborted := true } :=
  { h with continued := fun hne => (h.continued hne).imp fun _ hc => { hc with } }

lemma requested
    (h : RequestedRound m group now i) : SoundRound (m.addGroupRound i).toAttemptLedger i := by
  refine
    { nonblank := h.nonblank, shortId := h.shortId, nonempty := h.nonempty, bounded := h.bounded
      positive := h.positive, inHour := h.inHour, atLeastOne := h.atLeastOne, atMost := h.atMost
      deadline := by rw [h.requested]; exact h.deadline
      distinct := h.distinct
      preserved := h.preserved
      confirmed := fun id t ht => ?_
      members := ?_
      waiting := fun _ => ⟨h.prepared, h.admitted⟩
      continued := fun hne => absurd h.replacements hne }
  · rw [h.confirmed] at ht
    cases ht
  · obtain ⟨session, hmembers⟩ := h.members
    refine ⟨session, fun member hmem => ?_⟩
    obtain ⟨context, completed, hc, hpres⟩ := hmembers member hmem
    have hcommand : MemberCommand m.toAttemptLedger i.groupId member context session :=
      h.sameGroup ▸ hc.toMemberCommand
    refine ⟨context, { hcommand with known := hc.known, authorized := ?_ }⟩
    · by_cases hp : i.preservedCompleted.contains member.executionId = true
      · exact .inl hp
      · have hopen : completed = false := by
          cases completed
          · rfl
          · exact absurd (hpres rfl) hp
        subst hopen
        refine .inr ⟨hc.status.1, (OrdSet.contains_foldl_insert _ _ _).mpr (.inr ?_)⟩
        refine mem_filter.mpr ⟨mem_map_of_mem hmem, ?_⟩
        simpa using hp

lemma confirm (h : SoundRound a i) (t : TimestampMs)
    (hstop : confirmsStop (a.statusOf id) = true) : SoundRound a (confirmRound id t i) := by
  rw [confirmRound]
  split
  case isFalse => exact h
  next hnew =>
  simp only [and_eq_true, not_eq_true', decide_eq_true_eq] at hnew
  obtain ⟨⟨⟨hpres, hmember⟩, hle⟩, hfresh⟩ := hnew
  have hmem : id ∈ i.memberIds := by simpa [hasMember, memberIds] using hmember
  refine { h with
    confirmed := fun id' t' ht' => ?_
    continued := fun hne => ?_ }
  · rcases insert_cases ht' with ⟨rfl, rfl⟩ | ⟨-, ht'⟩
    · exact ⟨hmem, hpres, hle, hstop⟩
    · exact h.confirmed id' t' ht'
  · -- once continued, every member has its confirmation
    obtain ⟨_, hc⟩ := h.continued hne
    rcases hc.allStopped id hmem with hp | ⟨t', ht', -⟩
    · rw [hp] at hpres
      cases hpres
    · rw [OrdMap.contains, ht'] at hfresh
      cases hfresh

lemma admitReplacement (h : SoundRound a i) (id : ExecutionId) (t : TimestampMs) :
    SoundRound a (admitRound id t i) := by
  rw [admitRound]
  split
  case isFalse => exact h
  next hnew =>
  simp only [and_eq_true] at hnew
  obtain ⟨⟨hreplacement, hprepared⟩, -⟩ := hnew
  refine { h with
    waiting := fun he => ?_
    continued := fun hne => ?_ }
  · rw [hasReplacement, show i.replacements = ∅ from he] at hreplacement
    cases hreplacement
  · obtain ⟨prepared, hc⟩ := h.continued hne
    refine ⟨prepared, { hc with admittedAfter := fun id' t' ht' => ?_ }⟩
    rcases insert_cases ht' with ⟨rfl, rfl⟩ | ⟨-, ht'⟩
    · rw [hc.preparedAt] at hprepared
      exact ⟨by simpa using hprepared, hreplacement⟩
    · exact hc.admittedAfter id' t' ht'

lemma stopped (h : m.memberStopped i now id = true) : i.preservedCompleted.contains id = true ∨
      ∃ t, i.confirmedAtMs.get? id = some t ∧ t < i.deadlineMs ∧ t ≤ now := by
  rw [memberStopped, or_eq_true, and_eq_true] at h
  refine h.imp_right fun h => ?_
  cases ht : i.confirmedAtMs.get? id with
  | none => simp [ht] at h
  | some t =>
    refine ⟨t, rfl, ?_⟩
    simpa [ht] using h.2

lemma publish (h : SoundRound m.toAttemptLedger i)
    (hc : CheckedContinuation m now replacements i) : SoundRound m.toAttemptLedger
      { i with replacements := replacements, preparedAtMs := some now } := by
  have hconfirmed : ∀ id t, i.confirmedAtMs.get? id = some t → t ≤ now := by
    intro id t ht
    obtain ⟨hmem, hpres, -⟩ := h.confirmed id t ht
    rcases SoundRound.stopped (hc.stopped id hmem) with hp | ⟨t', ht', -, hle⟩
    · rw [hp] at hpres
      cases hpres
    · rw [ht] at ht'
      cases ht'
      exact hle
  refine { h with
    waiting := fun he => absurd he hc.nonempty
    continued := fun _ => ⟨now, ?_⟩ }
  · refine
      { preparedAt := rfl
        afterRequest := ?_
        inTime := hc.inTime
        confirmedBefore := hconfirmed
        admittedAfter := fun id t ht => ?_
        allStopped := fun id hmem => ?_
        sources := fun id => ?_
        distinct := hc.distinct
        repeats := fun source replacement hget => ?_ }
    · -- some member was cancelled, and its confirmation is not earlier than the request
      obtain ⟨source, hsource⟩ : ∃ source, replacements.contains source = true := by
        by_contra hnone
        refine hc.nonempty (OrdMap.ext_get? fun k => ?_)
        rw [OrdMap.get?_empty]
        cases hget : replacements.get? k with
        | none => rfl
        | some => exact absurd ⟨k, by rw [OrdMap.contains, hget]; rfl⟩ hnone
      obtain ⟨hmem, hcancelled⟩ := mem_filter.mp ((hc.sources source).mp hsource)
      rcases SoundRound.stopped (hc.stopped source hmem) with hp | ⟨t, ht, -, hle⟩
      · rw [(h.preserved source hp).2] at hcancelled
        cases hcancelled
      · exact (h.confirmed source t ht).2.2.1.trans hle
    · rw [show i.admittedAtMs = ∅ from (h.waiting hc.open_).2] at ht
      cases ht
    · rcases SoundRound.stopped (hc.stopped id hmem) with hp | ⟨t, ht, hlt, -⟩
      · exact .inl hp
      · exact .inr ⟨t, ht, hlt⟩
    · rw [hc.sources id, cancelledMembers, mem_filter, beq_iff_eq]
      rfl
    · obtain ⟨original, actual, ho, ha, hsame, hdispatched⟩ := hc.repeats source replacement hget
      refine ⟨original, actual, ho, ha, hsame, fun hmem => ?_⟩
      rcases SoundRound.stopped (hc.stopped replacement hmem) with hp | ⟨t, ht, -⟩
      · rw [(h.preserved replacement hp).2] at hdispatched
        cases hdispatched
      · have hstop := (h.confirmed replacement t ht).2.2.2
        rw [hdispatched] at hstop
        cases hstop

end SoundRound

/-! ### The history -/

structure Follows (earlier later : GroupRecoveryStopIntent) : Prop where
  newId : earlier.recoveryId ≠ later.recoveryId
  sameLimit : earlier.maxReplacements = later.maxReplacements
  notAgain : ∀ id, earlier.replacements.contains id = true → id ∉ later.memberIds

/-- Rounds are sound one by one, in order and within their limit. -/
structure SoundRounds (a : AttemptLedger) (rounds : List GroupRecoveryStopIntent) : Prop where
  sound : ∀ i ∈ rounds, SoundRound a i
  ordered : rounds.Pairwise fun x y => x.groupId = y.groupId → Follows x y
  bounded : ∀ i ∈ rounds, rounds.countP (fun r => r.groupId == i.groupId) ≤ i.maxReplacements

namespace SoundRounds

variable {a a' : AttemptLedger} {rounds : List GroupRecoveryStopIntent}
  {intent : GroupRecoveryStopIntent}

lemma persists (h : SoundRounds a rounds) (hp : Persists a a') : SoundRounds a' rounds :=
  { h with sound := fun i hi => (h.sound i hi).persists hp }

/-- What the order of rounds depends on. -/
def identity (i : GroupRecoveryStopIntent) :
    ExecutionGroupId × String × Nat × List GroupRecoveryMember × OrdMap ExecutionId ExecutionId :=
  (i.groupId, i.recoveryId, i.maxReplacements, i.members, i.replacements)

lemma map (h : SoundRounds a rounds) {f : GroupRecoveryStopIntent → GroupRecoveryStopIntent}
    (hidentity : ∀ i, identity (f i) = identity i)
    (hsound : ∀ i, SoundRound a i → SoundRound a (f i)) : SoundRounds a (rounds.map f) := by
  have hfields : ∀ i, (f i).groupId = i.groupId ∧ (f i).recoveryId = i.recoveryId ∧
      (f i).maxReplacements = i.maxReplacements ∧ (f i).members = i.members ∧
      (f i).replacements = i.replacements := by
    intro i
    have := hidentity i
    simpa only [identity, Prod.mk.injEq] using this
  refine ⟨fun i hi => ?_, ?_, fun i hi => ?_⟩
  · obtain ⟨j, hj, rfl⟩ := mem_map.mp hi
    exact hsound j (h.sound j hj)
  · refine pairwise_map.mpr (h.ordered.imp fun {x y} hxy hgroup => ?_)
    obtain ⟨hxg, hxi, hxl, _, hxr⟩ := hfields x
    obtain ⟨hyg, hyi, hyl, hym, _⟩ := hfields y
    rw [hxg, hyg] at hgroup
    have hf := hxy hgroup
    refine ⟨?_, ?_, fun id hid => ?_⟩
    · rw [hxi, hyi]
      exact hf.newId
    · rw [hxl, hyl]
      exact hf.sameLimit
    · rw [memberIds, hym]
      rw [hxr] at hid
      exact hf.notAgain id hid
  · obtain ⟨j, hj, rfl⟩ := mem_map.mp hi
    obtain ⟨hg, -, hl, -, -⟩ := hfields j
    rw [countP_map, hg, hl]
    refine le_of_eq_of_le (countP_congr fun r _ => ?_) (h.bounded j hj)
    rw [Function.comp_apply, (hfields r).1]

lemma append (h : SoundRounds m.toAttemptLedger m.groupRecoveries)
    (hround : RequestedRound m group now intent)
    (hp : Persists m.toAttemptLedger (m.addGroupRound intent).toAttemptLedger) :
    SoundRounds (m.addGroupRound intent).toAttemptLedger (m.groupRecoveries ++ [intent]) := by
  have hgroups : ∀ i ∈ m.groupRecoveries, i.groupId = intent.groupId → i ∈ m.groupRounds group := by
    intro i hi hgroup
    refine mem_filter.mpr ⟨hi, ?_⟩
    rw [hgroup, hround.sameGroup, beq_self_eq_true]
  have hcount : m.groupRecoveries.countP (fun r => r.groupId == intent.groupId) <
      intent.maxReplacements := by
    rw [countP_eq_length_filter, hround.sameGroup]
    exact hround.below
  refine ⟨fun i hi => ?_, ?_, fun i hi => ?_⟩
  · rcases mem_append.mp hi with hi | hi
    · exact (h.sound i hi).persists hp
    · obtain rfl := mem_singleton.mp hi
      exact .requested hround
  · refine pairwise_append.mpr ⟨h.ordered, pairwise_singleton _ _, fun x hx y hy => ?_⟩
    obtain rfl := mem_singleton.mp hy
    intro hgroup
    refine ⟨fun hid => ?_, hround.sameLimit x (hgroups x hx hgroup), fun id hid hmem => ?_⟩
    · have hnone := find?_eq_none.mp hround.newId x hx
      rw [← hround.sameGroup, hgroup, hid, beq_self_eq_true, beq_self_eq_true] at hnone
      exact hnone rfl
    · -- a replaced attempt was cancelled, and cancelled attempts cannot be members
      have hne : x.replacements ≠ ∅ := by
        intro he
        rw [he] at hid
        cases hid
      obtain ⟨_, hc⟩ := (h.sound x hx).continued hne
      have hcancelled := ((hc.sources id).mp hid).2
      obtain ⟨_, hmembers⟩ := hround.members
      obtain ⟨member, hm, rfl⟩ := mem_map.mp hmem
      obtain ⟨_, completed, hchecked, -⟩ := hmembers member hm
      have hstatus := hchecked.status
      cases completed with
      | true =>
        have hcompleted : m.statusOf member.executionId = some .completed := hstatus
        rw [hcancelled] at hcompleted
        cases hcompleted
      | false =>
        obtain ⟨-, _, hs, hopen⟩ := hstatus
        rw [hcancelled] at hs
        cases hs
        cases hopen
  · have hmax : i.groupId = intent.groupId → i.maxReplacements = intent.maxReplacements := by
      intro hgroup
      rcases mem_append.mp hi with hi | hi
      · exact hround.sameLimit i (hgroups i hi hgroup)
      · rw [mem_singleton.mp hi]
    rw [countP_append, countP_singleton]
    by_cases hgroup : i.groupId = intent.groupId
    · rw [hmax hgroup, hgroup, beq_self_eq_true, if_pos rfl]
      exact hcount
    · rw [if_neg (by simpa using Ne.symm hgroup), Nat.add_zero]
      rcases mem_append.mp hi with hi | hi
      · exact h.bounded i hi
      · exact absurd (congrArg _ (mem_singleton.mp hi)) hgroup

lemma publish (h : SoundRounds m.toAttemptLedger m.groupRecoveries)
    (hlatest : m.groupRecovery group = some intent)
    (hchecked : CheckedContinuation m now replacements intent) :
    SoundRounds m.toAttemptLedger
      (m.publishContinuation group now replacements).groupRecoveries := by
  obtain ⟨l, r, hsplit, hgroup, hlater, hupdate⟩ :=
    latest?_split (f := fun i : GroupRecoveryStopIntent =>
      { i with replacements := replacements, preparedAtMs := some now }) hlatest
  rw [publishContinuation]
  show SoundRounds _ (updateLatest _ _ _)
  rw [hupdate]
  have hgroup : intent.groupId = group := by simpa using hgroup
  have hin : intent ∈ m.groupRecoveries := by rw [hsplit]; simp
  have hordered := h.ordered
  rw [hsplit, pairwise_append, pairwise_cons] at hordered
  obtain ⟨hl, ⟨-, hr⟩, hcross⟩ := hordered
  have hmem : ∀ i ∈ l ++
      { intent with replacements := replacements, preparedAtMs := some now } :: r,
      i ∈ m.groupRecoveries ∨
        i = { intent with replacements := replacements, preparedAtMs := some now } := by
    intro i hi
    rw [hsplit]
    rcases mem_append.mp hi with hi | hi
    · exact .inl (mem_append_left _ hi)
    · rcases mem_cons.mp hi with rfl | hi
      · exact .inr rfl
      · exact .inl (mem_append_right _ (mem_cons_of_mem _ hi))
  have hcount : ∀ p : ExecutionGroupId → Bool,
      (l ++ { intent with replacements := replacements, preparedAtMs := some now } :: r).countP
        (fun i => p i.groupId) = m.groupRecoveries.countP (fun i => p i.groupId) := by
    intro p
    rw [hsplit]
    simp [countP_cons]
  refine ⟨fun i hi => ?_, ?_, fun i hi => ?_⟩
  · rcases hmem i hi with hi | rfl
    · exact h.sound i hi
    · exact (h.sound intent hin).publish hchecked
  · refine pairwise_append.mpr ⟨hl, pairwise_cons.mpr ⟨fun y hy hxy => ?_, hr⟩, fun x hx y hy => ?_⟩
    · -- the round is the latest of its Group
      have hother : y.groupId ≠ group := by simpa using hlater y hy
      exact absurd (hxy.symm.trans hgroup) hother
    · rcases mem_cons.mp hy with rfl | hy
      · intro hxy
        have hf := hcross x hx intent mem_cons_self hxy
        exact ⟨hf.newId, hf.sameLimit, hf.notAgain⟩
      · exact hcross x hx y (mem_cons_of_mem _ hy)
  · rw [hcount fun g => g == i.groupId]
    rcases hmem i hi with hi | rfl
    · exact h.bounded i hi
    · exact h.bounded intent hin

lemma step (heffect : Effect m call m') (h : SoundRounds m.toAttemptLedger m.groupRecoveries) :
    SoundRounds m'.toAttemptLedger m'.groupRecoveries := by
  have hp := heffect.persists
  cases heffect.rounds with
  | kept he =>
    rw [he]
    exact h.persists hp
  | aborted id he =>
    rw [he]
    refine (h.map (fun i => ?_) fun i hi => ?_).persists hp
    · split <;> rfl
    · split
      · exact hi.abort
      · exact hi
  | requested group now intent hround he =>
    subst he
    exact h.append hround hp
  | confirmed id t hstop he =>
    rw [he]
    refine (h.map (fun i => ?_) fun i hi => hi.confirm t hstop).persists hp
    rw [confirmRound]
    split <;> rfl
  | admitted id t _ he =>
    rw [he]
    refine (h.map (fun i => ?_) fun i hi => hi.admitReplacement id t).persists hp
    rw [admitRound]
    split <;> rfl
  | continued group now replacements intent hlatest hchecked he =>
    subst he
    exact h.publish hlatest hchecked

lemma of_run (hrun : Reaches RuntimeExecutionManager.step (fun _ _ => True) .new m) :
    SoundRounds m.toAttemptLedger m.groupRecoveries :=
  hrun.invariant (P := fun m => SoundRounds m.toAttemptLedger m.groupRecoveries)
    ⟨by simp [RuntimeExecutionManager.new], .nil, by simp [RuntimeExecutionManager.new]⟩
    fun m call h _ => step (effect_step m call) h

end SoundRounds

end RoboGuide.Runtime
