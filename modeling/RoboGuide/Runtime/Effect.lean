import RoboGuide.Runtime.Machine

/-!
# `RoboGuide.Runtime.Effect`: what a call can do

`Effect m call m'` lists the outcomes of every call with the checks that let it through;
`effect_step` shows that a call has no other outcome. Proofs about runs go by cases on the
effect and never unfold an operation.
-/

namespace RoboGuide.Runtime

open Domain Lib Fallible

namespace RuntimeExecutionManager

variable (m : RuntimeExecutionManager)

/-- A relation that was not known enters the registry. -/
def addRelation (relation : RuntimeExecutionRelation) : RuntimeExecutionManager :=
  if m.relations.contains relation.key then m else
  { m with
    relations := m.relations.insert relation.key relation
    relationStates := m.relationStates.insert relation.key .dormant }

def addRelations (relations : List RuntimeExecutionRelation) : RuntimeExecutionManager :=
  relations.foldl addRelation m

/-- The state `becomeUnknown` leaves. -/
def ambiguous (executionId : ExecutionId) : RuntimeExecutionManager :=
  match m.executions.get? executionId with
  | none => m.setUnknown executionId
  | some context =>
    if m.activeExecutions.get? (commandSlot context.command) = some executionId
    then ((m.setUnknown executionId).refreshRelationsForSlot (commandSlot context.command)).1
    else m.setUnknown executionId

def factState (executionId : ExecutionId) (nodeId : NodeId) (sequence : Nat)
    (status : ExecutionStatus) (reason : String) : RuntimeExecutionManager :=
  ((m.recordFact executionId nodeId sequence status).reduceFact executionId nodeId status reason).1

/-- New evidence for a slot, and the relations it changes. -/
def withEvidence (evidence : SharedSpatialEvidence) : RuntimeExecutionManager :=
  (({ m with spatialEvidence := m.spatialEvidence.insert evidence.slot evidence } :
    RuntimeExecutionManager).refreshRelationsForSlot evidence.slot).1

def setChannel (key : CoordinationKey) (channel : RuntimePeerChannel) :
    RuntimeExecutionManager :=
  { m with peerChannels := m.peerChannels.insert key channel }

end RuntimeExecutionManager

open RuntimeExecutionManager

/-- What a call may do to the registry. -/
inductive Effect (m : RuntimeExecutionManager) : RuntimeCall → RuntimeExecutionManager → Prop where
  | unchanged (call : RuntimeCall) : Effect m call m
  | registered {group mission specifications modes} (n : Nat) :
      Effect m (.registerRelations group mission specifications modes)
        (m.addRelations ((specifications.map (resolveRelation group mission modes)).take n))
  | contextAdded {group d accepted} (h : validateContextRegistration m group d = .ok true) :
      Effect m (.registerCoordinationContext group d accepted) (m.addContext group d)
  | allocated {group task role} (generation : Nat)
      (hnext : (m.attemptGenerations.get? (slotOf group task role)).getD 0 < generation) :
      Effect m (.allocateAttemptId group task role)
        { m with
          attemptGenerations := m.attemptGenerations.insert (slotOf group task role) generation }
  | prepared {id command resources}
      (h : m.validateDispatch id command resources = .ok .route) :
      Effect m (.prepareDispatch id command resources)
        (m.recordDispatch id command (normalizedResources resources))
  | dispatched {id command resources}
      (h : m.validateDispatch id command resources = .ok .route) :
      Effect m (.recordDispatched id command resources)
        ((m.recordDispatch id command (normalizedResources resources)).setDelivered id)
  | redispatched {id command resources} :
      Effect m (.recordDispatched id command resources) (m.setDelivered id)
  | delivered {id} : Effect m (.markDispatchDelivered id) (m.setDelivered id)
  | counted {id} : Effect m (.recordDispatchAttempt id) (m.recordDispatchAttempt id)
  | receipt {id commandId node persisted reason} :
      Effect m (.observeDispatchReceipt id commandId node persisted reason) (m.setDelivered id)
  | rejected {id commandId node persisted reason} (intent : DispatchIntent)
      (hintent : m.dispatchOutbox.get? id = some intent) (hopen : m.isTerminal id = false) :
      Effect m (.observeDispatchReceipt id commandId node persisted reason) (m.ambiguous id)
  | cancellationRejected {id commandId node persisted reason} (context : ExecutionContext)
      (hcontext : m.executions.get? id = some context) (hopen : m.isTerminal id = false) :
      Effect m (.observeCancellationReceipt id commandId node persisted reason) (m.ambiguous id)
  | cancelled {id} (hknown : m.executions.contains id = true) :
      Effect m (.requestCancellation id) (m.cancelOrdinarily id)
  | observed {id node sequence status reason}
      (h : m.validateFact id node sequence status = .ok true) :
      Effect m (.observeExecution id node sequence status reason)
        (m.factState id node sequence status reason)
  | received {id node sequence status reason receivedAt}
      (h : m.validateFact id node sequence status = .ok true) :
      Effect m (.observeExecutionReceived id node sequence status reason receivedAt)
        (m.factState id node sequence status reason)
  | receivedTerminal {id node sequence status reason receivedAt}
      (h : m.validateFact id node sequence status = .ok true) (hterminal : status.isTerminal = true)
      (hknown : m.executions.contains id = true) :
      Effect m (.observeExecutionReceived id node sequence status reason receivedAt)
        { m.factState id node sequence status reason with
          toAttemptLedger := (m.factState id node sequence status reason).timed id receivedAt }
  | nodeUnavailable {node reason} :
      Effect m (.observeNodeUnavailable node reason) (m.observeNodeUnavailable node reason).1
  | stopRequested {id node now timeout limit} (intent : RecoveryStopIntent)
      (budget : RecoveryBudget)
      (h : m.validateRecoveryStop id node now timeout limit = .ok (some (intent, budget))) :
      Effect m (.requestRecoveryStop id node now timeout limit) (m.addRecoveryStop intent budget)
  | stopConfirmed {id receivedAt} :
      Effect m (.confirmRecoveryStop id receivedAt) (m.confirmRecoveryStop id receivedAt)
  | released {command} : Effect m (.markRecoveryRelease command) (m.markRecoveryRelease command)
  | roundRequested {group recoveryId members now timeout limit}
      (intent : GroupRecoveryStopIntent)
      (h : m.validateGroupRecoveryRequest group recoveryId (sortMembers members) now timeout limit =
        .ok (some intent)) :
      Effect m (.requestGroupRecoveryStop group recoveryId members now timeout limit)
        (m.addGroupRound intent)
  | roundConfirmed {id receivedAt} :
      Effect m (.confirmGroupRecoveryStop id receivedAt) (m.confirmGroupRecoveryStop id receivedAt)
  | admitted {id receivedAt} :
      Effect m (.confirmGroupContinuationAdmission id receivedAt)
        (m.confirmGroupContinuationAdmission id receivedAt)
  | continued {group now replacements}
      (h : m.validateGroupContinuation group now replacements = .ok ()) :
      Effect m (.recordGroupContinuation group now replacements)
        (m.publishContinuation group now replacements)
  | acknowledged {group relationId} (relation : RuntimeExecutionRelation)
      (hrelation : m.relations.get? (toLex (group, relationId)) = some relation)
      (hsatisfied : m.deriveRelationState relation = .satisfied) :
      Effect m (.acknowledgeRelationReconciliation group relationId)
        { m with relationFences := m.relationFences.erase (toLex (group, relationId)) }
  | evidence {evidence} (h : validateSpatialEvidence m evidence = .ok true) :
      Effect m (.observeSharedSpatialEvidence evidence) (m.withEvidence evidence)
  | readinessRefused {evidence} :
      Effect m (.observePeerChannelReadiness evidence)
        (m.refreshPeerChannelDeadlines evidence.receivedAt)
  | readiness {evidence} (channel updated : RuntimePeerChannel)
      (hfresh : evidence.receivedAt < evidence.expiresAt)
      (hchannel : (m.refreshPeerChannelDeadlines evidence.receivedAt).peerChannels.get?
        (toLex (evidence.groupId, evidence.contextId)) = some channel)
      (hopen : channel.lifecycle ≠ .closed) (hpeer : evidence.contextRoleId ∈ channel.peers)
      (hupdated : channel.observe evidence = .ok updated) :
      Effect m (.observePeerChannelReadiness evidence)
        ((m.refreshPeerChannelDeadlines evidence.receivedAt).setChannel
          (toLex (evidence.groupId, evidence.contextId)) updated)
  | deadlines {now} :
      Effect m (.refreshPeerChannelDeadlines now) (m.refreshPeerChannelDeadlines now)
  | nodeFenced {node} : Effect m (.fencePeerChannelsForNode node) (m.fencePeerChannelsForNode node)
  | channelFenced {group context} (channel : RuntimePeerChannel)
      (hchannel : m.peerChannels.get? (toLex (group, context)) = some channel)
      (hopen : channel.lifecycle ≠ .closed) :
      Effect m (.fencePeerChannel group context)
        (m.setChannel (toLex (group, context)) { channel with lifecycle := .fenced })
  | channelClosed {group context} (channel : RuntimePeerChannel)
      (hchannel : m.peerChannels.get? (toLex (group, context)) = some channel) :
      Effect m (.closePeerChannel group context)
        (m.setChannel (toLex (group, context)) { channel with lifecycle := .closed })
  | groupClosed {group} :
      Effect m (.closePeerChannelsForGroup group) (m.closePeerChannelsForGroup group)
  | progressed {record sample} :
      Effect m (.observeProgress record sample) (m.observeProgress record sample)
  | progressFenced {node} : Effect m (.fenceProgressForNode node) (m.fenceProgressForNode node)
  | restarted (restored : RuntimeExecutionManager) (h : restore m.checkpoint = .ok restored) :
      Effect m .restart restored

/-! ### What refreshing leaves alone -/

section

variable (m : RuntimeExecutionManager)

structure Refreshed (m m' : RuntimeExecutionManager) : Prop where
  attempts : m'.toAttemptLedger = m.toAttemptLedger
  recoveries : m'.toRecoveryLedger = m.toRecoveryLedger
  coordination : m'.toCoordinationLedger = m.toCoordinationLedger
  relations : m'.relations = m.relations
  evidence : m'.spatialEvidence = m.spatialEvidence

lemma Refreshed.refl : Refreshed m m := ⟨rfl, rfl, rfl, rfl, rfl⟩

lemma Refreshed.trans {m m₁ m₂ : RuntimeExecutionManager} (h₁ : Refreshed m m₁)
    (h₂ : Refreshed m₁ m₂) : Refreshed m m₂ :=
  ⟨h₂.attempts.trans h₁.attempts, h₂.recoveries.trans h₁.recoveries,
    h₂.coordination.trans h₁.coordination, h₂.relations.trans h₁.relations,
    h₂.evidence.trans h₁.evidence⟩

lemma refreshed_refreshRelation (key : RelationKey) : Refreshed m (m.refreshRelation key).1 := by
  rw [refreshRelation]
  cases m.relations.get? key with
  | none => exact .refl m
  | some => exact ⟨rfl, rfl, rfl, rfl, rfl⟩

lemma refreshed_refreshKeys (keys : List RelationKey) : Refreshed m (m.refreshKeys keys).1 := by
  induction keys generalizing m with
  | nil => exact .refl m
  | cons key keys ih => exact (refreshed_refreshRelation m key).trans (ih _)

lemma refreshed_refreshRelationsForSlot (slot : ExecutionSlot) :
    Refreshed m (m.refreshRelationsForSlot slot).1 :=
  refreshed_refreshKeys m _

lemma factState_attempts (id : ExecutionId) (node : NodeId) (sequence : Nat)
    (status : ExecutionStatus) (reason : String) :
    (m.factState id node sequence status reason).toAttemptLedger =
        m.observed id node sequence status ∨
      ∃ context, m.executions.get? id = some context ∧
        m.activeExecutions.get? (commandSlot context.command) = some id ∧
        status.provesActivation = true ∧
        (m.factState id node sequence status reason).toAttemptLedger =
          (m.observed id node sequence status).activated id context.command := by
  rw [factState, reduceFact]
  have hex : (m.recordFact id node sequence status).executions = m.executions := rfl
  have hactive : (m.recordFact id node sequence status).activeExecutions = m.activeExecutions := rfl
  rw [hex, hactive]
  cases hget : m.executions.get? id with
  | none => exact .inl rfl
  | some context =>
    by_cases hcurrent : m.activeExecutions.get? (commandSlot context.command) = some id
    · simp only [hcurrent, if_true, reduceCurrent]
      rw [(refreshed_refreshRelationsForSlot _ _).attempts]
      by_cases hactivates : status.provesActivation = true
      · refine .inr ⟨context, rfl, hcurrent, hactivates, ?_⟩
        rw [if_pos hactivates]
        rfl
      · left
        rw [if_neg hactivates]
        rfl
    · left
      simp only [hcurrent, if_false]
      rfl

end

/-! ### A call has no other outcome -/

section

variable (m : RuntimeExecutionManager)

lemma state_registerRelation (relation : RuntimeExecutionRelation) :
    state (registerRelation relation m) = m.addRelation relation := by
  rw [registerRelation, run_get_bind]
  cases hget : m.relations.get? relation.key with
  | none => simp [addRelation, OrdMap.contains, hget]
  | some existing =>
    by_cases he : existing = relation <;> simp [addRelation, OrdMap.contains, hget, refuse, he]

/-- Registration stops at the first conflict. -/
lemma state_registerAll (relations : List RuntimeExecutionRelation) :
    ∃ n, state (registerAll relations m) = m.addRelations (relations.take n) := by
  induction relations generalizing m with
  | nil => exact ⟨0, rfl⟩
  | cons relation relations ih =>
    have hfirst := state_registerRelation m relation
    rw [registerAll, run_bind]
    cases hr : registerRelation relation m with
    | error =>
      rw [hr, state_error] at hfirst
      exact ⟨1, by simpa [addRelations] using hfirst⟩
    | ok events =>
      rw [hr, state_ok] at hfirst
      subst hfirst
      obtain ⟨n, hn⟩ := ih (m.addRelation relation)
      refine ⟨n + 1, ?_⟩
      rw [List.take_succ_cons, addRelations, List.foldl_cons, ← addRelations, ← hn]
      show state ((registerAll relations >>= fun rest => pure (events ++ rest)) _) = _
      rw [run_bind]
      cases registerAll relations (m.addRelation relation) <;> rfl

lemma nextGeneration_gt {used : Nat → Bool} {left generation next : Nat}
    (h : nextGeneration used left generation = some next) : generation < next := by
  induction left generalizing generation with
  | zero => simp [nextGeneration] at h
  | succ left ih =>
    rw [nextGeneration] at h
    split at h
    · exact Nat.lt_of_succ_lt (ih h)
    · cases h
      omega

lemma Effect.checked {m} {call : RuntimeCall} {α β : Type} {x : Except ExecutionRuntimeError α}
    {f : α → RuntimeOp β} (h : ∀ a, x = .ok a → Effect m call (state (f a m))) :
    Effect m call (state ((check x >>= f) m)) :=
  state_check_bind (P := Effect m call) (.unchanged _) h

section

variable (id : ExecutionId)

lemma state_becomeUnknown (node : ExecutionCommand → NodeId)
    (reason : String) : state (becomeUnknown id node reason m) = m.ambiguous id := by
  rw [becomeUnknown, run_modify_bind, run_get_bind, run_check_bind, ambiguous]
  have hex : (m.setUnknown id).executions = m.executions := rfl
  have hactive : (m.setUnknown id).activeExecutions = m.activeExecutions := rfl
  rw [hex, hactive]
  cases m.executions.get? id with
  | none => rfl
  | some context =>
    by_cases h : m.activeExecutions.get? (commandSlot context.command) = some id
    · simp [h]
    · simp [h]

lemma state_markDispatchDelivered : state (markDispatchDelivered id m) = m ∨
      state (markDispatchDelivered id m) = m.setDelivered id := by
  rw [markDispatchDelivered, run_get_bind, run_check_bind]
  split
  · exact .inr rfl
  · exact .inl rfl

lemma effect_recordDispatched (command : ExecutionCommand)
    (resources : List ResourceId) : Effect m (.recordDispatched id command resources)
      (state (recordDispatched id command resources m)) := by
  rw [recordDispatched, run_bind, prepareDispatch, run_get_bind, run_check_bind]
  match h : m.validateDispatch id command resources with
  | .error _ => exact .unchanged _
  | .ok .alreadyRouted =>
    show Effect m _ (state (markDispatchDelivered id m))
    rcases state_markDispatchDelivered m id with hs | hs
    · rw [hs]
      exact .unchanged _
    · rw [hs]
      exact .redispatched
  | .ok .route =>
    have hout : (m.recordDispatch id command (normalizedResources resources)).dispatchOutbox.get? id
        = some ⟨id, command, normalizedResources resources, 0, false⟩ :=
      get?_insert_self _ _ _
    show Effect m _ (state (markDispatchDelivered id
      (m.recordDispatch id command (normalizedResources resources))))
    rw [markDispatchDelivered, run_get_bind, run_check_bind, hout]
    exact .dispatched h

lemma effect_observeDispatchReceipt (commandId : String) (node : NodeId)
    (persisted : Bool) (reason : String) :
    Effect m (.observeDispatchReceipt id commandId node persisted reason)
      (state (observeDispatchReceipt id commandId node persisted reason m)) := by
  rw [observeDispatchReceipt, run_get_bind]
  refine .checked fun intent hintent => .checked fun _ _ => .checked fun _ _ => ?_
  split
  · rw [bind_pure_comp, state_map]
    rcases state_markDispatchDelivered m id with hs | hs
    · rw [hs]
      exact .unchanged _
    · rw [hs]
      exact .receipt
  · split
    · exact .unchanged _
    · next hopen =>
      rw [not_or, Bool.not_eq_true] at hopen
      rw [state_becomeUnknown]
      exact .rejected intent (okOr_eq_ok.mp hintent) hopen.1

lemma effect_observeCancellationReceipt (commandId : String)
    (node : NodeId) (persisted : Bool) (reason : String) :
    Effect m (.observeCancellationReceipt id commandId node persisted reason)
      (state (observeCancellationReceipt id commandId node persisted reason m)) := by
  rw [observeCancellationReceipt, run_get_bind]
  refine .checked fun _ _ => .checked fun _ hnode => ?_
  split
  · exact .unchanged _
  · next hopen =>
    rw [not_or, not_or, Bool.not_eq_true, Bool.not_eq_true] at hopen
    rw [state_becomeUnknown]
    have howner : m.cancellationNode id = some node := by simpa using hnode
    obtain ⟨context, hcontext, -⟩ := Option.map_eq_some_iff.mp howner
    exact .cancellationRejected context hcontext hopen.2.1

lemma run_observeExecution (node : NodeId) (sequence : Nat)
    (status : ExecutionStatus) (reason : String) :
    state (observeExecution id node sequence status reason m) = m ∨
      (m.validateFact id node sequence status = .ok true ∧
        state (observeExecution id node sequence status reason m) =
          m.factState id node sequence status reason) := by
  rw [observeExecution, run_get_bind, run_check_bind]
  match h : m.validateFact id node sequence status with
  | .error _ => exact .inl rfl
  | .ok false => exact .inl rfl
  | .ok true => exact .inr ⟨rfl, rfl⟩

lemma effect_observeExecutionReceived (node : NodeId) (sequence : Nat)
    (status : ExecutionStatus) (reason : String) (receivedAt : TimestampMs) :
    Effect m (.observeExecutionReceived id node sequence status reason receivedAt)
      (state (observeExecutionReceived id node sequence status reason receivedAt m)) := by
  have hrun := run_observeExecution m id node sequence status reason
  rw [observeExecutionReceived, run_get_bind, run_bind]
  cases hr : observeExecution id node sequence status reason m with
  | error =>
    rw [hr] at hrun
    rcases hrun with h | ⟨hv, h⟩
    · exact h ▸ .unchanged _
    · exact h ▸ .received hv
  | ok events m₁ =>
    rw [hr] at hrun
    simp only [run_get_bind, state_ok] at hrun ⊢
    rcases hrun with rfl | ⟨hv, rfl⟩
    · -- the fact was stale, so the status is what it was before
      have hno : ¬ (status.isTerminal ∧ m₁.statusOf id ≠ some status ∧
          m₁.executions.contains id ∧ m₁.statusOf id = some status ∧
          ¬ m₁.terminalReceivedAt.contains id) := fun h => h.2.1 h.2.2.2.1
      rw [if_neg hno]
      exact .unchanged _
    · split
      · next hcond =>
        have hex : (m.factState id node sequence status reason).executions = m.executions := by
          rcases factState_attempts m id node sequence status reason with h | ⟨_, _, _, _, h⟩
          · rw [h]
            rfl
          · rw [h]
            rfl
        exact .receivedTerminal hv hcond.1 (hex ▸ hcond.2.2.1)
      · exact .received hv

end

lemma effect_observePeerChannelReadiness (evidence : PeerChannelReadinessEvidence) :
    Effect m (.observePeerChannelReadiness evidence)
      (state (observePeerChannelReadiness evidence m)) := by
  rw [observePeerChannelReadiness, run_modify_bind]
  refine state_check_bind .readinessRefused fun _ hfresh => ?_
  rw [run_get_bind]
  refine state_check_bind .readinessRefused fun channel hchannel => ?_
  refine state_check_bind .readinessRefused fun _ hopen => ?_
  refine state_check_bind .readinessRefused fun _ hpeer => ?_
  refine state_check_bind .readinessRefused fun updated hupdated => ?_
  exact .readiness channel updated (by simpa using hfresh) (okOr_eq_ok.mp hchannel)
    (by simpa using hopen) (by simpa using hpeer) hupdated

lemma state_setPeerChannelLifecycle (group : ExecutionGroupId)
    (context : CoordinationContextId) (lifecycle : PeerChannelLifecycle) :
    state (setPeerChannelLifecycle group context lifecycle m) = m ∨
      ∃ channel, m.peerChannels.get? (toLex (group, context)) = some channel ∧
        (channel.lifecycle = .closed → lifecycle = .closed) ∧
        state (setPeerChannelLifecycle group context lifecycle m) =
          m.setChannel (toLex (group, context)) { channel with lifecycle := lifecycle } := by
  rw [setPeerChannelLifecycle, run_get_bind, run_check_bind]
  split
  · next channel hchannel =>
    rw [run_check_bind]
    split
    · next hopen =>
      refine .inr ⟨channel, okOr_eq_ok.mp hchannel, fun hclosed => ?_, rfl⟩
      simpa [hclosed] using hopen
    · exact .inl rfl
  · exact .inl rfl

lemma effect_step (call : RuntimeCall) : Effect m call (m.step call) := by
  cases call with
  | registerRelations group mission specifications modes =>
    obtain ⟨n, hn⟩ := state_registerAll m (specifications.map (resolveRelation group mission modes))
    show Effect m _ (state (registerAll _ m))
    rw [hn]
    exact .registered n
  | registerCoordinationContext group d =>
    show Effect m _ (state (registerCoordinationContext group d m))
    rw [registerCoordinationContext, run_get_bind]
    refine .checked fun new h => ?_
    cases new with
    | false => exact .unchanged _
    | true => exact .contextAdded h
  | allocateAttemptId group task role =>
    show Effect m _ (state (allocateAttemptId group task role m))
    rw [allocateAttemptId, run_get_bind]
    exact .checked fun generation h => .allocated generation (nextGeneration_gt (okOr_eq_ok.mp h))
  | prepareDispatch id command resources =>
    show Effect m _ (state (prepareDispatch id command resources m))
    rw [prepareDispatch, run_get_bind]
    refine .checked fun decision h => ?_
    cases decision with
    | alreadyRouted => exact .unchanged _
    | route => exact .prepared h
  | recordDispatched => exact effect_recordDispatched ..
  | markDispatchDelivered id =>
    show Effect m _ (state (markDispatchDelivered id m))
    rcases state_markDispatchDelivered m id with h | h
    · rw [h]
      exact .unchanged _
    · rw [h]
      exact .delivered
  | recordDispatchAttempt => exact .counted
  | observeDispatchReceipt => exact effect_observeDispatchReceipt ..
  | observeCancellationReceipt => exact effect_observeCancellationReceipt ..
  | requestCancellation id =>
    show Effect m _ (state (requestCancellation id m))
    rw [requestCancellation, run_get_bind]
    exact .checked fun _ hknown => .cancelled (by simpa using hknown)
  | observeExecution id node sequence status reason =>
    show Effect m _ (state (observeExecution id node sequence status reason m))
    rcases run_observeExecution m id node sequence status reason with h | ⟨hv, h⟩
    · rw [h]
      exact .unchanged _
    · rw [h]
      exact .observed hv
  | observeExecutionReceived => exact effect_observeExecutionReceived ..
  | observeNodeUnavailable => exact .nodeUnavailable
  | requestRecoveryStop id node now timeout limit =>
    show Effect m _ (state (requestRecoveryStop id node now timeout limit m))
    rw [requestRecoveryStop, run_get_bind]
    refine .checked fun stop h => ?_
    cases stop with
    | none => exact .unchanged _
    | some stop => exact .stopRequested stop.1 stop.2 h
  | confirmRecoveryStop => exact .stopConfirmed
  | markRecoveryRelease => exact .released
  | requestGroupRecoveryStop group recoveryId members now timeout limit =>
    show Effect m _ (state (requestGroupRecoveryStop group recoveryId members now timeout limit m))
    rw [requestGroupRecoveryStop, run_get_bind]
    refine .checked fun round h => ?_
    cases round with
    | none => exact .unchanged _
    | some intent => exact .roundRequested intent h
  | confirmGroupRecoveryStop => exact .roundConfirmed
  | confirmGroupContinuationAdmission => exact .admitted
  | recordGroupContinuation group now replacements =>
    show Effect m _ (state (recordGroupContinuation group now replacements m))
    rw [recordGroupContinuation, run_get_bind]
    exact .checked fun _ h => .continued h
  | acknowledgeRelationReconciliation group relationId =>
    show Effect m _ (state (acknowledgeRelationReconciliation group relationId m))
    rw [acknowledgeRelationReconciliation, run_get_bind]
    refine .checked fun relation hrelation => .checked fun _ hsatisfied => ?_
    exact .acknowledged relation (okOr_eq_ok.mp hrelation) (by simpa using hsatisfied)
  | observeSharedSpatialEvidence evidence =>
    show Effect m _ (state (observeSharedSpatialEvidence evidence m))
    rw [observeSharedSpatialEvidence, run_get_bind]
    refine .checked fun new h => ?_
    cases new with
    | false => exact .unchanged _
    | true => exact .evidence h
  | observePeerChannelReadiness => exact effect_observePeerChannelReadiness ..
  | refreshPeerChannelDeadlines => exact .deadlines
  | fencePeerChannelsForNode => exact .nodeFenced
  | fencePeerChannel group context =>
    show Effect m _ (state (setPeerChannelLifecycle group context .fenced m))
    rcases state_setPeerChannelLifecycle m group context .fenced with
      h | ⟨channel, hchannel, hopen, h⟩
    · rw [h]
      exact .unchanged _
    · rw [h]
      exact .channelFenced channel hchannel fun hclosed => nomatch hopen hclosed
  | closePeerChannel group context =>
    show Effect m _ (state (setPeerChannelLifecycle group context .closed m))
    rcases state_setPeerChannelLifecycle m group context .closed with h | ⟨channel, hchannel, -, h⟩
    · rw [h]
      exact .unchanged _
    · rw [h]
      exact .channelClosed channel hchannel
  | closePeerChannelsForGroup => exact .groupClosed
  | observeProgress => exact .progressed
  | fenceProgressForNode => exact .progressFenced
  | restart =>
    show Effect m _ m.restart
    rw [RuntimeExecutionManager.restart]
    match h : restore m.checkpoint with
    | .error _ => exact .unchanged _
    | .ok restored => exact .restarted restored h

end

end RoboGuide.Runtime
