import RoboGuide.Runtime.Channels
import RoboGuide.Runtime.Ledgers
import RoboGuide.Runtime.RelationHistory
import RoboGuide.Runtime.StopHistory

/-!
# `RoboGuide.Runtime.Registry`: the invariant of the whole registry

`Registry` collects what the ledgers satisfy, and `Registry.step` shows that every call keeps
it, a restart included. Two things are asked of the callers (`Promised`), as the types and
methods of the source do not enforce them: a stop is released only when it is ready, and
readiness evidence carries nonblank identities and a positive sequence.

`restored` is the registry that comes back from a checkpoint: `restore_eq` says that a
successful `restore` yields nothing else.
-/

namespace RoboGuide.Runtime

open Domain Lib Fallible Option OrdMap
open Relation (ReflTransGen)
open RuntimeExecutionManager

/-- What every reachable registry meets. -/
structure Registry (m : RuntimeExecutionManager) : Prop where
  attempts : SoundAttempts m.toAttemptLedger
  relations : Guarded m
  rounds : SoundRounds m.toAttemptLedger m.groupRecoveries
  stops : SoundStops m.toAttemptLedger m.recoveryStops m.recoveryBudgets
  progress : SoundProgress m.toAttemptLedger m.progress
  coordination : SoundCoordination m.toCoordinationLedger
  evidence : SoundEvidence m

def Promised (m : RuntimeExecutionManager) : RuntimeCall → Prop
  | .markRecoveryRelease command => ∃ now, m.recoveryStopReady command now = true
  | .observePeerChannelReadiness evidence => evidence.Identified
  | _ => True

/-! ### What comes back from a checkpoint -/

/-- The registry assembled from its own checkpoint. -/
def RuntimeExecutionManager.reassembled (m : RuntimeExecutionManager) : RuntimeExecutionManager :=
  assemble m.checkpoint m.toRelationLedger m.spatialEvidence m.coordinationContexts m.peerChannels
    m.activeExecutions m.recoveryBudgets

/-- The registry restored from its own checkpoint. -/
def RuntimeExecutionManager.restored (m : RuntimeExecutionManager) : RuntimeExecutionManager :=
  m.reassembled.refreshAllRelationsAfterRestore

section

variable {m m' : RuntimeExecutionManager}

lemma refreshed_restored (m : RuntimeExecutionManager) : Refreshed m.reassembled m.restored :=
  refreshed_refreshKeys _ _

lemma ofList_outbox (h : SoundAttempts m.toAttemptLedger) :
    ofList (m.dispatchOutbox.values.map fun intent => (intent.executionId, intent)) =
      m.dispatchOutbox := by
  rw [values_map_key fun id intent hi => (h.outbox id intent hi).1, ofList_entries]

lemma restoredFrom_restored (m : RuntimeExecutionManager) :
    RestoredFrom m.checkpoint m.restored.toAttemptLedger := by
  rw [(refreshed_restored m).attempts]
  refine ⟨rfl, rfl, rfl, rfl, rfl, ?_, rfl, rfl, rfl, ?_, rfl, rfl⟩
  · exact (ofList_entries m.activeExecutions).symm
  · rfl

/-- The maps that are read back are the maps that were written. -/
lemma rebuild_eq (h : Registry m) {assembled : RuntimeExecutionManager}
    (hr : rebuild m.checkpoint = .ok assembled) : assembled = m.reassembled := by
  obtain ⟨-, -, _, contexts, channels, evidence, active, budgets, hledger, hmaps, hevidence,
    hactive, hbudgets, rfl⟩ := rebuild_ok hr
  obtain ⟨hrel, hstates, hfences, hproofs⟩ := restoreRelationMaps_eq h.relations.keyed hledger
  have hcoordination : contexts = m.coordinationContexts ∧ channels = m.peerChannels := by
    rw [restoreCoordinationMaps] at hmaps
    simp only [bind_eq_ok, pure_eq_ok, Prod.mk.injEq] at hmaps
    obtain ⟨_, hcontexts, _, hchannels, rfl, rfl⟩ := hmaps
    exact ⟨eq_of_collect_entries (values_map_key h.coordination.contextKey) hcontexts,
      eq_of_collect_entries (values_map_key h.coordination.channelKey) hchannels⟩
  have hspatial : evidence = m.spatialEvidence :=
    eq_of_collect_entries (values_map_key h.evidence.keyed) hevidence
  have hactive : active = m.activeExecutions := hactive.trans (ofList_entries _)
  have hbudgets : budgets = m.recoveryBudgets := by
    rw [hbudgets]
    show ofList (m.recoveryBudgets.values.map fun b => (b.slot, b)) = _
    rw [values_map_key fun slot b hb => (h.stops.budget slot b hb).same, ofList_entries]
  rw [hcoordination.1, hcoordination.2, hspatial, hactive, hbudgets, reassembled]
  have hassemble : ∀ {l l' : RelationLedger}, l.relations = l'.relations →
      l.relationStates = l'.relationStates → l.relationFences = l'.relationFences →
      l.relationProofs = l'.relationProofs →
      assemble m.checkpoint l m.spatialEvidence m.coordinationContexts m.peerChannels
        m.activeExecutions m.recoveryBudgets =
      assemble m.checkpoint l' m.spatialEvidence m.coordinationContexts m.peerChannels
        m.activeExecutions m.recoveryBudgets := by
    intro l l' h1 h2 h3 h4
    rw [assemble, assemble, h1, h2, h3, h4]
  rw [hassemble hrel hstates hfences hproofs]

lemma restore_eq (h : Registry m) (hr : restore m.checkpoint = .ok m') : m' = m.restored := by
  obtain ⟨_, hassembled, rfl, -⟩ := restore_ok hr
  rw [rebuild_eq h hassembled, restored]

section

variable (m : RuntimeExecutionManager)

lemma recoveries_restored : m.restored.toRecoveryLedger = m.toRecoveryLedger :=
  (refreshed_restored m).recoveries

lemma coordination_restored : m.restored.toCoordinationLedger = { m.toCoordinationLedger with
        peerChannels := m.peerChannels.mapValues fun _ channel => channel.restored } :=
  (refreshed_restored m).coordination

lemma active_restored : m.restored.activeExecutions = m.activeExecutions :=
  (restoredFrom_restored m).activeExecutions.trans (ofList_entries _)

lemma statusOf_restored (id : ExecutionId) :
    m.restored.statusOf id = (m.statusOf id).map ExecutionStatus.restored := by
  rw [AttemptLedger.statusOf, (restoredFrom_restored m).executionStatus, get?_mapValues]
  rfl

lemma isTerminal_restored (id : ExecutionId) : m.restored.isTerminal id = m.isTerminal id := by
  rw [AttemptLedger.isTerminal, statusOf_restored, AttemptLedger.isTerminal]
  cases m.statusOf id with
  | none => rfl
  | some status => cases status <;> rfl

lemma generations_restored : m.restored.attemptGenerations =
      fillGenerations m.activeExecutions.keys m.attemptGenerations := by
  rw [(restoredFrom_restored m).attemptGenerations, active_restored]
  show fillGenerations _ (ofList m.attemptGenerations.entries) = _
  rw [ofList_entries]

end

/-! ### Every call keeps the ledgers -/

lemma SoundAttempts.restored (h : SoundAttempts m.toAttemptLedger) :
    SoundAttempts m.restored.toAttemptLedger := by
  have hr := restoredFrom_restored m
  have hexecutions : m.restored.executions = m.executions := hr.executions
  have houtbox : m.restored.dispatchOutbox = m.dispatchOutbox :=
    hr.dispatchOutbox.trans (ofList_outbox h)
  have hstatus : ∀ id, m.restored.executionStatus.contains id = m.executionStatus.contains id := by
    intro id
    rw [contains, hr.executionStatus, get?_mapValues, isSome_map]
    rfl
  refine ⟨fun id t ht => ?_, fun slot g hg => ?_, ?_, ?_, fun id hc => ?_, ?_, ?_,
    fun id context hc => ?_, fun id n hn => ?_⟩
  · rw [hexecutions, isTerminal_restored]
    rw [hr.terminalReceivedAt] at ht
    exact h.times id t ht
  · rw [generations_restored, get?_fillGenerations] at hg
    split at hg
    · cases hg
      exact Nat.one_pos
    · exact h.generations slot g hg
  · rw [houtbox, hexecutions]
    exact h.outbox
  · rw [houtbox, hexecutions]
    exact h.posted
  · rw [hexecutions]
    rw [hr.cancellationIntents] at hc
    exact h.cancellations id hc
  · rw [hexecutions]
    exact h.declared
  · rw [hexecutions, hr.executionNodes]
    exact h.owned
  · rw [hexecutions] at hc
    rw [hstatus]
    exact h.known id context hc
  · rw [hr.executionSequences] at hn
    rw [hstatus]
    exact h.sequences id n hn

variable {call : RuntimeCall}

lemma soundAttempts_of_effect (h : Registry m) (he : Effect m call m') :
    SoundAttempts m'.toAttemptLedger := by
  by_cases hcall : call = .restart
  · subst hcall
    cases he with
    | unchanged => exact h.attempts
    | restarted _ hrestore =>
      rw [restore_eq h hrestore]
      exact h.attempts.restored
  · have hmoves := he.attempts hcall
    have hsound := h.attempts
    generalize m.toAttemptLedger = a, m'.toAttemptLedger = a' at hmoves hsound
    induction hmoves with
    | refl => exact hsound
    | tail _ hmove ih => exact ih.move hmove

lemma ready_stop {command : ExecutionCommand} {now : TimestampMs}
    (h : m.recoveryStopReady command now = true) {id : ExecutionId}
    (hid : m.activeExecutions.get? (commandSlot command) = some id) {i : RecoveryStopIntent}
    (hi : m.recoveryStops.get? id = some i) : ∃ t, i.confirmedAtMs = some t ∧ t < i.deadlineMs := by
  rw [recoveryStopReady, currentStop, hid, bind_some, hi, any_some] at h
  simp only [Bool.and_eq_true] at h
  cases ht : i.confirmedAtMs with
  | none => simp [ht] at h
  | some t => exact ⟨t, rfl, by simpa [ht] using h.1.1.2⟩

lemma soundStops_of_effect (h : Registry m) (he : Effect m call m') (hpromise : Promised m call) :
    SoundStops m'.toAttemptLedger m'.recoveryStops m'.recoveryBudgets := by
  have hp := he.persists
  have hkept (hledger : m'.recoveryStops = m.recoveryStops ∧
      m'.recoveryBudgets = m.recoveryBudgets) :
      SoundStops m'.toAttemptLedger m'.recoveryStops m'.recoveryBudgets := by
    rw [hledger.1, hledger.2]
    exact h.stops.persists hp
  have haside (ha : m'.aside = m.aside) :
      SoundStops m'.toAttemptLedger m'.recoveryStops m'.recoveryBudgets :=
    hkept ⟨congrArg (·.1.recoveryStops) ha, congrArg (·.1.recoveryBudgets) ha⟩
  cases he with
  | registered => exact haside (addRelations_aside m _)
  | rejected | cancellationRejected => exact haside (ambiguous_aside m _)
  | observed | received | receivedTerminal => exact haside (factState_aside m _ _ _ _ _)
  | nodeUnavailable => exact haside (loseAttempts_aside m _ _ _)
  | @evidence e =>
    have hrec : (m.withEvidence e).toRecoveryLedger = m.toRecoveryLedger :=
      (refreshed_refreshRelationsForSlot ..).recoveries
    exact hkept ⟨congrArg (·.recoveryStops) hrec, congrArg (·.recoveryBudgets) hrec⟩
  | cancelled => exact (h.stops.abort _).persists hp
  | stopRequested intent budget hv =>
    obtain ⟨_, hrequested⟩ := requestedStop_of_valid hv
    exact h.stops.add hrequested
  | stopConfirmed =>
    rw [confirmRecoveryStop]
    split
    · next hcancelled => exact h.stops.confirm hcancelled _
    · exact h.stops
  | released =>
    obtain ⟨_, hready⟩ := hpromise
    rw [markRecoveryRelease]
    split
    · next id hid => exact h.stops.release fun i hi => ready_stop hready hid hi
    · exact h.stops
  | roundConfirmed =>
    refine hkept ?_
    rw [confirmGroupRecoveryStop]
    split <;> exact ⟨rfl, rfl⟩
  | admitted =>
    refine hkept ?_
    rw [confirmGroupContinuationAdmission]
    split <;> exact ⟨rfl, rfl⟩
  | progressed =>
    refine hkept ?_
    rw [observeProgress]
    split
    · split <;> exact ⟨rfl, rfl⟩
    · exact ⟨rfl, rfl⟩
  | restarted _ hrestore =>
    have hrec := recoveries_restored m
    rw [← restore_eq h hrestore] at hrec
    exact hkept ⟨congrArg (·.recoveryStops) hrec, congrArg (·.recoveryBudgets) hrec⟩
  | unchanged | contextAdded | allocated | prepared | dispatched | redispatched | delivered
  | counted | receipt | roundRequested | continued | acknowledged | readinessRefused | readiness
  | deadlines | nodeFenced | channelFenced | channelClosed | groupClosed | progressFenced =>
    exact hkept ⟨rfl, rfl⟩

lemma SoundProgress.retain {a : AttemptLedger} {progress : OrdMap ExecutionId ProgressObservation}
    (h : SoundProgress a progress) (keep : ExecutionId → ProgressObservation → Bool) :
    SoundProgress a (progress.retain keep) :=
  fun id o ho => h id o ((get?_eq_some_retain _ _ _ _).mp ho).1

lemma SoundCoordination.deadlines (h : SoundCoordination m.toCoordinationLedger)
    (now : TimestampMs) :
    SoundCoordination (m.refreshPeerChannelDeadlines now).toCoordinationLedger := by
  refine h.mapChannels (fun key c => ?_) (fun key c hc => hc.expire now)
  rw [RuntimePeerChannel.expire]
  split <;> exact ⟨rfl, rfl⟩

def RuntimeCall.coordinates : RuntimeCall → Bool
  | .registerCoordinationContext .. | .observePeerChannelReadiness _
  | .refreshPeerChannelDeadlines _ | .fencePeerChannelsForNode _ | .fencePeerChannel ..
  | .closePeerChannel .. | .closePeerChannelsForGroup _ | .observeProgress ..
  | .fenceProgressForNode _ | .restart => true
  | _ => false

lemma Effect.coordination_kept (he : Effect m call m') (hother : call.coordinates = false) :
    m'.toCoordinationLedger = m.toCoordinationLedger := by
  have haside (ha : m'.aside = m.aside) : m'.toCoordinationLedger = m.toCoordinationLedger :=
    congrArg (·.2.1) ha
  cases he with
  | registered => exact haside (addRelations_aside m _)
  | rejected | cancellationRejected => exact haside (ambiguous_aside m _)
  | observed | received | receivedTerminal => exact haside (factState_aside m _ _ _ _ _)
  | nodeUnavailable => exact haside (loseAttempts_aside m _ _ _)
  | evidence => exact (refreshed_refreshRelationsForSlot ..).coordination
  | stopConfirmed =>
    rw [confirmRecoveryStop]
    split <;> rfl
  | released =>
    rw [markRecoveryRelease]
    split <;> rfl
  | roundConfirmed =>
    rw [confirmGroupRecoveryStop]
    split <;> rfl
  | admitted =>
    rw [confirmGroupContinuationAdmission]
    split <;> rfl
  | contextAdded | readinessRefused | readiness | deadlines | nodeFenced | channelFenced
  | channelClosed | groupClosed | progressed | progressFenced | restarted => cases hother
  | unchanged | allocated | prepared | dispatched | redispatched | delivered | counted | receipt
  | cancelled | stopRequested | roundRequested | continued | acknowledged => rfl

lemma soundCoordination_of_effect (h : Registry m) (he : Effect m call m')
    (hpromise : Promised m call) : SoundCoordination m'.toCoordinationLedger := by
  by_cases hother : call.coordinates = false
  · rw [he.coordination_kept hother]
    exact h.coordination
  cases he with
  | contextAdded => exact h.coordination.addContext (by assumption)
  | readinessRefused | deadlines => exact h.coordination.deadlines _
  | @readiness e channel updated hfresh hchannel _ hpeer hupdated =>
    have hd := h.coordination.deadlines e.receivedAt
    have hkey := hd.channelKey _ channel hchannel
    simp only [toLex_inj, Prod.mk.injEq] at hkey
    have hsame := RuntimePeerChannel.observe_same hupdated
    exact hd.setChannel hchannel hsame.1 hsame.2
      ((hd.sound _ channel hchannel).observe hkey.1.symm hkey.2.symm hpeer hfresh hpromise hupdated)
  | nodeFenced =>
    refine h.coordination.mapChannels (fun key c => ?_) (fun key c hc => hc.fenceNode _)
    rw [RuntimePeerChannel.fenceNode]
    split <;> exact ⟨rfl, rfl⟩
  | channelFenced channel hchannel =>
    exact h.coordination.setChannel hchannel rfl rfl
      ((h.coordination.sound _ channel hchannel).relifecycle .fenced)
  | channelClosed channel hchannel =>
    exact h.coordination.setChannel hchannel rfl rfl
      ((h.coordination.sound _ channel hchannel).relifecycle .closed)
  | groupClosed =>
    refine h.coordination.mapChannels (fun key c => ?_) (fun key c hc => ?_)
    · split <;> exact ⟨rfl, rfl⟩
    · split
      · exact hc.clear .closed
      · exact hc
  | progressed =>
    rw [observeProgress]
    split
    · split
      · exact { h.coordination with }
      · exact h.coordination
    · exact h.coordination
  | progressFenced => exact { h.coordination with }
  | restarted _ hrestore =>
    rw [restore_eq h hrestore, coordination_restored]
    exact h.coordination.mapChannels (fun key c => ⟨rfl, rfl⟩) (fun key c hc => hc.clear _)
  | unchanged => exact h.coordination
  | _ => exact absurd rfl hother

lemma soundProgress_of_effect (h : Registry m) (he : Effect m call m') :
    SoundProgress m'.toAttemptLedger m'.progress := by
  have hkept (hledger : m'.progress = m.progress) :
      SoundProgress m'.toAttemptLedger m'.progress := by
    rw [hledger]
    exact h.progress.persists he.persists
  by_cases hother : call.coordinates = false
  · exact hkept (congrArg (·.progress) (he.coordination_kept hother))
  cases he with
  | progressed =>
    rw [observeProgress_attempts]
    exact h.progress.observe _ _
  | progressFenced => exact h.progress.retain _
  | restarted _ hrestore =>
    refine hkept ?_
    rw [restore_eq h hrestore, coordination_restored]
  | unchanged | contextAdded | readinessRefused | readiness | deadlines | nodeFenced
  | channelFenced | channelClosed | groupClosed => exact hkept rfl
  | _ => exact absurd rfl hother

def AttemptLedger.OwnersKept (a a' : AttemptLedger) : Prop :=
  a'.activeExecutions = a.activeExecutions ∧
    ∀ id node, a.executionNodes.get? id = some node → a'.executionNodes.get? id = some node

lemma AttemptLedger.OwnersKept.of_eq {a a' : AttemptLedger}
    (hactive : a'.activeExecutions = a.activeExecutions)
    (hnodes : a'.executionNodes = a.executionNodes) : a.OwnersKept a' :=
  ⟨hactive, fun _ _ h => hnodes ▸ h⟩

lemma ownersKept_observed (a : AttemptLedger) (id : ExecutionId) (node : NodeId) (sequence : Nat)
    (status : ExecutionStatus) : a.OwnersKept (a.observed id node sequence status) := by
  refine ⟨rfl, fun id' node' h => ?_⟩
  show (if a.executionNodes.contains id then a.executionNodes
    else a.executionNodes.insert id node).get? id' = some node'
  split
  · exact h
  · next hnew =>
    have hne : id' ≠ id := by
      rintro rfl
      exact hnew (contains_eq_true_iff.mpr ⟨node', h⟩)
    rw [get?_insert_of_ne hne, h]

lemma ownersKept_factState (m : RuntimeExecutionManager) (id : ExecutionId) (node : NodeId)
    (sequence : Nat) (status : ExecutionStatus) (reason : String) :
    m.toAttemptLedger.OwnersKept (m.factState id node sequence status reason).toAttemptLedger := by
  have hobserved := ownersKept_observed m.toAttemptLedger id node sequence status
  rcases factState_attempts m id node sequence status reason with hfact | ⟨_, -, -, -, hfact⟩
  · rw [hfact]
    exact hobserved
  · rw [hfact]
    exact hobserved

lemma ownersKept_loseAttempts (m : RuntimeExecutionManager) (node : NodeId) (reason : String)
    (ids : List ExecutionId) :
    m.toAttemptLedger.OwnersKept (m.loseAttempts node reason ids).1.toAttemptLedger := by
  induction ids generalizing m with
  | nil => exact .of_eq rfl rfl
  | cons id ids ih =>
    have hrest := ih (m.loseAttempt node reason id).1
    rw [loseAttempt_attempts] at hrest
    exact hrest

lemma soundEvidence_of_effect (h : Registry m) (he : Effect m call m') : SoundEvidence m' := by
  have hkept (hevidence : m'.spatialEvidence = m.spatialEvidence)
      (howners : m.toAttemptLedger.OwnersKept m'.toAttemptLedger) : SoundEvidence m' :=
    h.evidence.mono hevidence howners.1 howners.2
  have haside (ha : m'.aside = m.aside)
      (howners : m.toAttemptLedger.OwnersKept m'.toAttemptLedger) : SoundEvidence m' :=
    hkept (congrArg (·.2.2) ha) howners
  have hsame (hevidence : m'.spatialEvidence = m.spatialEvidence)
      (hattempts : m'.toAttemptLedger = m.toAttemptLedger) : SoundEvidence m' :=
    hkept hevidence (hattempts ▸ .of_eq rfl rfl)
  have hlost (ha : m'.aside = m.aside) {id : ExecutionId}
      (hattempts : m'.toAttemptLedger = m.lost id) : SoundEvidence m' :=
    haside ha (hattempts ▸ .of_eq rfl rfl)
  cases he with
  | registered =>
    exact hsame (congrArg (·.2.2) (addRelations_aside m _)) (addRelations_attempts m _)
  | rejected | cancellationRejected => exact hlost (ambiguous_aside m _) (ambiguous_attempts m _)
  | observed | received | receivedTerminal =>
    exact haside (factState_aside m _ _ _ _ _) (ownersKept_factState m _ _ _ _ _)
  | nodeUnavailable => exact haside (loseAttempts_aside m _ _ _) (ownersKept_loseAttempts m _ _ _)
  | prepared hvalid =>
    exact h.evidence.recordDispatch h.relations.slots (routable_of_route hvalid) _
  | @dispatched id command resources hvalid =>
    have hprepared := h.evidence.recordDispatch h.relations.slots (routable_of_route hvalid)
      (normalizedResources resources)
    exact { hprepared with }
  | evidence hvalid => exact h.evidence.withEvidence hvalid
  | stopConfirmed =>
    refine hsame ?_ (confirm_attempts m _ _).1
    rw [confirmRecoveryStop]
    split <;> rfl
  | released =>
    refine hsame ?_ (markRecoveryRelease_attempts m _)
    rw [markRecoveryRelease]
    split <;> rfl
  | roundConfirmed =>
    refine hsame ?_ (confirm_attempts m _ _).2.1
    rw [confirmGroupRecoveryStop]
    split <;> rfl
  | admitted =>
    refine hsame ?_ (confirm_attempts m _ _).2.2
    rw [confirmGroupContinuationAdmission]
    split <;> rfl
  | progressed =>
    refine hsame ?_ (observeProgress_attempts m _ _)
    rw [observeProgress]
    split
    · split <;> rfl
    · rfl
  | restarted _ hrestore =>
    rw [restore_eq h hrestore]
    exact h.evidence.mono (refreshed_restored m).evidence (active_restored m)
      fun id node hnode => by rwa [(restoredFrom_restored m).executionNodes]
  | unchanged | contextAdded | allocated | redispatched | delivered | counted | receipt
  | cancelled | stopRequested | roundRequested | continued | acknowledged
  | readinessRefused | readiness | deadlines | nodeFenced | channelFenced | channelClosed
  | groupClosed | progressFenced => exact hkept rfl (.of_eq rfl rfl)

/-! ### Runs -/

lemma Registry.new : Registry RuntimeExecutionManager.new where
  attempts := by constructor <;> simp [RuntimeExecutionManager.new, contains]
  relations := guarded_new
  rounds := .of_run .refl
  stops := by constructor <;> simp [RuntimeExecutionManager.new]
  progress := by simp [SoundProgress, RuntimeExecutionManager.new]
  coordination := by constructor <;> simp [RuntimeExecutionManager.new]
  evidence := by constructor <;> simp [RuntimeExecutionManager.new]

lemma Registry.step (h : Registry m) (he : Effect m call m') (hpromise : Promised m call) :
    Registry m' where
  attempts := soundAttempts_of_effect h he
  relations := (relationStep_of_effect h.relations he).guarded
  rounds := h.rounds.step he
  stops := soundStops_of_effect h he hpromise
  progress := soundProgress_of_effect h he
  coordination := soundCoordination_of_effect h he hpromise
  evidence := soundEvidence_of_effect h he

lemma Registry.of_run
    (hrun : Reaches RuntimeExecutionManager.step Promised RuntimeExecutionManager.new m) :
    Registry m :=
  hrun.invariant Registry.new fun _ call h hpromise => h.step (effect_step _ call) hpromise

end

end RoboGuide.Runtime
