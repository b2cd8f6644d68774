import RoboGuide.Lib.Rebuild
import RoboGuide.Runtime.Coordination
import RoboGuide.Runtime.Observation

/-!
# `RoboGuide.Runtime.Checkpoint`: writing and restoring the registry

`core/runtime/src/execution/checkpoint.rs`, with the validators of its sibling modules. A
checkpoint holds maps with composite keys as lists of entries; a record whose fields are a
map's key and value is a pair here. Restoring validates the lists, rebuilds the maps, turns
every status that is not terminal into `Unknown`, and fences what needs fresh evidence.
-/

namespace RoboGuide.Runtime

open Domain Lib Fallible

/-- The durable projection of the registry. -/
structure RuntimeExecutionCheckpoint where
  terminalReceivedAt : OrdMap ExecutionId TimestampMs
  groupRecoveries : List GroupRecoveryStopIntent
  recoveryStops : OrdMap ExecutionId RecoveryStopIntent
  recoveryBudgets : List RecoveryBudget
  progress : OrdMap ExecutionId ProgressObservation
  executions : OrdMap ExecutionId ExecutionContext
  executionStatus : OrdMap ExecutionId ExecutionStatus
  executionSequences : OrdMap ExecutionId Nat
  executionNodes : OrdMap ExecutionId NodeId
  activeExecutions : List (ExecutionSlot × ExecutionId)
  relations : List RuntimeExecutionRelation
  relationStates : List (RelationKey × ExecutionRelationState)
  relationFences : List RelationKey
  relationProofs : List (RelationKey × ExecutionId)
  coordinationContexts : List RuntimeCoordinationContext
  peerChannels : List RuntimePeerChannel
  spatialEvidence : List SharedSpatialEvidence
  attemptGenerations : List (ExecutionSlot × Nat)
  dispatchOutbox : List DispatchIntent
  cancellationIntents : OrdSet ExecutionId

def RuntimeExecutionManager.checkpoint (m : RuntimeExecutionManager) :
    RuntimeExecutionCheckpoint where
  terminalReceivedAt := m.terminalReceivedAt
  groupRecoveries := m.groupRecoveries
  recoveryStops := m.recoveryStops
  recoveryBudgets := m.recoveryBudgets.values
  progress := m.progress
  executions := m.executions
  executionStatus := m.executionStatus
  executionSequences := m.executionSequences
  executionNodes := m.executionNodes
  activeExecutions := m.activeExecutions.entries
  relations := m.relations.values
  relationStates := m.relationStates.entries
  relationFences := m.relationFences.keys
  relationProofs := m.relationProofs.entries
  coordinationContexts := m.coordinationContexts.values
  peerChannels := m.peerChannels.values
  spatialEvidence := m.spatialEvidence.values
  attemptGenerations := m.attemptGenerations.entries
  dispatchOutbox := m.dispatchOutbox.values
  cancellationIntents := m.cancellationIntents

/-- `InvalidCheckpoint` with its reason. -/
def invalid (reason : String) : ExecutionRuntimeError := .invalidCheckpoint reason

/-! ### `validate_checkpoint` -/

namespace RuntimeExecutionCheckpoint

variable (c : RuntimeExecutionCheckpoint)

def validateTerminalTimes : Except ExecutionRuntimeError Unit :=
  c.terminalReceivedAt.keys.forM fun id =>
    refuse (!c.executions.contains id ||
        (c.executionStatus.get? id).all fun status => !status.isTerminal)
      (invalid "terminal receive-time evidence must belong to a known terminal attempt")

/-- Every admission of a Group continuation is backed by a Node fact. -/
def validateAdmissions : Except ExecutionRuntimeError Unit :=
  refuse (c.groupRecoveries.any fun intent => intent.admittedAtMs.keys.any fun id =>
      (c.executionStatus.get? id).all fun status => status == .dispatched)
    (invalid "Group continuation admission lacks a Node execution fact")

def validateGenerations : Except ExecutionRuntimeError Unit :=
  checkAgainstEarlier (fun earlier attempt =>
    refuse (attempt.2 == 0 || (earlier.map (·.1)).contains attempt.1)
      (invalid "checkpoint contains an invalid or duplicate attempt generation"))
    [] c.attemptGenerations

/-- Every dispatch intent repeats its execution context. -/
def validateOutbox : Except ExecutionRuntimeError Unit :=
  checkAgainstEarlier (fun earlier intent => do
    let id := intent.executionId
    let context ← okOr (c.executions.get? id)
      (invalid s!"dispatch intent {id} has no execution context")
    refuse (isBlank id || (earlier.map (·.executionId)).contains id ||
        context.command != intent.command ||
        context.resourceIds != normalizedResources intent.resourceIds)
      (invalid s!"dispatch intent {id} differs from its immutable execution context"))
    [] c.dispatchOutbox

def validateCancellations : Except ExecutionRuntimeError Unit :=
  refuse (c.cancellationIntents.keys.any fun id => !c.executions.contains id)
    (invalid "checkpoint cancellation references an unknown execution")

/-- One execution context: its prerequisites, declaration, identity, owner and status. -/
def validateExecution (id : ExecutionId) (context : ExecutionContext) :
    Except ExecutionRuntimeError Unit := do
  match MemoryRequirement.validateSet context.command.memoryRequirements with
  | .error reason => throw (invalid reason)
  | .ok _ =>
    refuse context.command.recoveryMismatch
      (invalid "checkpoint recovery declaration belongs to a different operation")
    refuse (id == "") (invalid "checkpoint contains an empty execution id")
    refuse (c.executionNodes.get? id != some context.command.nodeId)
      (invalid s!"execution {id} has inconsistent node ownership")
    refuse (!c.executionStatus.contains id) (invalid s!"execution {id} has no status")

/-- A current attempt has a context for its slot. -/
def validateActive (active : ExecutionSlot × ExecutionId) : Except ExecutionRuntimeError Unit := do
  let id := active.2
  let context ← okOr (c.executions.get? id) (invalid s!"active execution {id} has no context")
  refuse (commandSlot context.command != active.1)
    (invalid s!"active execution {id} differs from its command Group Task role")

/-- A sequence belongs to an attempt with a status. -/
def validateSequence (id : ExecutionId) : Except ExecutionRuntimeError Unit :=
  refuse (!c.executionStatus.contains id) (invalid s!"execution sequence {id} has no status")

/-- A proof names an attempt of its relation's target slot; proofs of unknown relations are
left to the relation maps. -/
def validateProof (proof : RelationKey × ExecutionId) : Except ExecutionRuntimeError Unit :=
  match c.relations.find? fun relation => relation.key == proof.1 with
  | none => .ok ()
  | some relation => do
    let relationId := relation.relationId
    let target := proof.2
    let context ← okOr (c.executions.get? target)
      (invalid s!"relation {relationId} proof references unknown target execution {target}")
    refuse (commandSlot context.command != relation.targetKey)
      (invalid s!"relation {relationId} proof does not reference its target logical slot")

/-- `validate_checkpoint`. -/
def validate : Except ExecutionRuntimeError Unit := do
  c.validateAdmissions
  c.validateGenerations
  c.validateOutbox
  c.validateCancellations
  c.executions.entries.forM fun (id, context) => c.validateExecution id context
  c.activeExecutions.forM c.validateActive
  c.executionSequences.keys.forM c.validateSequence
  c.relationProofs.forM c.validateProof

end RuntimeExecutionCheckpoint

/-! ### Rebuilding the maps -/

def validateRelationContract (relation : RuntimeExecutionRelation) :
    Except ExecutionRuntimeError Unit := do
  refuse (relation.sourceTaskRef.missionId != relation.targetTaskRef.missionId)
    (invalid "relation endpoints belong to different Missions")
  refuse (relation.kind != relation.relationType.kind)
    (invalid "checkpoint relation kind disagrees with typed relation")
  match newTypedRelation relation.relationId
      ⟨relation.sourceTaskRef.taskId, relation.sourceRoleId⟩
      ⟨relation.targetTaskRef.taskId, relation.targetRoleId⟩ relation.relationType with
  | .ok _ => return ()
  | .error error => throw (invalid s!"checkpoint relation contract is invalid: {error}")

/-- Spatial evidence is not part of it. -/
def restoreRelationMaps (c : RuntimeExecutionCheckpoint) :
    Except ExecutionRuntimeError RelationLedger := do
  let relations ← collect RuntimeExecutionRelation.key (fun relation => relation)
    validateRelationContract (invalid "checkpoint contains duplicate execution relation")
    ∅ c.relations
  let orphanState := invalid "checkpoint contains duplicate or orphan relation state"
  let relationStates ← collect (fun state : RelationKey × ExecutionRelationState => state.1)
    (·.2) (fun state => refuse (!relations.contains state.1) orphanState) orphanState
    ∅ c.relationStates
  refuse (relationStates.entries.length != relations.entries.length)
    (invalid "checkpoint relation state coverage is incomplete")
  let orphanFence := invalid "checkpoint contains duplicate or orphan relation fence"
  let relationFences ← collect (fun fence : RelationKey => fence) (fun _ => ())
    (fun fence => refuse (!relations.contains fence) orphanFence) orphanFence ∅ c.relationFences
  let invalidProof := invalid "checkpoint contains invalid relation satisfaction proof"
  let relationProofs ← collect (fun proof : RelationKey × ExecutionId => proof.1) (·.2)
    (fun proof => refuse (!relations.contains proof.1 || isBlank proof.2) invalidProof)
    invalidProof ∅ c.relationProofs
  return { relations, relationStates, relationFences, relationProofs }

def validReadiness (channel : RuntimePeerChannel) (ack : PeerChannelReadinessEvidence) : Bool :=
  ack.groupId == channel.groupId && ack.contextId == channel.contextId &&
    channel.peers.contains ack.contextRoleId && ack.profileId == channel.descriptor.profileId &&
    ack.messageSchema == channel.descriptor.messageSchema && !isBlank ack.nodeId.text &&
    !isBlank ack.localSystemId.text && !isBlank ack.sessionId &&
    !isBlank ack.channelInstanceId && decide (0 < ack.sequence) &&
    decide (ack.receivedAt < ack.expiresAt)

def validChannel (contexts : OrdMap CoordinationKey RuntimeCoordinationContext)
    (channel : RuntimePeerChannel) : Bool :=
  contexts.contains (toLex (channel.groupId, channel.contextId)) &&
    decide (2 ≤ channel.peers.length) && decide channel.peers.Nodup &&
    !isBlank channel.descriptor.profileId && !isBlank channel.descriptor.messageSchema &&
    (decide (channel.readiness.map (·.contextRoleId)).Nodup &&
      channel.readiness.all (validReadiness channel))

def validateContextView (context : RuntimeCoordinationContext) :
    Except ExecutionRuntimeError Unit :=
  match context.sharedView with
  | none => .ok ()
  | some view =>
    match view.validate with
    | .ok _ => .ok ()
    | .error error => .error (invalid s!"checkpoint Group shared view is invalid: {error}")

def restoreCoordinationMaps (c : RuntimeExecutionCheckpoint) :
    Except ExecutionRuntimeError (OrdMap CoordinationKey RuntimeCoordinationContext ×
      OrdMap CoordinationKey RuntimePeerChannel) := do
  let contexts ← collect
    (fun context : RuntimeCoordinationContext =>
      (toLex (context.groupId, context.contextId) : CoordinationKey))
    (fun context => context) validateContextView
    (invalid "checkpoint contains duplicate coordination Context") ∅ c.coordinationContexts
  let orphan := invalid "checkpoint contains duplicate or orphan peer channel"
  let channels ← collect
    (fun channel : RuntimePeerChannel =>
      (toLex (channel.groupId, channel.contextId) : CoordinationKey))
    (fun channel => channel) (fun channel => refuse (!validChannel contexts channel) orphan)
    orphan ∅ c.peerChannels
  return (contexts, channels)

def restoreSpatialEvidence (c : RuntimeExecutionCheckpoint) :
    Except ExecutionRuntimeError (OrdMap ExecutionSlot SharedSpatialEvidence) :=
  collect SharedSpatialEvidence.slot (fun evidence => evidence)
    (fun evidence => refuse (isBlank evidence.executionId || isBlank evidence.frameId)
      (invalid "checkpoint contains invalid shared spatial evidence"))
    (invalid "checkpoint contains duplicate shared spatial evidence") ∅ c.spatialEvidence

def RuntimePeerChannel.restored (channel : RuntimePeerChannel) : RuntimePeerChannel :=
  { channel with
    lifecycle := if channel.lifecycle = .ready then .fenced else channel.lifecycle
    readiness := [] }

def ExecutionStatus.restored (status : ExecutionStatus) : ExecutionStatus :=
  if status.isTerminal then status else .unknown

def activatedFrom (c : RuntimeExecutionCheckpoint) : OrdSet (ExecutionGroupId ×ₗ TaskRef) :=
  OrdSet.ofList ((c.activeExecutions.filter fun active =>
    (c.executionStatus.get? active.2).any ExecutionStatus.provesActivation).map fun active =>
      toLex (slotGroup active.1, slotTask active.1))

def validateEvidenceOwner (c : RuntimeExecutionCheckpoint)
    (active : OrdMap ExecutionSlot ExecutionId) (slot : ExecutionSlot)
    (evidence : SharedSpatialEvidence) : Except ExecutionRuntimeError Unit :=
  refuse (active.get? slot != some evidence.executionId ||
      c.executionNodes.get? evidence.executionId != some evidence.nodeId)
    (invalid "checkpoint shared spatial evidence is not owned by the current attempt")

/-- Generation one for every current attempt that has none. -/
def fillGenerations (active : List ExecutionSlot) (generations : OrdMap ExecutionSlot Nat) :
    OrdMap ExecutionSlot Nat :=
  active.foldl (fun g slot => if g.contains slot then g else g.insert slot 1) generations

/-! ### Validators of the restored registry -/

namespace RuntimeExecutionManager

variable (m : RuntimeExecutionManager)

def validateProgress : Except ExecutionRuntimeError Unit :=
  m.progress.entries.forM fun (id, observation) => do
    let context ← okOr (m.executions.get? id) (invalid "progress has no execution")
    refuse (id != observation.sample.executionId ||
        !progressAttributed observation.record.key observation.sample context.command ||
        observation.record.validForMs == 0 ||
        decide (observation.record.receivedAt < observation.lastAdvancedAt))
      (invalid "progress identity or receive time is invalid")

/-- One stop of `validate_recovery_stops`. -/
def validStop (id : ExecutionId) (intent : RecoveryStopIntent) (slot : ExecutionSlot) : Bool :=
  id == intent.executionId && intent.timeoutMs != 0 && decide (intent.timeoutMs ≤ 3600000) &&
    checkedAdd intent.requestedAtMs intent.timeoutMs == some intent.deadlineMs &&
    m.cancellationIntents.contains id &&
    (m.recoveryBudgets.get? slot).any (fun budget =>
      budget.limit == intent.maxReplacements && decide (0 < budget.used) &&
        decide (budget.used ≤ budget.limit)) &&
    intent.confirmedAtMs.all (fun time =>
      decide (intent.requestedAtMs ≤ time) && m.statusOf id == some .cancelled) &&
    (!intent.releaseAuthorized || intent.confirmedAtMs.any fun time => time < intent.deadlineMs)

def stopInSlot (slot : ExecutionSlot) (intent : RecoveryStopIntent) : Bool :=
  (m.executions.get? intent.executionId).any fun context => commandSlot context.command == slot

/-- One budget of `validate_recovery_stops`: as many stops as it has used. -/
def validBudget (slot : ExecutionSlot) (budget : RecoveryBudget) : Bool :=
  slot == budget.slot && decide (1 ≤ budget.limit) && decide (budget.limit ≤ 16) &&
    budget.used != 0 && decide (budget.used ≤ budget.limit) &&
    m.recoveryStops.values.countP (m.stopInSlot slot) == budget.used

def validateRecoveryStops : Except ExecutionRuntimeError Unit := do
  m.recoveryStops.entries.forM fun (id, intent) => do
    let context ← okOr (m.executions.get? id) (invalid "recovery stop has no execution")
    refuse (!m.validStop id intent (commandSlot context.command))
      (invalid "invalid recovery stop authorization or confirmation")
  m.recoveryBudgets.entries.forM fun (slot, budget) =>
    refuse (!m.validBudget slot budget) (invalid "invalid recovery budget history")

def validRoundPolicy (intent : GroupRecoveryStopIntent) : Bool :=
  !isBlank intent.recoveryId && decide (intent.recoveryId.utf8ByteSize ≤ 256) &&
    !intent.members.isEmpty && decide (intent.members.length ≤ 32) &&
    intent.timeoutMs != 0 && decide (intent.timeoutMs ≤ 3600000) &&
    decide (1 ≤ intent.maxReplacements) && decide (intent.maxReplacements ≤ 16) &&
    checkedAdd intent.requestedAtMs intent.timeoutMs == some intent.deadlineMs

def validRoundSets (intent : GroupRecoveryStopIntent) : Bool :=
  decide intent.memberIds.Nodup &&
    intent.preservedCompleted.keys.all intent.memberIds.contains &&
    intent.confirmedAtMs.keys.all intent.memberIds.contains

def validRoundTimes (intent : GroupRecoveryStopIntent) : Bool :=
  if intent.replacements.entries.isEmpty then
    intent.preparedAtMs.isNone && intent.admittedAtMs.entries.isEmpty
  else intent.preparedAtMs.any fun prepared =>
    decide (intent.requestedAtMs ≤ prepared) && decide (prepared < intent.deadlineMs) &&
      intent.confirmedAtMs.values.all (fun time => time ≤ prepared) &&
      intent.admittedAtMs.entries.all fun (id, time) =>
        decide (prepared ≤ time) && intent.hasReplacement id

def validMemberSession (groupId : ExecutionGroupId) (command : ExecutionCommand)
    (session : ExecutionSessionDescriptor) : Bool :=
  decide (session.slots.length ≤ 32) && session.slots.all (·.independent) &&
    (session.validateSlot command.taskRef.missionId groupId command.taskRef.taskId
      command.roleId).isOk

def validMember (intent : GroupRecoveryStopIntent) (member : GroupRecoveryMember)
    (shared : Option ExecutionSessionDescriptor) : Option ExecutionSessionDescriptor :=
  (m.executions.get? member.executionId).bind fun context =>
    let command := context.command
    command.session.bind fun session =>
      if command.groupId == intent.groupId && command.nodeId == member.expectedNodeId &&
          shared.all (fun earlier => earlier == session) &&
          validMemberSession intent.groupId command session &&
          command.recoverySupport.any (fun declaration =>
            declaration.support.operation == command.intent.operation &&
              declaration.support.supportsGroupContinuation) &&
          (if intent.preservedCompleted.contains member.executionId
            then m.statusOf member.executionId == some .completed
            else member.repeatAuthorized &&
              m.cancellationIntents.contains member.executionId) &&
          (intent.confirmedAtMs.get? member.executionId).all (fun time =>
            decide (intent.requestedAtMs ≤ time) && confirmsStop (m.statusOf member.executionId))
      then some session else none

def validMembers (intent : GroupRecoveryStopIntent) :
    Option ExecutionSessionDescriptor → List GroupRecoveryMember → Bool
  | _, [] => true
  | shared, member :: members =>
    match m.validMember intent member shared with
    | none => false
    | some session => validMembers intent (some session) members

def validReplacement (intent : GroupRecoveryStopIntent) (source replacement : ExecutionId) :
    Bool :=
  (m.executions.get? replacement).any fun actual =>
    ((m.executions.get? source).any fun original => sameInvocation original actual) &&
      actual.command.groupId == intent.groupId && !intent.memberIds.contains replacement

/-- The association of a round: every cancelled member exactly once, all confirmed in time. -/
def validReplacements (intent : GroupRecoveryStopIntent) : Bool :=
  intent.replacements.entries.isEmpty ||
    (OrdSet.ofList intent.replacements.keys == OrdSet.ofList (m.cancelledMembers intent) &&
      decide intent.replacements.values.Nodup &&
      intent.memberIds.all (fun id => intent.preservedCompleted.contains id ||
        (intent.confirmedAtMs.get? id).any fun time => time < intent.deadlineMs) &&
      intent.replacements.entries.all fun (source, replacement) =>
        m.validReplacement intent source replacement)

/-- The closure of `validate_group_recoveries`. -/
def validRound (intent : GroupRecoveryStopIntent) : Bool :=
  validRoundPolicy intent && validRoundSets intent && validRoundTimes intent &&
    m.validMembers intent none intent.members && m.validReplacements intent

/-- Each round against the earlier ones of its Group. -/
def validateGroupRecoveries : Except ExecutionRuntimeError Unit :=
  checkAgainstEarlier (fun earlier intent =>
    let history := earlier.filter fun previous => previous.groupId == intent.groupId
    refuse (!m.validRound intent || decide (intent.maxReplacements ≤ history.length) ||
        history.any (fun previous => previous.recoveryId == intent.recoveryId ||
          previous.maxReplacements != intent.maxReplacements))
      (invalid "invalid Group recovery history"))
    [] m.groupRecoveries

end RuntimeExecutionManager

/-! ### Restoring -/

def assemble (c : RuntimeExecutionCheckpoint) (relations : RelationLedger)
    (spatialEvidence : OrdMap ExecutionSlot SharedSpatialEvidence)
    (coordinationContexts : OrdMap CoordinationKey RuntimeCoordinationContext)
    (peerChannels : OrdMap CoordinationKey RuntimePeerChannel)
    (activeExecutions : OrdMap ExecutionSlot ExecutionId)
    (recoveryBudgets : OrdMap ExecutionSlot RecoveryBudget) : RuntimeExecutionManager where
  terminalReceivedAt := c.terminalReceivedAt
  executions := c.executions
  executionStatus := c.executionStatus.mapValues fun _ status => status.restored
  executionSequences := c.executionSequences
  executionNodes := c.executionNodes
  activeExecutions := activeExecutions
  restoredExecutions := OrdSet.ofList c.executions.keys
  activatedTasks := activatedFrom c
  reactivationAttempts := ∅
  attemptGenerations := fillGenerations activeExecutions.keys (OrdMap.ofList c.attemptGenerations)
  dispatchOutbox := OrdMap.ofList (c.dispatchOutbox.map fun intent =>
    (intent.executionId, intent))
  cancellationIntents := c.cancellationIntents
  groupRecoveries := c.groupRecoveries
  recoveryStops := c.recoveryStops
  recoveryBudgets := recoveryBudgets
  relations := relations.relations
  relationStates := relations.relationStates
  relationFences := relations.relationFences
  relationProofs := relations.relationProofs
  spatialEvidence := spatialEvidence
  progress := c.progress
  coordinationContexts := coordinationContexts
  peerChannels := peerChannels.mapValues fun _ channel => channel.restored

/-- The first half of `RuntimeExecutionManager::restore`: everything up to the assembled
registry. -/
def rebuild (c : RuntimeExecutionCheckpoint) :
    Except ExecutionRuntimeError RuntimeExecutionManager := do
  c.validateTerminalTimes
  c.validate
  let relations ← restoreRelationMaps c
  let (contexts, channels) ← restoreCoordinationMaps c
  let evidence ← restoreSpatialEvidence c
  let active ← collect (fun active : ExecutionSlot × ExecutionId => active.1) (·.2)
    (fun _ => .ok ()) (invalid "checkpoint contains duplicate active Group Task role")
    ∅ c.activeExecutions
  evidence.entries.forM fun (slot, e) => validateEvidenceOwner c active slot e
  let budgets ← collect RecoveryBudget.slot (fun budget => budget) (fun _ => .ok ())
    (invalid "checkpoint contains duplicate recovery budget slots") ∅ c.recoveryBudgets
  return assemble c relations evidence contexts channels active budgets

def restore (c : RuntimeExecutionCheckpoint) :
    Except ExecutionRuntimeError RuntimeExecutionManager := do
  let assembled ← rebuild c
  let restored := assembled.refreshAllRelationsAfterRestore
  restored.validateProgress
  restored.validateRecoveryStops
  restored.validateGroupRecoveries
  return restored

end RoboGuide.Runtime
