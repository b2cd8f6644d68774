import RoboGuide.Runtime.State

/-!
# `RoboGuide.Runtime.Coordination`: Context declarations, peer channels and progress

`core/runtime/src/coordination.rs` and `core/runtime/src/execution/progress.rs`: what the
runtime observes next to the lifecycle of attempts. A channel is ready when every logical
peer has acknowledged the same instance and no acknowledgement has expired; a progress
sample is kept for the current attempt of a Node only.
-/

namespace RoboGuide.Runtime

open Domain Lib Fallible

/-! ### Declarations -/

def contextDeclaration (groupId : ExecutionGroupId) (d : CoordinationDeclaration) :
    RuntimeCoordinationContext where
  groupId
  contextId := d.context.contextId
  couplingMode := d.context.couplingMode
  sharedView := d.sharedView
  relationCount := d.relations.length

def declaredChannel (groupId : ExecutionGroupId) (d : CoordinationDeclaration) :
    Option RuntimePeerChannel :=
  d.peerChannel.map fun descriptor =>
    { groupId, contextId := d.context.contextId
      peers := (d.context.roles.map (·.contextRoleId)).insertionSort (· ≤ ·)
      descriptor, lifecycle := .planned, readiness := [] }

def channelMatches : Option RuntimePeerChannel → Option RuntimePeerChannel → Bool
  | none, none => true
  | some existing, some expected =>
    existing.descriptor == expected.descriptor && existing.peers == expected.peers
  | _, _ => false

/-- The checks of `register_coordination_context`; `true` when the Context is new. -/
def validateContextRegistration (m : RuntimeExecutionManager) (groupId : ExecutionGroupId)
    (d : CoordinationDeclaration) : Except ExecutionRuntimeError Bool := do
  let id := d.context.contextId
  let key : CoordinationKey := toLex (groupId, id)
  match m.coordinationContexts.get? key with
  | some existing =>
    refuse (existing != contextDeclaration groupId d)
      (.executionConflict s!"coordination Context {id} in Group {groupId}")
    refuse (!channelMatches (m.peerChannels.get? key) (declaredChannel groupId d))
      (.executionConflict s!"peer channel {id} in Group {groupId}")
    return false
  | none =>
    refuse (m.peerChannels.contains key)
      (.executionConflict s!"orphan peer channel {id} in Group {groupId}")
    return true

def RuntimeExecutionManager.addContext (m : RuntimeExecutionManager)
    (groupId : ExecutionGroupId) (d : CoordinationDeclaration) : RuntimeExecutionManager :=
  let key : CoordinationKey := toLex (groupId, d.context.contextId)
  let contexts := m.coordinationContexts.insert key (contextDeclaration groupId d)
  let channels := match declaredChannel groupId d with
    | some channel => m.peerChannels.insert key channel
    | none => m.peerChannels
  { m with coordinationContexts := contexts, peerChannels := channels }

def registerCoordinationContext (groupId : ExecutionGroupId) (d : CoordinationDeclaration) :
    RuntimeOp Unit := do
  let m ← get
  let isNew ← check (validateContextRegistration m groupId d)
  if isNew then set (m.addContext groupId d)

/-! ### Peer channels -/

namespace RuntimePeerChannel

variable (c : RuntimePeerChannel)

/-- Drops the acknowledgement of one endpoint. -/
def withoutPeer (peer : ContextRoleId) : List PeerChannelReadinessEvidence :=
  c.readiness.filter fun ack => ack.contextRoleId != peer

/-- `refresh_peer_channel_deadlines` on one channel. -/
def expire (now : TimestampMs) : RuntimePeerChannel :=
  if c.lifecycle ≠ .closed ∧ c.readiness.any fun ack => ack.ready && decide (ack.expiresAt ≤ now)
  then { c with lifecycle := .fenced } else c

def fenceWithout (peer : ContextRoleId) : RuntimePeerChannel :=
  { c with readiness := c.withoutPeer peer, lifecycle := .fenced }

def acknowledged (evidence : PeerChannelReadinessEvidence) : List PeerChannelReadinessEvidence :=
  (c.withoutPeer evidence.contextRoleId ++ [evidence]).insertionSort fun a b =>
    a.contextRoleId ≤ b.contextRoleId

/-- The lifecycle after a positive acknowledgement. -/
def readinessLifecycle (readiness : List PeerChannelReadinessEvidence)
    (observedAt : TimestampMs) : PeerChannelLifecycle :=
  let instances := OrdSet.ofList ((readiness.filter (·.ready)).map (·.channelInstanceId))
  let allReady := c.peers.all fun peer => readiness.any fun ack =>
    ack.contextRoleId == peer && ack.ready && decide (observedAt < ack.expiresAt)
  if allReady && instances.entries.length == 1 then .ready
  else if decide (1 < instances.entries.length) || c.lifecycle == .fenced then .fenced
  else .planned

def accept (evidence : PeerChannelReadinessEvidence) : RuntimePeerChannel :=
  let readiness := c.acknowledged evidence
  let lifecycle := if evidence.ready then c.readinessLifecycle readiness evidence.receivedAt
    else .fenced
  { c with readiness := readiness, lifecycle := lifecycle }

def observe (evidence : PeerChannelReadinessEvidence) :
    Except ExecutionRuntimeError RuntimePeerChannel :=
  if c.descriptor.profileId ≠ evidence.profileId ∨
      c.descriptor.messageSchema ≠ evidence.messageSchema then
    .ok (c.fenceWithout evidence.contextRoleId)
  else match c.readiness.find? fun ack => ack.contextRoleId == evidence.contextRoleId with
    | some existing =>
      if evidence.sessionId = existing.sessionId then
        if evidence.sequence < existing.sequence then
          .error (.reconciliationRequired
            "older peer readiness acknowledgement cannot replace current evidence")
        else if evidence.sequence = existing.sequence then
          .ok (if existing = evidence then c else c.fenceWithout evidence.contextRoleId)
        else .ok (c.accept evidence)
      else .ok (c.accept evidence)
    | none => .ok (c.accept evidence)

/-- `fence_peer_channels_for_node` on one channel. -/
def fenceNode (nodeId : NodeId) : RuntimePeerChannel :=
  if c.readiness.any fun ack => ack.nodeId == nodeId then
    { c with lifecycle := .fenced, readiness := c.readiness.filter fun ack => ack.nodeId != nodeId }
  else c

end RuntimePeerChannel

namespace RuntimeExecutionManager

variable (m : RuntimeExecutionManager)

def mapChannels (f : CoordinationKey → RuntimePeerChannel → RuntimePeerChannel) :
    RuntimeExecutionManager :=
  { m with peerChannels := m.peerChannels.mapValues f }

def refreshPeerChannelDeadlines (now : TimestampMs) : RuntimeExecutionManager :=
  m.mapChannels fun _ channel => channel.expire now

def fencePeerChannelsForNode (nodeId : NodeId) : RuntimeExecutionManager :=
  m.mapChannels fun _ channel => channel.fenceNode nodeId

def closePeerChannelsForGroup (groupId : ExecutionGroupId) : RuntimeExecutionManager :=
  m.mapChannels fun key channel =>
    if (ofLex key).1 = groupId then { channel with lifecycle := .closed, readiness := [] }
    else channel

end RuntimeExecutionManager

/-- Expired channels are fenced even when the evidence is
refused. -/
def observePeerChannelReadiness (evidence : PeerChannelReadinessEvidence) : RuntimeOp Unit := do
  modify fun m => m.refreshPeerChannelDeadlines evidence.receivedAt
  check (refuse (decide (evidence.expiresAt ≤ evidence.receivedAt))
    (.reconciliationRequired "peer readiness expiry must follow its receive time"))
  let m ← get
  let group := evidence.groupId
  let context := evidence.contextId
  let key : CoordinationKey := toLex (group, context)
  let channel ← check (okOr (m.peerChannels.get? key) (.reconciliationRequired
    s!"unknown peer channel {context} in Group {group}"))
  check (refuse (channel.lifecycle == .closed)
    (.reconciliationRequired "closed peer channel cannot accept readiness evidence"))
  check (refuse (!channel.peers.contains evidence.contextRoleId)
    (.reconciliationRequired "peer readiness references an undeclared ContextRole"))
  let observed ← check (channel.observe evidence)
  let channels := m.peerChannels.insert key observed
  set { m with peerChannels := channels }

/-- Fencing and closing pass their lifecycle. -/
def setPeerChannelLifecycle (groupId : ExecutionGroupId) (contextId : CoordinationContextId)
    (lifecycle : PeerChannelLifecycle) : RuntimeOp Unit := do
  let m ← get
  let key : CoordinationKey := toLex (groupId, contextId)
  let channel ← check (okOr (m.peerChannels.get? key) (.reconciliationRequired
    s!"unknown peer channel {contextId} in Group {groupId}"))
  check (refuse (channel.lifecycle == .closed && lifecycle != .closed) (.reconciliationRequired
    s!"closed peer channel {contextId} in Group {groupId} cannot be reopened"))
  let channels := m.peerChannels.insert key { channel with lifecycle := lifecycle }
  set { m with peerChannels := channels }

def fencePeerChannel (groupId : ExecutionGroupId) (contextId : CoordinationContextId) :
    RuntimeOp Unit :=
  setPeerChannelLifecycle groupId contextId .fenced

def closePeerChannel (groupId : ExecutionGroupId) (contextId : CoordinationContextId) :
    RuntimeOp Unit :=
  setPeerChannelLifecycle groupId contextId .closed

/-! ### Progress -/

def executionProgressSchema : String := "roboguide.execution-progress/v0.1"

/-- `saturating_add` on `u64`. -/
def saturatingAdd (a b : Nat) : Nat := min (a + b) u64Max

def ProgressSource.isStaleAt (s : ProgressSource) (now : TimestampMs) : Bool :=
  decide (saturatingAdd s.receivedAt s.validForMs ≤ now)

def progressAttributed (key : StateRecordKey) (sample : OperationProgressSample)
    (command : ExecutionCommand) : Bool :=
  key.semantic == .reported && key.objectClass == .node &&
    key.objectId == command.nodeId.text && key.source.nodeId == some command.nodeId &&
    sample.operation == command.intent.operation

/-- A sample of the same source generation that goes back in order, time or work. -/
def progressRegresses (previous : ProgressObservation) (record : ProgressSource)
    (sample : OperationProgressSample) : Bool :=
  decide (record.sequence ≤ previous.record.sequence) ||
    decide (record.receivedAt < previous.record.receivedAt) ||
    decide (sample.stageEpoch < previous.sample.stageEpoch) ||
    (sample.stageEpoch == previous.sample.stageEpoch &&
      match sample.completedUnits, previous.sample.completedUnits with
      | some next, some old => decide (next < old)
      | _, _ => false)

/-- A fresh sample that shows no change since the previous one. -/
def progressUnchanged (previous : ProgressObservation) (record : ProgressSource)
    (sample : OperationProgressSample) : Bool :=
  sample.stageEpoch == previous.sample.stageEpoch &&
    sample.completedUnits == previous.sample.completedUnits &&
    sample.activity == previous.sample.activity && !previous.record.isStaleAt record.receivedAt

/-- The observation an admitted sample leaves; `none` when it is refused for its order. -/
def nextProgress (previous : Option ProgressObservation) (record : ProgressSource)
    (sample : OperationProgressSample) : Option ProgressObservation :=
  match previous with
  | none => some ⟨sample, record, record.receivedAt⟩
  | some old =>
    if old.record.key ≠ record.key then none
    else if old.record.sourceEpoch = record.sourceEpoch then
      if progressRegresses old record sample then none
      else some ⟨sample, record,
        if progressUnchanged old record sample then old.lastAdvancedAt else record.receivedAt⟩
    else some ⟨sample, record, record.receivedAt⟩

namespace RuntimeExecutionManager

variable (m : RuntimeExecutionManager)

/-- The sample belongs to a current, open attempt and is well attributed. -/
def admitsProgress (record : StateRecord) (sample : OperationProgressSample) : Bool :=
  (m.executions.get? sample.executionId).any fun context =>
    decide (sample.executionId.utf8ByteSize ≤ 256) &&
      record.payloadSchema == executionProgressSchema &&
      progressAttributed record.key sample context.command &&
      m.activeExecutions.get? (commandSlot context.command) == some sample.executionId &&
      !m.isTerminal sample.executionId && record.validForMs != 0

def observeProgress (record : StateRecord) (sample : OperationProgressSample) :
    RuntimeExecutionManager :=
  if m.admitsProgress record sample then
    match nextProgress (m.progress.get? sample.executionId) record.toProgressSource sample with
    | some observation =>
      { m with progress := m.progress.insert sample.executionId observation }
    | none => m
  else m

def fenceProgressForNode (nodeId : NodeId) : RuntimeExecutionManager :=
  { m with
    progress := m.progress.retain fun _ observation =>
      observation.record.key.source.nodeId != some nodeId }

end RuntimeExecutionManager

end RoboGuide.Runtime
