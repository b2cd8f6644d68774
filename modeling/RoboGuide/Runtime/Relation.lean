import RoboGuide.Runtime.State

/-!
# `RoboGuide.Runtime.Relation`: live execution relations

`core/runtime/src/relation/{mod,manager}.rs`: the state of a relation is derived from the
current attempts of its two slots, recorded when a fact about one of them arrives, and
latched: a violated or unknown relation fences its target until it is acknowledged, and a
satisfied one proves the target attempt it was satisfied with.
-/

namespace RoboGuide.Runtime

open Domain Lib Fallible

variable (relation : RuntimeExecutionRelation)

/-- Only violated and unknown relations ask for it. -/
def relationReconciliationReason
    (state : ExecutionRelationState) : String :=
  match relation.kind, state with
  | .requiresActive, .violated =>
    "required source execution is terminal while target remains active"
  | .sharedSpatialReference, .violated =>
    "current endpoint localization evidence differs from the required shared spatial reference"
  | .sharedSpatialReference, .unknown =>
    "current endpoint localization evidence cannot prove the required shared spatial reference"
  | _, .unknown => "execution relation cannot prove current physical coordination"
  | _, .violated => "execution relation evidence violates its typed requirement"
  -- unreachable in the source
  | _, _ => ""

namespace RuntimeExecutionManager

section

variable (m : RuntimeExecutionManager)

def currentSpatialEvidence (slot : ExecutionSlot) : Option SharedSpatialEvidence :=
  (m.spatialEvidence.get? slot).bind fun evidence =>
    (m.activeExecutions.get? slot).bind fun executionId =>
      if executionId = evidence.executionId ∧
          m.executionNodes.get? executionId = some evidence.nodeId
      then some evidence else none

def missingSpatialEvidenceState :
    ExecutionRelationState :=
  if m.relationProofs.contains relation.key then .unknown else .pending

/-- The spatial comparison of two endpoints that are both live. -/
def deriveSpatialState : ExecutionRelationState :=
  match relation.relationType with
  | .sharedSpatialReference reference =>
    match m.currentSpatialEvidence relation.sourceKey,
        m.currentSpatialEvidence relation.targetKey with
    | some source, some target =>
      if source.selector ≠ reference.selector ∨ target.selector ≠ reference.selector ∨
          source.frameId ≠ reference.frameId ∨ target.frameId ≠ reference.frameId
      then .violated else .satisfied
    | _, _ => m.missingSpatialEvidenceState relation
  | _ => .unknown

def deriveLiveState : ExecutionRelationState :=
  match relation.kind with
  | .requiresActive =>
    match m.currentStatus relation.sourceKey with
    | some .accepted | some .running => .satisfied
    | some .unknown => .unknown
    | some .completed | some .failed | some .cancelled => .violated
    | some .dispatched | none => .pending
  | .sharedSpatialReference =>
    match m.currentStatus relation.sourceKey with
    | some .accepted | some .running => m.deriveSpatialState relation
    | some .unknown => .unknown
    | some .completed | some .failed | some .cancelled => .violated
    | some .dispatched | none => m.missingSpatialEvidenceState relation
  | .groupMemberState | .relativePose | .relativeDistance | .stateRequirement
  | .freshnessRequirement => .unknown

/-- The target's current attempt is the one proven under this relation. -/
def targetProven : Bool :=
  (m.activeExecutions.get? relation.targetKey).any fun executionId =>
    m.relationProofs.get? relation.key == some executionId

def deriveRelationState : ExecutionRelationState :=
  match m.currentStatus relation.targetKey with
  | some .accepted | some .running => m.deriveLiveState relation
  | some .unknown => .unknown
  | some .completed => if m.targetProven relation then .dormant else .unknown
  | some .failed | some .cancelled => .dormant
  | some .dispatched | none => .dormant

def relationsAllowTaskSuccess (groupId : ExecutionGroupId) (taskRef : TaskRef) : Bool :=
  m.relations.entries.all fun (key, relation) =>
    if relation.groupId ≠ groupId ∨ relation.targetTaskRef ≠ taskRef then true
    else match m.activeExecutions.get? relation.targetKey with
      | none => false
      | some target =>
        !m.relationFences.contains key && m.relationProofs.get? key == some target

end

/-! ### Recording -/

/-- What `refresh_relation` records for a relation in the derived state. -/
def recordRelation (m : RuntimeExecutionManager) (key : RelationKey)
    (relation : RuntimeExecutionRelation) : RelationLedger :=
  let current := m.deriveRelationState relation
  let proofs :=
    match current, m.activeExecutions.get? relation.targetKey with
    | .satisfied, some target => m.relationProofs.insert key target
    | _, _ => m.relationProofs
  let fences :=
    if current.requiresReconciliation then m.relationFences.insert key () else m.relationFences
  let states := m.relationStates.insert key current
  { m.toRelationLedger with
    relationStates := states, relationFences := fences, relationProofs := proofs }

/-- The events of `refresh_relation`: a change, and a request when it fences. -/
def relationEvents (m : RuntimeExecutionManager) (key : RelationKey)
    (relation : RuntimeExecutionRelation) : List ExecutionEvent :=
  let current := m.deriveRelationState relation
  let previous := (m.relationStates.get? key).getD .dormant
  let source := m.activeExecutions.get? relation.sourceKey
  let target := m.activeExecutions.get? relation.targetKey
  if current = previous then [] else
  .relationStateChanged relation previous current source target ::
    if current.requiresReconciliation then
      [.relationReconciliationRequired relation current source target
        (relationReconciliationReason relation current)]
    else []

/-- The key comes from the registry, so the relation is always there. -/
def refreshRelation (m : RuntimeExecutionManager) (key : RelationKey) :
    RuntimeExecutionManager × List ExecutionEvent :=
  match m.relations.get? key with
  | none => (m, [])
  | some relation =>
    ({ m with toRelationLedger := m.recordRelation key relation }, m.relationEvents key relation)

def refreshKeys (m : RuntimeExecutionManager) :
    List RelationKey → RuntimeExecutionManager × List ExecutionEvent
  | [] => (m, [])
  | key :: keys =>
    let first := m.refreshRelation key
    let rest := refreshKeys first.1 keys
    (rest.1, first.2 ++ rest.2)

def relationKeysAt (m : RuntimeExecutionManager) (slot : ExecutionSlot) : List RelationKey :=
  (m.relations.entries.filter fun (_, relation) =>
    relation.sourceKey == slot || relation.targetKey == slot).map (·.1)

def refreshRelationsForSlot (m : RuntimeExecutionManager) (slot : ExecutionSlot) :
    RuntimeExecutionManager × List ExecutionEvent :=
  m.refreshKeys (m.relationKeysAt slot)

/-- No event is emitted. -/
def refreshAllRelationsAfterRestore (m : RuntimeExecutionManager) : RuntimeExecutionManager :=
  (m.refreshKeys m.relations.keys).1

end RuntimeExecutionManager

/-! ### Operations -/

def resolveRelation (groupId : ExecutionGroupId) (missionId : MissionId)
    (taskModes : OrdMap TaskId ExecutionCouplingMode) (specification : ExecutionRelationSpec) :
    RuntimeExecutionRelation where
  groupId
  relationId := specification.relationId
  sourceTaskRef := ⟨missionId, specification.source.taskId⟩
  sourceRoleId := specification.source.roleId
  targetTaskRef := ⟨missionId, specification.target.taskId⟩
  targetRoleId := specification.target.roleId
  kind := specification.kind
  relationType := specification.relationType
  couplingMode := (taskModes.get? specification.target.taskId).getD .independent

/-- One specification of `register_relations_with_modes`. -/
def registerRelation : RuntimeOp (List ExecutionEvent) := do
  let m ← get
  match m.relations.get? relation.key with
  | some existing =>
    let id := relation.relationId
    let group := relation.groupId
    check (refuse (existing != relation)
      (.executionConflict s!"relation {id} in Group {group}"))
    return []
  | none =>
    let relations := m.relations.insert relation.key relation
    let states := m.relationStates.insert relation.key .dormant
    set { m with relations := relations, relationStates := states }
    return [.relationRegistered relation]

/-- The loop of `register_relations_with_modes`; what came before a conflict stays. -/
def registerAll : List RuntimeExecutionRelation → RuntimeOp (List ExecutionEvent)
  | [] => return []
  | relation :: relations => do
    let first ← registerRelation relation
    let rest ← registerAll relations
    return first ++ rest

/-- `register_relations_with_modes`; `register_relations` passes no modes. -/
def registerRelationsWithModes (groupId : ExecutionGroupId) (missionId : MissionId)
    (specifications : List ExecutionRelationSpec)
    (taskModes : OrdMap TaskId ExecutionCouplingMode) : RuntimeOp (List ExecutionEvent) :=
  registerAll (specifications.map (resolveRelation groupId missionId taskModes))

def acknowledgeRelationReconciliation (groupId : ExecutionGroupId)
    (relationId : ExecutionRelationId) : RuntimeOp Unit := do
  let m ← get
  let key : RelationKey := toLex (groupId, relationId)
  let relation ← check (okOr (m.relations.get? key) (.reconciliationRequired
    s!"unknown execution relation {relationId} in Group {groupId}"))
  check (refuse (m.deriveRelationState relation != .satisfied) (.reconciliationRequired
    s!"execution relation {relationId} is not satisfied"))
  let fences := m.relationFences.erase key
  set { m with relationFences := fences }

/-- What `observe_shared_spatial_evidence` checks; `true` when the evidence is new. -/
def validateSpatialEvidence (m : RuntimeExecutionManager) (evidence : SharedSpatialEvidence) :
    Except ExecutionRuntimeError Bool := do
  refuse (m.activeExecutions.get? evidence.slot != some evidence.executionId)
    (.reconciliationRequired
      "localization evidence does not belong to the current execution attempt")
  refuse (m.executionNodes.get? evidence.executionId != some evidence.nodeId)
    (.nodeOwnership "localization evidence node differs from execution owner")
  match m.spatialEvidence.get? evidence.slot with
  | none => return true
  | some current => do
    refuse (decide (evidence.receivedAt < current.receivedAt)) (.reconciliationRequired
      "older localization evidence cannot replace current evidence")
    if evidence.receivedAt = current.receivedAt then
      refuse (current != evidence) (.executionConflict evidence.executionId)
      return false
    else return true

def observeSharedSpatialEvidence (evidence : SharedSpatialEvidence) :
    RuntimeOp (List ExecutionEvent) := do
  let m ← get
  let isNew ← check (validateSpatialEvidence m evidence)
  if isNew then
    let spatial := m.spatialEvidence.insert evidence.slot evidence
    let refreshed := ({ m with spatialEvidence := spatial }).refreshRelationsForSlot evidence.slot
    set refreshed.1
    return refreshed.2
  else return []

end RoboGuide.Runtime
