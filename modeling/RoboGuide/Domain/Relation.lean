import RoboGuide.Domain.Plan
import RoboGuide.Lib.Fallible

/-!
# `RoboGuide.Domain.Relation`: execution relations and coordination declarations

`core/domain/src/execution_relation.rs` and the coordination half of
`core/domain/src/context.rs`: what the runtime reads of a Mission's Contexts. A relation
specification and a Context declaration carry the success of their constructor as a field,
so that one the source refuses cannot be built.
-/

namespace RoboGuide.Domain

open Lib Fallible

/-! ### Coordination mechanisms -/

inductive CoordinationMechanism where
  | taskHandoff | groupSharedState | sharedSpatialReference | relationEvidence
  | directPeerChannel
deriving DecidableEq, Repr

def ExecutionCouplingMode.requires :
    ExecutionCouplingMode → CoordinationMechanism → Bool
  | .independent, _ => false
  | .sequentialHandoff, mechanism => mechanism == .taskHandoff
  | .concurrentCooperation, mechanism =>
    mechanism == .groupSharedState || mechanism == .relationEvidence
  | .tightlyCoupledCooperation, mechanism =>
    mechanism == .groupSharedState || mechanism == .relationEvidence ||
      mechanism == .directPeerChannel

/-- The name `{mode:?}` prints. -/
def ExecutionCouplingMode.debugName : ExecutionCouplingMode → String
  | .independent => "Independent"
  | .sequentialHandoff => "SequentialHandoff"
  | .concurrentCooperation => "ConcurrentCooperation"
  | .tightlyCoupledCooperation => "TightlyCoupledCooperation"

structure MapRevisionSelector where
  mapId : String
  revisionId : String
deriving DecidableEq

structure SharedSpatialReference where
  selector : MapRevisionSelector
  frameId : String
deriving DecidableEq

def SharedSpatialReference.validate (r : SharedSpatialReference) : Except String Unit :=
  refuse (isBlank r.frameId) "shared spatial frame id must not be blank"

inductive GroupViewField where
  | pose | velocity | execution
deriving DecidableEq, Repr

structure GroupViewBinding where
  contextRoleId : ContextRoleId
  field : GroupViewField
  stateExportId : Option String
  payloadSchema : Option String
deriving DecidableEq

/-- Spatial fields name an export, execution fields do not. -/
def GroupViewBinding.validate (b : GroupViewBinding) : Except String Unit :=
  match b.field with
  | .pose | .velocity =>
    refuse (b.stateExportId.all isBlank || b.payloadSchema.all isBlank)
      "spatial Group view fields require a State export and payload schema"
  | .execution =>
    refuse (b.stateExportId.isSome || b.payloadSchema.isSome)
      "Execution Group view fields are Runtime-backed and cannot select State exports"

structure GroupSharedViewSpec where
  spatialReference : Option SharedSpatialReference
  bindings : List GroupViewBinding
  includeFreshness : Bool
deriving DecidableEq

def GroupSharedViewSpec.validate (v : GroupSharedViewSpec) : Except String Unit := do
  refuse v.bindings.isEmpty "Group shared view requires at least one binding"
  v.bindings.forM GroupViewBinding.validate
  match v.spatialReference with
  | some reference => reference.validate
  | none => pure ()
  refuse (!decide v.bindings.Nodup) "Group shared view contains duplicate bindings"

/-- Transport-neutral profile of a direct channel between local systems. -/
structure PeerChannelSpec where
  profileId : String
  messageSchema : String
deriving DecidableEq

/-! ### Execution relations -/

structure PlannedExecutionRef where
  taskId : TaskId
  roleId : RoleId
deriving DecidableEq

inductive RelationStateRequirement where
  | available | unavailable
deriving DecidableEq, Repr

inductive ExecutionRelationType where
  | requiresActive
  | groupMemberState (stateKey : String)
  | sharedSpatialReference (reference : SharedSpatialReference)
  | relativePose (frameId : String)
  | relativeDistance (frameId : String)
  | stateRequirement (stateKey : String) (requirement : RelationStateRequirement)
  | freshnessRequirement (stateKey : String) (policyId : String)
deriving DecidableEq

inductive ExecutionRelationKind where
  | requiresActive | groupMemberState | sharedSpatialReference | relativePose
  | relativeDistance | stateRequirement | freshnessRequirement
deriving DecidableEq, Repr

def ExecutionRelationType.kind : ExecutionRelationType → ExecutionRelationKind
  | .requiresActive => .requiresActive
  | .groupMemberState _ => .groupMemberState
  | .sharedSpatialReference _ => .sharedSpatialReference
  | .relativePose _ => .relativePose
  | .relativeDistance _ => .relativeDistance
  | .stateRequirement _ _ => .stateRequirement
  | .freshnessRequirement _ _ => .freshnessRequirement

def validateTypedRelation (relationType : ExecutionRelationType)
    (relationId : ExecutionRelationId) : Except String Unit :=
  let nonblank (value field : String) : Except String Unit :=
    refuse (isBlank value) s!"execution relation {relationId} has blank {field}"
  match relationType with
  | .requiresActive => .ok ()
  | .groupMemberState stateKey | .stateRequirement stateKey _
  | .freshnessRequirement stateKey _ => nonblank stateKey "state_key"
  | .sharedSpatialReference reference => nonblank reference.frameId "frame_id"
  | .relativePose frameId | .relativeDistance frameId => nonblank frameId "frame_id"

/-- The checks of `ExecutionRelationSpec::new_typed`. -/
def newTypedRelation (relationId : ExecutionRelationId) (source target : PlannedExecutionRef)
    (relationType : ExecutionRelationType) : Except String Unit := do
  refuse (source == target) s!"execution relation {relationId} references itself"
  validateTypedRelation relationType relationId

structure ExecutionRelationSpec where
  relationId : ExecutionRelationId
  source : PlannedExecutionRef
  target : PlannedExecutionRef
  relationType : ExecutionRelationType
  /-- Both constructors run these checks; `kind` is always the type's. -/
  accepted : newTypedRelation relationId source target relationType = .ok ()
deriving DecidableEq

def ExecutionRelationSpec.kind (r : ExecutionRelationSpec) : ExecutionRelationKind :=
  r.relationType.kind

inductive ExecutionRelationState where
  | dormant | pending | satisfied | violated | unknown
deriving DecidableEq, Repr

def ExecutionRelationState.requiresReconciliation : ExecutionRelationState → Bool
  | .violated | .unknown => true
  | .dormant | .pending | .satisfied => false

/-! ### Context declarations -/

structure CoordinationDeclaration where
  context : CoordinationContext
  relations : List ExecutionRelationSpec
  sharedView : Option GroupSharedViewSpec
  peerChannel : Option PeerChannelSpec
deriving DecidableEq

namespace CoordinationDeclaration

def validateMechanismsFor (d : CoordinationDeclaration) (mode : ExecutionCouplingMode) :
    Except String Unit := do
  let id := d.context.contextId
  let name := mode.debugName
  refuse (mode.requires .groupSharedState && d.sharedView.isNone)
    s!"context {id} mode {name} requires a Group shared view"
  refuse (mode.requires .relationEvidence && d.relations.isEmpty)
    s!"context {id} mode {name} requires at least one execution relation"
  refuse (mode.requires .directPeerChannel && d.peerChannel.isNone)
    s!"context {id} mode {name} requires a direct peer channel declaration"
  refuse (mode.requires .directPeerChannel && decide (d.context.roles.length < 2))
    s!"context {id} direct peer channel requires at least two ContextRoles"

def validateSharedView (d : CoordinationDeclaration) : Except String Unit :=
  match d.sharedView with
  | some view => do
    view.validate
    view.bindings.forM fun binding =>
      let id := d.context.contextId
      let role := binding.contextRoleId
      refuse (d.context.role role).isNone
        s!"context {id} shared view references unknown ContextRole {role}"
  | none => .ok ()

def validatePeerChannel (d : CoordinationDeclaration) : Except String Unit :=
  match d.peerChannel with
  | some channel =>
    let id := d.context.contextId
    refuse (isBlank channel.profileId || isBlank channel.messageSchema)
      s!"context {id} peer channel contains a blank identity"
  | none => .ok ()

/-- The checks of `CoordinationContext::new_with_coordination`. -/
def newWithCoordination (d : CoordinationDeclaration) : Except String Unit := do
  let id := d.context.contextId
  refuse (!decide (d.context.roles.map (·.contextRoleId)).Nodup)
    s!"context {id} has duplicate context roles"
  refuse (!decide (d.relations.map (·.relationId)).Nodup)
    s!"context {id} has duplicate execution relations"
  d.validateSharedView
  d.validatePeerChannel
  d.validateMechanismsFor d.context.couplingMode

lemma newWithCoordination_ok {d : CoordinationDeclaration} (h : d.newWithCoordination = .ok ()) :
    (d.context.roles.map (·.contextRoleId)).Nodup ∧
      (∀ view, d.sharedView = some view → view.validate = .ok ()) ∧
      ∀ channel, d.peerChannel = some channel →
        isBlank channel.profileId = false ∧ isBlank channel.messageSchema = false := by
  simp only [newWithCoordination, bind_eq_ok, refuse_eq_ok] at h
  obtain ⟨_, hroles, _, _, _, hview, _, hchannel, _⟩ := h
  refine ⟨by simpa using hroles, ?_, ?_⟩
  · intro view hv
    simp only [validateSharedView, hv, bind_eq_ok] at hview
    obtain ⟨_, hvalid, _⟩ := hview
    exact hvalid
  · intro channel hc
    simpa [validatePeerChannel, hc] using hchannel

end CoordinationDeclaration

end RoboGuide.Domain
