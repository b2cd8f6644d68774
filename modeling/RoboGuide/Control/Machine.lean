import RoboGuide.Control.Configuration
import RoboGuide.Control.Revision
import RoboGuide.Lib.Transition

/-!
# `RoboGuide.Control.Machine`: Control as a state machine

A `Call` is an operation on the Groups of Missions and on what they are placed by, in the form
that reads the node State where there is one. Not calls, and in no run of this machine, are the
operations that work outside of a Group or without node State: `commit`, `commit_with_state`
(its failures are in `Proofs.FailedCommit`), `commit_for_group`, `bind_task_execution`,
`bind_task_execution_with_requirement` and `rebind_role`; nor is
`register_mission_binding_semantics` on its own, which `create_mission_group` runs.

A caller cannot build a proposal, a committed plan, a takeover authorization or a recovery proposal: Control hands
them out and takes them back. `World` keeps the ones handed out so far, and a call is
possible only with those (`Call.Possible`). Nothing else restricts a caller, and nothing is
assumed about the evidence a call brings.
-/

namespace RoboGuide.Control

open Domain Lib

/-- The kernel and the values it has handed out. -/
structure World where
  kernel : Kernel
  proposals : List AssignmentProposal
  plans : List CommittedPlan
  authorizations : List ActorTakeoverAuthorization
  candidateSets : List RecoveryCandidateSet
  recoveryProposals : List RecoveryAssignmentProposal

def World.control (w : World) : ControlPlane := w.kernel.control

inductive Call where
  | registerMissionTenant (mission : MissionId) (tenant : String)
  | installPhysicalEntityRegistry (snapshot : PhysicalEntityRegistrySnapshot)
  | acceptResourceTopologyRegistry (registry : ResourceTopologyRegistry) (expected : Nat)
  | acceptResourceQuotaRegistry (registry : ResourceQuotaRegistry) (expected : Nat)
  | setActorNodeConstraint (mission : MissionId) (actor : ActorId) (node : NodeId)
  | setActorCandidateRestriction (mission : MissionId) (actor : ActorId)
      (restriction : ActorCandidateRestriction)
  | createMissionGroup (id : ExecutionGroupId) (plan : MissionPlan)
  | supersedeMissionGroup (source target : ExecutionGroupId) (sourcePlan targetPlan : MissionPlan)
  | readyTaskExecution (id : ExecutionGroupId) (task : TaskRef)
  | reserveScheduledTask (e : Evidence) (candidates : CandidateSet) (group : ExecutionGroupId)
      (d : TaskSchedulingDecision)
  | preemptFutureTask (task : TaskRef) (expectedVersion : Nat) (now : TimestampMs)
  | consumeScheduledTask (task : TaskRef)
  | invalidateScheduledTask (task : TaskRef) (reason : String)
  | cancelScheduledMission (mission : MissionId)
  | propose (e : Evidence) (requirement : TaskRequirement) (candidates : CandidateSet)
      (assignments : List RoleAssignment)
  | commitForGroupWithState (e : Evidence) (group : ExecutionGroupId) (p : AssignmentProposal)
  | bindTaskExecutionWithState (e : Evidence) (group : ExecutionGroupId) (plan : CommittedPlan)
  | activateTaskExecution (id : ExecutionGroupId) (task : TaskRef) (now : TimestampMs)
  | recordTaskExecutionCompleted (id : ExecutionGroupId) (task : TaskRef)
  | satisfyTaskExecution (id : ExecutionGroupId) (task : TaskRef) (basis : TaskSatisfactionBasis)
  | failTaskExecution (id : ExecutionGroupId) (task : TaskRef)
  | rejectTaskSatisfaction (id : ExecutionGroupId) (task : TaskRef)
      (basis : TaskSatisfactionBasis)
  | releaseTaskBindings (id : ExecutionGroupId) (task : TaskRef) (resources : List ResourceId)
  | releaseContextBindings (id : ExecutionGroupId) (context : CoordinationContextId)
  | releaseRoleBinding (id : ExecutionGroupId) (role : RoleId)
  | releaseTaskRoleBinding (id : ExecutionGroupId) (task : TaskRef) (role : RoleId)
  | beginRoleRecovery (need : RoleRecoveryNeed)
  | beginExecutionRecovery (need : RoleRecoveryNeed)
  | authorizeActorTakeover (need : RoleRecoveryNeed) (requirement : TaskRequirement)
      (previous replacement : PhysicalEntityId) (evidenceDigest : String)
  | matchRecoveryCandidates (e : Evidence) (need : RoleRecoveryNeed)
      (requirement : TaskRequirement) (operation : Option OperationRef)
      (stoppedOwnerAllowed : Bool) (takeover : Option ActorTakeoverAuthorization)
  | proposeRoleRecovery (e : Evidence) (candidates : RecoveryCandidateSet)
      (requirement : TaskRequirement) (selected : NodeId) (resources : List ResourceId)
  | commitRoleRecovery (e : Evidence) (requirement : TaskRequirement)
      (p : RecoveryAssignmentProposal)
  | abortRoleRecoveryCommitment (r : CommittedRecoveryAssignment)
  | rebindRoleWithState (e : Evidence) (r : CommittedRecoveryAssignment)
  | activateGroup (id : ExecutionGroupId)
  | blockGroup (id : ExecutionGroupId) (reason : String)
  | failGroup (id : ExecutionGroupId) (reason : String)
  | completeGroup (id : ExecutionGroupId)
  | releaseGroup (id : ExecutionGroupId)

/-- The values a call passes in were handed out before. -/
def Call.Possible (w : World) : Call → Prop
  | .commitForGroupWithState _ _ p => p ∈ w.proposals
  | .bindTaskExecutionWithState _ _ plan => plan ∈ w.plans
  | .matchRecoveryCandidates _ _ _ _ _ takeover => ∀ a ∈ takeover, a ∈ w.authorizations
  | .proposeRoleRecovery _ candidates _ _ _ => candidates ∈ w.candidateSets
  | .commitRoleRecovery _ _ p => p ∈ w.recoveryProposals
  | _ => True

/-- An operation of the kernel, run in a world. -/
def inWorld {α : Type} (x : ControlM α) : EStateM ControlError World α := fun w =>
  match x w.kernel with
  | .ok a k => .ok a { w with kernel := k }
  | .error e k => .error e { w with kernel := k }

def Call.run : Call → EStateM ControlError World Unit
  | .registerMissionTenant mission tenant =>
    inWorld (Control.registerMissionTenant mission tenant)
  | .installPhysicalEntityRegistry snapshot =>
    inWorld (Control.installPhysicalEntityRegistry snapshot)
  | .acceptResourceTopologyRegistry registry expected =>
    inWorld (Control.acceptResourceTopologyRegistry registry expected)
  | .acceptResourceQuotaRegistry registry expected =>
    inWorld (Control.acceptResourceQuotaRegistry registry expected)
  | .setActorNodeConstraint mission actor node =>
    inWorld (Control.setActorNodeConstraint mission actor node)
  | .setActorCandidateRestriction mission actor restriction =>
    inWorld (Control.setActorCandidateRestriction mission actor restriction)
  | .createMissionGroup id plan => inWorld (Control.createMissionGroup id plan)
  | .supersedeMissionGroup source target sourcePlan targetPlan => do
    let _ ← inWorld (Control.supersedeMissionGroup source target sourcePlan targetPlan)
  | .readyTaskExecution id task => inWorld (Control.readyTaskExecution id task)
  | .reserveScheduledTask e candidates group d =>
    inWorld (Control.reserveScheduledTask e candidates group d)
  | .preemptFutureTask task expectedVersion now => do
    let _ ← inWorld (Control.preemptFutureTask task expectedVersion now)
  | .consumeScheduledTask task => inWorld (modifyControl (·.consumeScheduledTask task))
  | .invalidateScheduledTask task reason =>
    inWorld (modifyControl (·.invalidateScheduledTask task reason))
  | .cancelScheduledMission mission =>
    inWorld (modifyControl (·.cancelScheduledMission mission))
  | .propose e requirement candidates assignments => do
    let p ← inWorld (Control.propose e requirement candidates assignments)
    modify fun w => { w with proposals := p :: w.proposals }
  | .commitForGroupWithState e group p => do
    let plan ← inWorld (Control.commitForGroupWithState e group p)
    modify fun w => { w with plans := plan :: w.plans }
  | .bindTaskExecutionWithState e group plan =>
    inWorld (Control.bindTaskExecutionWithState e group plan)
  | .activateTaskExecution id task now => inWorld (Control.activateTaskExecution id task now)
  | .recordTaskExecutionCompleted id task =>
    inWorld (Control.recordTaskExecutionCompleted id task)
  | .satisfyTaskExecution id task basis => inWorld (Control.satisfyTaskExecution id task basis)
  | .failTaskExecution id task => inWorld (Control.failTaskExecution id task)
  | .rejectTaskSatisfaction id task basis =>
    inWorld (Control.rejectTaskSatisfaction id task basis)
  | .releaseTaskBindings id task resources =>
    inWorld (Control.releaseTaskBindings id task resources)
  | .releaseContextBindings id context => do
    let _ ← inWorld (Control.releaseContextBindings id context)
  | .releaseRoleBinding id role => inWorld (Control.releaseRoleBinding id role)
  | .releaseTaskRoleBinding id task role => inWorld (Control.releaseTaskRoleBinding id task role)
  | .beginRoleRecovery need => inWorld (Control.beginRoleRecovery need)
  | .beginExecutionRecovery need => inWorld (Control.beginExecutionRecovery need)
  | .authorizeActorTakeover need requirement previous replacement evidenceDigest => do
    let w ← get
    let a ← Fallible.check
      (Control.authorizeActorTakeover w.control need requirement previous replacement
        evidenceDigest)
    modify fun w => { w with authorizations := a :: w.authorizations }
  | .matchRecoveryCandidates e need requirement operation stoppedOwnerAllowed takeover => do
    let set ← inWorld
      (Control.matchRecoveryCandidates e need requirement operation stoppedOwnerAllowed takeover)
    modify fun w => { w with candidateSets := set :: w.candidateSets }
  | .proposeRoleRecovery e candidates requirement selected resources => do
    let p ← inWorld (Control.proposeRoleRecovery e candidates requirement selected resources)
    modify fun w => { w with recoveryProposals := p :: w.recoveryProposals }
  | .commitRoleRecovery e requirement p => do
    let _ ← inWorld (Control.commitRoleRecovery e requirement p)
  | .abortRoleRecoveryCommitment r => inWorld (Control.abortRoleRecoveryCommitment r)
  | .rebindRoleWithState e r => inWorld (Control.rebindRoleWithState e r)
  | .activateGroup id => inWorld (Control.activateGroup id)
  | .blockGroup id reason => inWorld (Control.blockGroup id reason)
  | .failGroup id reason => inWorld (Control.failGroup id reason)
  | .completeGroup id => inWorld (Control.completeGroup id)
  | .releaseGroup id => inWorld (Control.releaseGroup id)

def World.step (w : World) (call : Call) : World := Fallible.state (call.run w)

/-- A call returns `Ok`. -/
def Call.Succeeds (w : World) (call : Call) : Prop := ∃ w', call.run w = .ok () w'

/-- A plane that owns nothing and runs nothing; its configuration is arbitrary. -/
structure ControlPlane.Idle (c : ControlPlane) : Prop where
  groups : c.groups = ∅
  reservations : c.reservations = ∅
  allocations : c.capacityLedger.allocations = ∅
  claims : c.quotaLedger.claims = ∅
  unaccounted : c.quotaUnaccountedResources = ∅
  scheduledTasks : c.scheduledTasks = ∅
  actorBindings : c.actorBindings = ∅
  actorNodeConstraints : c.actorNodeConstraints = ∅
  actorCandidateRestrictions : c.actorCandidateRestrictions = ∅
  bindingSemantics : c.missionBindingSemantics = ∅
  commitments : c.pendingRecoveryCommitments = ∅

structure World.Idle (w : World) : Prop where
  control : w.control.Idle
  proposals : w.proposals = []
  plans : w.plans = []
  authorizations : w.authorizations = []
  candidateSets : w.candidateSets = []
  recoveryProposals : w.recoveryProposals = []

/-- A run: possible calls that meet `condition` where they are made. -/
abbrev World.Run (condition : World → Call → Prop) : World → World → Prop :=
  Reaches World.step fun w call => call.Possible w ∧ condition w call

/-! ### Concrete runs -/

instance (w : World) (call : Call) : Decidable (call.Possible w) := by
  unfold Call.Possible
  split <;> infer_instance

/-- A call returns `Ok`, computed. -/
def Call.succeeds (w : World) (call : Call) : Bool :=
  match call.run w with
  | .ok _ _ => true
  | .error _ _ => false

lemma Call.succeeds_iff {w : World} {call : Call} : call.succeeds w = true ↔ call.Succeeds w := by
  unfold Call.succeeds Call.Succeeds
  cases call.run w <;> simp

def World.start (tenants : List (MissionId × String)) : World where
  kernel := ⟨{ ControlPlane.new with missionTenants := OrdMap.ofList tenants }, []⟩
  proposals := []
  plans := []
  authorizations := []
  candidateSets := []
  recoveryProposals := []

lemma World.start_idle (tenants : List (MissionId × String)) : (World.start tenants).Idle :=
  ⟨⟨rfl, rfl, rfl, rfl, rfl, rfl, rfl, rfl, rfl, rfl, rfl⟩, rfl, rfl, rfl, rfl, rfl⟩

end RoboGuide.Control
