import RoboGuide.Control.Machine
import RoboGuide.Control.Effect

/-!
# `RoboGuide.Control.Step`: everything a call can do to the Control Plane

`Effect c call c'` lists the changes a call can leave, each with the checks that passed
before it, including the ones left behind by a call that fails half way. `Call.effect` says
that nothing else happens. Invariants are proved by cases on `Effect`, never by unfolding
an operation again.
-/

namespace RoboGuide.Control

open Domain Lib Fallible ControlPlane

variable {call : Call}

/-! ### The changes -/

/-- What `storeGroup` leaves of `g`: refreshed, or as it is if the generation is exhausted. -/
def Stored (g g' : ExecutionGroup) : Prop :=
  g.refreshMembership = .ok g' ∨ (∃ e, g.refreshMembership = .error e) ∧ g' = g

namespace ControlPlane

def withSemantics (c : ControlPlane) (plan : MissionPlan) : ControlPlane :=
  { c with missionBindingSemantics :=
      c.missionBindingSemantics.insert plan.missionId plan.bindingSemantics }

/-- The candidate of a revision before the old Group is released. -/
def revised (c : ControlPlane) (source target : ExecutionGroupId) (plan : MissionPlan)
    (first : PlannedTask) (completed : List TaskId) : ControlPlane :=
  let created := (c.withSemantics plan).setGroup target
    (carryCompleted completed (missionGroup target plan first))
  { created with groups := created.groups.modify source fun g =>
      { g with supersededBy := some target, lifecycle := .superseded } }

/-- `entry(actor).or_insert` for the Actors of a Task. -/
def withActors (c : ControlPlane) (mission : MissionId)
    (actors : List (ActorId × ActorBinding)) : ControlPlane :=
  actors.foldl (fun c a =>
    if c.actorBindings.contains (actorKey mission a.1) then c
    else { c with actorBindings := c.actorBindings.insert (actorKey mission a.1) a.2 }) c

def withCommitment (c : ControlPlane) (e : Evidence) (p : RecoveryAssignmentProposal) :
    ControlPlane :=
  let reserved := p.replacementResourceIds.foldl (reserveReplacement e p) c
  let key := recoveryKey p.groupId p.taskRef p.roleId
  { reserved with
    pendingRecoveryCommitments := reserved.pendingRecoveryCommitments.insert key p.committed }

def withoutCommitment (c : ControlPlane) (r : CommittedRecoveryAssignment) : ControlPlane :=
  let released := (c.releaseResources r.committedResourceIds).releaseCapacityTask r.groupId
    r.taskRef (some r.roleId)
  let key := recoveryKey r.groupId r.taskRef r.roleId
  { released with
    pendingRecoveryCommitments := released.pendingRecoveryCommitments.erase key }

end ControlPlane

def ExecutionGroup.withoutContext (g : ExecutionGroup) (context : CoordinationContextId) :
    ExecutionGroup :=
  { g with
    contextBindings := g.contextBindings.retain fun _ b => b.contextId != context
    taskExecutions := g.taskExecutions.mapValues fun _ =>
      withoutContextResources context (contextResources g context) }

def ExecutionGroup.withActive (g : ExecutionGroup) (task : TaskRef) (t : TaskExecution) :
    ExecutionGroup :=
  { g.setTask task (t.withLifecycle .active) with
    lifecycle := if g.lifecycle = .bound ∨ g.lifecycle = .adapted then .active else g.lifecycle }

def Call.taskMove : Call → Option (ExecutionGroupId × TaskRef ×
    (TaskExecutionLifecycle → Bool) × TaskExecutionLifecycle)
  | .readyTaskExecution id task => some (id, task, (· == .pending), .ready)
  | .recordTaskExecutionCompleted id task => some (id, task, (· == .active), .awaitingSatisfaction)
  | .satisfyTaskExecution id task _ => some (id, task, (· == .awaitingSatisfaction), .completed)
  | .failTaskExecution id task => some (id, task,
      (fun l => l == .active || l == .blocked || l == .awaitingSatisfaction), .failed)
  | .rejectTaskSatisfaction id task _ =>
    some (id, task, (· == .awaitingSatisfaction), .satisfactionRejected)
  | _ => none

def Call.groupMove : Call → Option (ExecutionGroupId × (GroupLifecycle → Bool) × GroupLifecycle)
  | .blockGroup id _ => some (id, GroupLifecycle.working, .blocked)
  | .failGroup id _ => some (id, (· == .blocked), .failed)
  | _ => none

/-- The changes a call can make. -/
inductive Effect : ControlPlane → Call → ControlPlane → Prop where
  | unchanged {c : ControlPlane} {call : Call} : Effect c call c
  | tenant {c : ControlPlane} {mission : MissionId} {tenant : String}
      (same : ∀ t, c.missionTenant mission = some t → t = tenant) :
      Effect c (.registerMissionTenant mission tenant)
        { c with missionTenants := c.missionTenants.insert mission tenant }
  | registry {c : ControlPlane} {snapshot : PhysicalEntityRegistrySnapshot}
      (valid : validateRegistryInstall c snapshot = .ok ()) :
      Effect c (.installPhysicalEntityRegistry snapshot) (c.withRegistry snapshot)
  | topology {c : ControlPlane} {registry : ResourceTopologyRegistry} {expected version : Nat}
      (valid : validateTopologyRegistry c registry expected = .ok version) :
      Effect c (.acceptResourceTopologyRegistry registry expected)
        (c.withTopology registry version)
  | limits {c : ControlPlane} {registry : ResourceQuotaRegistry} {expected : Nat}
      {limits : List QuotaLimit}
      (valid : validateQuotaRegistry c registry expected = .ok (some limits)) :
      Effect c (.acceptResourceQuotaRegistry registry expected)
        (c.withQuotaRegistry registry limits)
  | nodeConstraint {c : ControlPlane} {mission : MissionId} {actor : ActorId} {node : NodeId}
      (bound : ∀ b, c.actorBinding mission actor = some b → b.nodeId = node)
      (restricted : ∀ r, c.actorCandidateRestriction mission actor = some r →
        r.allowedNodes.contains node = true)
      (new : c.actorNodeConstraint mission actor = none) :
      Effect c (.setActorNodeConstraint mission actor node)
        { c with actorNodeConstraints :=
            c.actorNodeConstraints.insert (actorKey mission actor) node }
  | candidateRestriction {c : ControlPlane} {mission : MissionId} {actor : ActorId}
      {restriction : ActorCandidateRestriction}
      (bound : ∀ b, c.actorBinding mission actor = some b →
        restriction.allowedNodes.contains b.nodeId = true)
      (constrained : ∀ n, c.actorNodeConstraint mission actor = some n →
        restriction.allowedNodes.contains n = true)
      (new : c.actorCandidateRestriction mission actor = none) :
      Effect c (.setActorCandidateRestriction mission actor restriction)
        { c with actorCandidateRestrictions :=
            c.actorCandidateRestrictions.insert (actorKey mission actor) restriction }
  | groupCreated {c : ControlPlane} {id : ExecutionGroupId} {plan : MissionPlan}
      {first : PlannedTask} (new : c.group id = none)
      (semantics : ∀ s, c.missionBindingSemantics.get? plan.missionId = some s →
        s = plan.bindingSemantics)
      (head : plan.tasks.head? = some first) :
      Effect c (.createMissionGroup id plan)
        ((c.withSemantics plan).setGroup id (missionGroup id plan first))
  | groupSuperseded {c : ControlPlane} {source target : ExecutionGroupId}
      {sourcePlan targetPlan : MissionPlan} {completed : List TaskId} {first : PlannedTask}
      {g g' : ExecutionGroup} {resources : List ResourceId}
      (revision : validateRevision c source target sourcePlan targetPlan = .ok completed)
      (semantics : ∀ s, c.missionBindingSemantics.get? targetPlan.missionId = some s →
        s = targetPlan.bindingSemantics)
      (head : targetPlan.tasks.head? = some first)
      (release : validateGroupRelease (c.revised source target targetPlan first completed)
        source = .ok (g, resources))
      (stored : g.cleared.refreshMembership = .ok g') :
      Effect c (.supersedeMissionGroup source target sourcePlan targetPlan)
        (((c.revised source target targetPlan first completed).releaseGroupOwnership source
          resources).setGroup source g')
  | groupMoved {c : ControlPlane} {call : Call} {id : ExecutionGroupId}
      {allowed : GroupLifecycle → Bool} {next : GroupLifecycle} {g : ExecutionGroup}
      (move : call.groupMove = some (id, allowed, next)) (group : c.group id = some g)
      (guard : allowed g.lifecycle = true) :
      Effect c call (c.setGroup id { g with lifecycle := next })
  | groupActivated {c : ControlPlane} {id : ExecutionGroupId} {g : ExecutionGroup}
      (group : c.group id = some g) (guard : g.lifecycle = .bound ∨ g.lifecycle = .adapted) :
      Effect c (.activateGroup id) (c.setGroup id { g with lifecycle := .active })
  | groupCompleted {c : ControlPlane} {id : ExecutionGroupId} {g : ExecutionGroup}
      (group : c.group id = some g) (guard : g.lifecycle = .active ∨ g.lifecycle = .adapted)
      (bound : g.unboundRoles = ∅ ∧ g.taskUnboundRoles = ∅)
      (completed : ∀ t ∈ g.taskExecutions.values, t.lifecycle = .completed) :
      Effect c (.completeGroup id) (c.setGroup id { g with lifecycle := .completed })
  | taskMoved {c : ControlPlane} {call : Call} {id : ExecutionGroupId} {task : TaskRef}
      {allowed : TaskExecutionLifecycle → Bool} {next : TaskExecutionLifecycle}
      {g : ExecutionGroup} {t : TaskExecution}
      (move : call.taskMove = some (id, task, allowed, next)) (group : c.group id = some g)
      (execution : g.taskExecution task = some t) (guard : allowed t.lifecycle = true) :
      Effect c call (c.setGroup id (g.setTask task (t.withLifecycle next)))
  | taskActivated {c : ControlPlane} {id : ExecutionGroupId} {task : TaskRef}
      {now : TimestampMs} {g : ExecutionGroup} {t : TaskExecution} {scheduled : Bool}
      (window : activationWindow c task now = .ok scheduled) (group : c.group id = some g)
      (execution : g.taskExecution task = some t)
      (assigned : exactlyAssigned t t.assignments = true) (ready : t.lifecycle = .ready) :
      Effect c (.activateTaskExecution id task now)
        (if scheduled then (c.setGroup id (g.withActive task t)).activateScheduledTask task
          else c.setGroup id (g.withActive task t))
  | reserved {c : ControlPlane} {e : Evidence} {candidates : CandidateSet}
      {group : ExecutionGroupId} {d : TaskSchedulingDecision} {next : Nat}
      (valid : validateReservation c e candidates group d = .ok next) :
      Effect c (.reserveScheduledTask e candidates group d)
        { c with
          scheduledTasks := c.scheduledTasks.insert d.taskRef
            { topologyRecoveryAssignments := ∅, groupId := group, decision := d,
              phase := .scheduled, reason := "" }
          calendarVersion := next }
  | preempted {c : ControlPlane} {task : TaskRef} {version : Nat} {now : TimestampMs}
      {r : ScheduledTaskReservation} {next : Nat}
      (valid : validatePreemption c task version now = .ok (r, next)) :
      Effect c (.preemptFutureTask task version now)
        { c with scheduledTasks := c.scheduledTasks.erase task, calendarVersion := next }
  | consumed {c : ControlPlane} {task : TaskRef} :
      Effect c (.consumeScheduledTask task) (c.consumeScheduledTask task)
  | invalidated {c : ControlPlane} {task : TaskRef} {reason : String} :
      Effect c (.invalidateScheduledTask task reason) (c.invalidateScheduledTask task reason)
  | missionCancelled {c : ControlPlane} {mission : MissionId} :
      Effect c (.cancelScheduledMission mission) (c.cancelScheduledMission mission)
  | committed {c charged : ControlPlane} {e : Evidence} {group : ExecutionGroupId}
      {p : AssignmentProposal} {capacity : Option (CapacityLedger × QuotaLedger)}
      {t : TaskExecution} (support : validateCommitSupport c e group p = .ok capacity)
      (valid : validateGroupCommit c e group p capacity = .ok t)
      (ledgers : commitLedgers c p capacity = .ok charged) :
      Effect c (.commitForGroupWithState e group p)
        (p.assignments.foldl (reserveAssignment e t p) charged)
  | bound {c : ControlPlane} {e : Evidence} {group : ExecutionGroupId} {plan : CommittedPlan}
      {g g' : ExecutionGroup} {t : TaskExecution} {actors : OrdMap ActorId ActorBinding}
      (evidence : validateBindEvidence c e group plan = .ok ())
      (valid : validateBind c e group plan = .ok (g, t, actors))
      (stored : (boundGroup g t plan).refreshMembership = .ok g') :
      Effect c (.bindTaskExecutionWithState e group plan)
        (((bindReservations group plan c).setGroup group g').withActors plan.taskRef.missionId
          actors.entries)
  | boundPartly {c : ControlPlane} {e : Evidence} {group : ExecutionGroupId}
      {plan : CommittedPlan} {g : ExecutionGroup} {t : TaskExecution}
      {actors : OrdMap ActorId ActorBinding} {error : ControlError}
      (evidence : validateBindEvidence c e group plan = .ok ())
      (valid : validateBind c e group plan = .ok (g, t, actors))
      (exhausted : (boundGroup g t plan).refreshMembership = .error error) :
      Effect c (.bindTaskExecutionWithState e group plan)
        ((bindReservations group plan c).setGroup group (boundGroup g t plan))
  | taskReleased {c : ControlPlane} {id : ExecutionGroupId} {task : TaskRef}
      {resources : List ResourceId} {g g' : ExecutionGroup} {t : TaskExecution}
      (valid : validateTaskRelease c id task resources = .ok (g, t))
      (stored : Stored (g.setTask task (t.withAssignments (scopedAssignments t .context))) g') :
      Effect c (.releaseTaskBindings id task resources)
        (((c.releaseResources (taskScopedResources t)).releaseCapacityTask id task none).setGroup
          id g')
  | contextReleased {c : ControlPlane} {id : ExecutionGroupId} {context : CoordinationContextId}
      {g g' : ExecutionGroup} (valid : validateContextRelease c id context = .ok g)
      (stored : Stored (g.withoutContext context) g') :
      Effect c (.releaseContextBindings id context)
        (((c.releaseResources (contextResources g context)).releaseCapacityContext id
          context).setGroup id g')
  | roleReleased {c : ControlPlane} {id : ExecutionGroupId} {role : RoleId}
      {g g' : ExecutionGroup} {a : RoleAssignment} (group : c.group id = some g)
      (blocked : g.lifecycle = .blocked)
      (found : g.assignments.find? (fun a => a.roleId == role) = some a)
      (owned : ∀ r ∈ a.resourceIds, validateRoleRelease c id g.taskRef role r = .ok ())
      (stored : Stored (g.withoutLegacyRole role a) g') :
      Effect c (.releaseRoleBinding id role) ((c.releaseResources a.resourceIds).setGroup id g')
  | taskRoleReleased {c : ControlPlane} {id : ExecutionGroupId} {task : TaskRef} {role : RoleId}
      {g g' : ExecutionGroup} {t : TaskExecution} {a : RoleAssignment}
      (group : c.group id = some g) (blocked : g.lifecycle = .blocked)
      (execution : g.taskExecution task = some t)
      (found : t.assignments.find? (fun a => a.roleId == role) = some a)
      (owned : ∀ r ∈ a.resourceIds, validateTaskRoleRelease c id task role r = .ok ())
      (stored : Stored (g.withoutTaskRole t task role a) g') :
      Effect c (.releaseTaskRoleBinding id task role)
        (((c.releaseResources a.resourceIds).releaseCapacityTask id task (some role)).setGroup id
          g')
  | taskRecoveryBegun {c c' : ControlPlane} {need : RoleRecoveryNeed} {g : ExecutionGroup}
      (valid : validateRoleRecoveryRelease c need = .ok ())
      (group : c.group need.groupId = some g)
      (task : (g.taskExecution need.taskRef).isSome = true)
      (release : Effect (c.setGroup need.groupId { g with lifecycle := .blocked })
        (.releaseTaskRoleBinding need.groupId need.taskRef need.roleId) c') :
      Effect c (.beginRoleRecovery need) c'
  | legacyRecoveryBegun {c c' : ControlPlane} {need : RoleRecoveryNeed} {g : ExecutionGroup}
      (valid : validateRoleRecoveryRelease c need = .ok ())
      (group : c.group need.groupId = some g)
      (task : g.taskExecution need.taskRef = none)
      (release : Effect (c.setGroup need.groupId { g with lifecycle := .blocked })
        (.releaseRoleBinding need.groupId need.roleId) c') :
      Effect c (.beginRoleRecovery need) c'
  | executionRecoveryBegun {c c' : ControlPlane} {need : RoleRecoveryNeed}
      (begun : Effect c (.beginRoleRecovery need) c') :
      Effect c (.beginExecutionRecovery need) c'
  | recoveryCommitted {c charged : ControlPlane} {e : Evidence} {requirement : TaskRequirement}
      {p : RecoveryAssignmentProposal} {role : RoleRequirement}
      (valid : validateRecoveryCommit c e requirement p = .ok role)
      (ledgers : recoveryLedgers c e requirement.taskRef.missionId role p = .ok charged) :
      Effect c (.commitRoleRecovery e requirement p) (charged.withCommitment e p)
  | recoveryAborted {c : ControlPlane} {r : CommittedRecoveryAssignment}
      (valid : validateAbort c r = .ok ()) :
      Effect c (.abortRoleRecoveryCommitment r) (c.withoutCommitment r)
  | rebound {c : ControlPlane} {e : Evidence} {r : CommittedRecoveryAssignment}
      {g g' : ExecutionGroup} {slot : UnboundRole}
      (evidence : validateRebindEvidence c e r = .ok ())
      (valid : validateRebind c e r = .ok (g, slot)) (stored : g.refreshMembership = .ok g') :
      Effect c (.rebindRoleWithState e r) ((c.setGroup r.groupId g').finishRebind r)
  | reboundPartly {c : ControlPlane} {e : Evidence} {r : CommittedRecoveryAssignment}
      {g : ExecutionGroup} {slot : UnboundRole} {error : ControlError}
      (evidence : validateRebindEvidence c e r = .ok ())
      (valid : validateRebind c e r = .ok (g, slot))
      (exhausted : g.refreshMembership = .error error) :
      Effect c (.rebindRoleWithState e r) (c.setGroup r.groupId g)
  | groupReleased {c : ControlPlane} {id : ExecutionGroupId} {g g' : ExecutionGroup}
      {resources : List ResourceId} (valid : validateGroupRelease c id = .ok (g, resources))
      (stored : Stored g.cleared g') :
      Effect c (.releaseGroup id) ((c.releaseGroupOwnership id resources).setGroup id g')

/-! ### Nothing else happens -/

/-- A statement that only appends events. -/
def Quiet {α : Type} (x : ControlM α) : Prop := Moves (fun k k' => k'.control = k.control) x

namespace Quiet

variable {α β : Type}

lemma emit (e : EventPayload) : Quiet (Control.emit e) := fun _ => rfl

lemma pure (a : α) : Quiet (Pure.pure a : ControlM α) := fun _ => rfl

lemma bind {x : ControlM α} {f : α → ControlM β} (hx : Quiet x) (hf : ∀ a, Quiet (f a)) :
    Quiet (x >>= f) :=
  Moves.bind (fun _ _ _ h h' => h'.trans h) hx hf

lemma forM (xs : List α) {f : α → ControlM Unit} (h : ∀ a, Quiet (f a)) : Quiet (xs.forM f) := by
  induction xs with
  | nil => exact Quiet.pure ()
  | cons a xs ih => exact (h a).bind fun _ => ih

lemma ite {p : Prop} [Decidable p] {x y : ControlM α} (hx : Quiet x) (hy : Quiet y) :
    Quiet (if p then x else y) := by
  split <;> assumption

end Quiet

lemma Effect.of_eq {c c₁ c₂ : ControlPlane} (h : Effect c call c₁)
    (heq : c₂ = c₁) : Effect c call c₂ := heq ▸ h

section

variable (k : Kernel)

/-- A Group is stored with its membership refreshed, or as it is when the generation is spent. -/
lemma Effect.stored {c₀ c : ControlPlane} {events : List EventPayload} {id : ExecutionGroupId}
    {g : ExecutionGroup} {α : Type} {x : ControlM α} (hx : Quiet x)
    (h : ∀ g', Stored g g' → Effect c₀ call (c.setGroup id g')) :
    Effect c₀ call (state ((storeGroup id g >>= fun _ => x) ⟨c, events⟩)).control := by
  rw [run_storeGroup_bind]
  cases hm : g.refreshMembership with
  | error e => exact h g (.inr ⟨⟨e, hm⟩, rfl⟩)
  | ok g' => exact (h g' (.inl hm)).of_eq (hx _)

lemma Effect.checked {k : Kernel} {α β : Type} {x : Except ControlError α}
    {f : α → ControlM β} (h : ∀ a, x = .ok a → Effect k.control call (state (f a k)).control) :
    Effect k.control call (state ((check x >>= f) k)).control :=
  state_check_bind (P := fun k' : Kernel => Effect k.control call k'.control) .unchanged h

lemma effect_moveGroup {id : ExecutionGroupId} {allowed : GroupLifecycle → Bool}
    {next : GroupLifecycle} (move : call.groupMove = some (id, allowed, next))
    (event : TaskRef → EventPayload) :
    Effect k.control call (state (moveGroup id allowed next event k)).control := by
  unfold moveGroup
  rw [run_get_bind]
  refine .checked fun g hg => .checked fun _ hb => ?_
  exact .groupMoved move (okOr_eq_ok.mp hg) (by simpa using hb)

lemma effect_moveTask {id : ExecutionGroupId} {task : TaskRef}
    {allowed : TaskExecutionLifecycle → Bool} {next : TaskExecutionLifecycle}
    (move : call.taskMove = some (id, task, allowed, next)) (message : String)
    (event : EventPayload) :
    Effect k.control call (state (moveTask id task allowed message next event k)).control := by
  unfold moveTask
  rw [run_get_bind]
  refine .checked fun g hg => .checked fun t ht => .checked fun _ hb => ?_
  exact .taskMoved move (okOr_eq_ok.mp hg) (okOr_eq_ok.mp ht) (by simpa using hb)

variable (id : ExecutionGroupId)

lemma effect_activateGroup :
    Effect k.control (.activateGroup id) (state (activateGroup id k)).control := by
  unfold activateGroup
  rw [run_get_bind]
  refine .checked fun g hg => .checked fun _ h => .checked fun _ _ => .checked fun _ _ => ?_
  refine Effect.groupActivated (okOr_eq_ok.mp hg) ?_
  exact or_iff_not_imp_left.mpr (by simpa using refuse_eq_ok.mp h)

lemma effect_completeGroup :
    Effect k.control (.completeGroup id) (state (completeGroup id k)).control := by
  unfold completeGroup
  rw [run_get_bind]
  refine .checked fun g hg => .checked fun _ h => .checked fun _ hu => ?_
  cases hfind : g.taskExecutions.values.find? fun t => t.lifecycle != .completed with
  | some => exact .unchanged
  | none =>
    refine Effect.groupCompleted (okOr_eq_ok.mp hg) ?_ ?_ ?_
    · exact or_iff_not_imp_left.mpr (by simpa using refuse_eq_ok.mp h)
    · simpa using refuse_eq_ok.mp hu
    · intro t ht
      simpa using List.find?_eq_none.mp hfind t ht

lemma effect_activateTaskExecution (task : TaskRef) (now : TimestampMs) :
    Effect k.control (.activateTaskExecution id task now)
      (state (activateTaskExecution id task now k)).control := by
  unfold activateTaskExecution
  rw [run_get_bind]
  refine .checked fun scheduled hw => .checked fun g hg => .checked fun t ht =>
    .checked fun _ ha => .checked fun _ hr => ?_
  have h := Effect.taskActivated hw (okOr_eq_ok.mp hg) (okOr_eq_ok.mp ht)
    (by simpa using ha) (by simpa using hr)
  cases scheduled <;> exact h

lemma effect_releaseTaskBindings (task : TaskRef) (resources : List ResourceId) :
    Effect k.control (.releaseTaskBindings id task resources)
      (state (releaseTaskBindings id task resources k)).control := by
  unfold releaseTaskBindings
  rw [run_get_bind]
  refine .checked fun gt hv => ?_
  simp only [run_modifyControl_bind]
  exact .stored (.emit _) fun g' hs => .taskReleased hv hs

lemma effect_releaseContextBindings (context : CoordinationContextId) :
    Effect k.control (.releaseContextBindings id context)
      (state (releaseContextBindings id context k)).control := by
  unfold releaseContextBindings
  rw [run_get_bind]
  refine .checked fun g hv => ?_
  simp only [run_modifyControl_bind]
  exact .stored ((Quiet.emit _).bind fun _ => .pure _) fun g' hs => .contextReleased hv hs

lemma effect_releaseRoleBinding (role : RoleId) : Effect k.control (.releaseRoleBinding id role)
      (state (releaseRoleBinding id role k)).control := by
  unfold releaseRoleBinding
  rw [run_get_bind]
  refine .checked fun g hg => .checked fun _ hb => .checked fun a hf => .checked fun _ ho => ?_
  simp only [run_modifyControl_bind]
  exact .stored (.emit _) fun g' hs => .roleReleased (okOr_eq_ok.mp hg) (by simpa using hb)
    (okOr_eq_ok.mp hf) (forM_eq_ok.mp ho) hs

lemma effect_releaseTaskRoleBinding (task : TaskRef) (role : RoleId) :
    Effect k.control (.releaseTaskRoleBinding id task role)
      (state (releaseTaskRoleBinding id task role k)).control := by
  unfold releaseTaskRoleBinding
  rw [run_get_bind]
  refine .checked fun g hg => .checked fun _ hb => .checked fun t ht => .checked fun a hf =>
    .checked fun _ ho => ?_
  simp only [run_modifyControl_bind]
  exact .stored (.emit _) fun g' hs => .taskRoleReleased (okOr_eq_ok.mp hg) (by simpa using hb)
    (okOr_eq_ok.mp ht) (okOr_eq_ok.mp hf) (forM_eq_ok.mp ho) hs

lemma effect_releaseGroup :
    Effect k.control (.releaseGroup id) (state (releaseGroup id k)).control := by
  unfold releaseGroup
  rw [run_get_bind]
  refine .checked fun gr hv => ?_
  simp only [run_modifyControl_bind]
  exact .stored (.emit _) fun g' hs => .groupReleased hv hs

lemma releaseGroup_eq_ok {k k' : Kernel} {id : ExecutionGroupId} {u : Unit}
    (h : releaseGroup id k = .ok u k') :
    ∃ g resources g', validateGroupRelease k.control id = .ok (g, resources) ∧
      g.cleared.refreshMembership = .ok g' ∧
      k'.control = (k.control.releaseGroupOwnership id resources).setGroup id g' := by
  unfold releaseGroup at h
  simp only [run_get_bind, run_check_bind] at h
  split at h
  · next gr hv =>
    simp only [run_modifyControl_bind, run_storeGroup_bind] at h
    split at h
    · next g' hm =>
      cases h
      exact ⟨gr.1, gr.2, g', hv, hm, rfl⟩
    · cases h
  · cases h

lemma effect_beginRoleRecovery (need : RoleRecoveryNeed) :
    Effect k.control (.beginRoleRecovery need) (state (beginRoleRecovery need k)).control := by
  unfold beginRoleRecovery
  rw [run_get_bind]
  refine .checked fun _ hv => .checked fun taskScoped hn => ?_
  simp only [recoveryStillNeeded, bind_eq_ok, refuse_eq_ok, pure_eq_ok] at hn
  obtain ⟨g, hg, -, hw, -, -, hscoped⟩ := hn
  have hgroup := okOr_eq_ok.mp hg
  rw [run_bind, blockGroup, run_moveGroup hgroup (by simpa using hw)]
  dsimp only
  generalize hk : (⟨_, _⟩ : Kernel) = blocked
  have hc : blocked.control = k.control.setGroup need.groupId { g with lifecycle := .blocked } :=
    hk ▸ rfl
  subst hscoped
  split
  · next h =>
    have heffect := effect_releaseTaskRoleBinding blocked need.groupId need.taskRef need.roleId
    exact .taskRecoveryBegun hv hgroup h (hc ▸ heffect)
  · next h =>
    have heffect := effect_releaseRoleBinding blocked need.groupId need.roleId
    exact .legacyRecoveryBegun hv hgroup (by simpa using h) (hc ▸ heffect)

lemma effect_setActorNodeConstraint (mission : MissionId) (actor : ActorId) (node : NodeId) :
    Effect k.control (.setActorNodeConstraint mission actor node)
      (state (setActorNodeConstraint mission actor node k)).control := by
  unfold setActorNodeConstraint
  rw [run_get_bind]
  refine .checked fun _ hbound => .checked fun _ hrestricted => ?_
  cases hc : k.control.actorNodeConstraint mission actor with
  | some =>
    simp only [run_check]
    split <;> exact .unchanged
  | none =>
    refine .nodeConstraint (fun b hb => ?_) (fun r hr => ?_) hc
    · simpa [hb] using refuse_eq_ok.mp hbound
    · simpa [hr] using refuse_eq_ok.mp hrestricted

lemma effect_setActorCandidateRestriction (mission : MissionId) (actor : ActorId)
    (restriction : ActorCandidateRestriction) :
    Effect k.control (.setActorCandidateRestriction mission actor restriction)
      (state (setActorCandidateRestriction mission actor restriction k)).control := by
  unfold setActorCandidateRestriction
  rw [run_get_bind]
  refine .checked fun _ _ => .checked fun _ h => ?_
  have hfree := Bool.or_eq_false_iff.mp (refuse_eq_ok.mp h)
  cases hc : k.control.actorCandidateRestriction mission actor with
  | some =>
    simp only [run_check]
    split <;> exact .unchanged
  | none =>
    refine .candidateRestriction (fun b hb => ?_) (fun n hn => ?_) hc
    · simpa [hb] using hfree.1
    · simpa [hn] using hfree.2

lemma effect_commitForGroupWithState (e : Evidence) (group : ExecutionGroupId)
    (p : AssignmentProposal) : Effect k.control (.commitForGroupWithState e group p)
      (state (commitForGroupWithState e group p k)).control := by
  unfold commitForGroupWithState
  simp only [run_get_bind, run_check_bind]
  cases hs : validateCommitSupport k.control e group p with
  | error => exact .unchanged
  | ok capacity =>
    -- the receipts event changes nothing that the second half of the call reads
    have hcommit : ∀ k' : Kernel, k'.control = k.control →
        Effect k.control (.commitForGroupWithState e group p)
          (state (commitForGroupValidated e group p capacity k')).control := by
      intro k' hk'
      unfold commitForGroupValidated
      simp only [run_get_bind, run_check_bind, hk']
      split
      · next hv =>
        split
        · next hl => exact .committed hs hv hl
        · exact Effect.unchanged.of_eq hk'
      · exact Effect.unchanged.of_eq hk'
    cases hr : e.hasReceipts p.taskRef with
    | true => simpa [hr] using hcommit ⟨k.control, k.events ++ [_]⟩ rfl
    | false => simpa [hr] using hcommit k rfl

lemma bindActors_control (mission : MissionId) (task : TaskRef) (group : ExecutionGroupId)
    (actors : OrdMap ActorId ActorBinding) : ∃ events, bindActors mission task group actors k =
      .ok () ⟨k.control.withActors mission actors.entries, events⟩ := by
  unfold bindActors withActors
  induction actors.entries generalizing k with
  | nil => exact ⟨k.events, rfl⟩
  | cons a rest ih =>
    obtain ⟨events, h⟩ := ih ⟨if k.control.actorBindings.contains (actorKey mission a.1) then
        k.control
      else { k.control with
        actorBindings := k.control.actorBindings.insert (actorKey mission a.1) a.2 },
      k.events ++ [.missionActorBound mission a.1 a.2.nodeId task group]⟩
    exact ⟨events, h⟩

lemma effect_bindTaskExecutionWithState (e : Evidence) (group : ExecutionGroupId)
    (plan : CommittedPlan) : Effect k.control (.bindTaskExecutionWithState e group plan)
      (state (bindTaskExecutionWithState e group plan k)).control := by
  unfold bindTaskExecutionWithState bindTaskExecutionValidated
  simp only [run_get_bind, run_check_bind]
  cases he : validateBindEvidence k.control e group plan with
  | error => exact .unchanged
  | ok =>
    simp only [bind_assoc, run_get_bind, run_check_bind]
    cases hv : validateBind k.control e group plan with
    | error => exact .unchanged
    | ok gta =>
      obtain ⟨g, t, actors⟩ := gta
      simp only [run_modifyControl_bind, run_storeGroup_bind]
      cases hm : (boundGroup g t plan).refreshMembership with
      | error => exact .boundPartly he hv hm
      | ok g' =>
        simp only [run_emit_bind]
        rw [run_bind]
        obtain ⟨events, ha⟩ := bindActors_control
          ⟨(bindReservations group plan k.control).setGroup group g',
            k.events ++ [.executionGroupBound group plan.taskRef]⟩
          plan.taskRef.missionId plan.taskRef group actors
        rw [ha]
        have hquiet : Quiet (plan.assignments.forM fun _ =>
            if e.hasReceipts plan.taskRef then emit (.statePolicyDecision plan.taskRef)
            else pure ()) :=
          Quiet.forM _ fun _ => Quiet.ite (Quiet.emit _) (Quiet.pure ())
        exact (Effect.bound he hv hm).of_eq (hquiet _)

lemma effect_rebindRoleWithState (e : Evidence) (r : CommittedRecoveryAssignment) :
    Effect k.control (.rebindRoleWithState e r) (state (rebindRoleWithState e r k)).control := by
  unfold rebindRoleWithState rebindRoleValidated
  simp only [run_get_bind, run_check_bind]
  cases he : validateRebindEvidence k.control e r with
  | error => exact .unchanged
  | ok =>
    simp only [bind_assoc, run_get_bind, run_check_bind]
    cases hv : validateRebind k.control e r with
    | error => exact .unchanged
    | ok gs =>
      obtain ⟨g, _⟩ := gs
      simp only [run_storeGroup_bind]
      cases hm : g.refreshMembership with
      | error => exact .reboundPartly he hv hm
      | ok =>
        have h := Effect.rebound he hv hm
        cases ht : r.actorTakeover <;> cases hr : e.hasReceipts r.taskRef <;>
          simpa [ht, hr] using h

lemma MissionPlan.tasks_head? (plan : MissionPlan) : ∃ first, plan.tasks.head? = some first := by
  have h := plan.valid
  cases ht : plan.tasks with
  | nil => simp [missionPlanValid, taskGraphValid, ht] at h
  | cons first => exact ⟨first, rfl⟩

lemma createMissionGroup_cases (plan : MissionPlan) :
    (∃ error, createMissionGroup id plan k = .error error k) ∨
    ∃ first events, k.control.group id = none ∧
      (∀ s, k.control.missionBindingSemantics.get? plan.missionId = some s →
        s = plan.bindingSemantics) ∧
      plan.tasks.head? = some first ∧
      createMissionGroup id plan k = .ok ()
        ⟨(k.control.withSemantics plan).setGroup id (missionGroup id plan first), events⟩ := by
  obtain ⟨first, hfirst⟩ := MissionPlan.tasks_head? plan
  have hevents : ∀ k' : Kernel, ∃ events,
      (((missionGroup id plan first).taskExecutions.values.forM fun t =>
        emit (.taskExecutionRegistered id t.taskRef t.contextId)) : ControlM Unit) k' =
          .ok () ⟨k'.control, events⟩ := by
    intro k'
    induction (missionGroup id plan first).taskExecutions.values generalizing k' with
    | nil => exact ⟨_, rfl⟩
    | cons t rest ih => exact ih ⟨k'.control, k'.events ++ [_]⟩
  unfold createMissionGroup registerBindingSemantics
  simp only [run_get_bind, run_check_bind]
  cases hc : k.control.groups.contains id with
  | true => exact .inl ⟨_, rfl⟩
  | false =>
    have hnew : k.control.group id = none := by simpa [OrdMap.contains, group] using hc
    simp only [refuse_false, bind_assoc, run_get_bind]
    cases hs : k.control.missionBindingSemantics.get? plan.missionId with
    | some existing =>
      simp only [run_check_bind]
      cases hb : (existing != plan.bindingSemantics) with
      | true => exact .inl ⟨_, rfl⟩
      | false =>
        obtain rfl : existing = plan.bindingSemantics := by simpa using hb
        refine .inr ?_
        obtain ⟨events, he⟩ := hevents
          ⟨k.control.setGroup id (missionGroup id plan first),
            k.events ++ [.executionGroupCreated id plan.missionId]⟩
        refine ⟨first, events, hnew, fun s h => (Option.some.inj h).symm, hfirst, ?_⟩
        simp only [hfirst, withSemantics, insert_eq_self hs]
        exact he
    | none =>
      refine .inr ?_
      obtain ⟨events, he⟩ := hevents
        ⟨(k.control.withSemantics plan).setGroup id (missionGroup id plan first),
          k.events ++ [.executionGroupCreated id plan.missionId]⟩
      refine ⟨first, events, hnew, fun s h => by simp at h, hfirst, ?_⟩
      simp only [hfirst]
      exact he

lemma supersedeMissionGroup_cases (source target : ExecutionGroupId)
    (sourcePlan targetPlan : MissionPlan) :
    (∃ e, supersedeMissionGroup source target sourcePlan targetPlan k = .error e k) ∨
      ∃ completed first g resources g' k',
        supersedeMissionGroup source target sourcePlan targetPlan k = .ok completed k' ∧
        validateRevision k.control source target sourcePlan targetPlan = .ok completed ∧
        (∀ s, k.control.missionBindingSemantics.get? targetPlan.missionId = some s →
          s = targetPlan.bindingSemantics) ∧
        targetPlan.tasks.head? = some first ∧
        validateGroupRelease (k.control.revised source target targetPlan first completed) source =
          .ok (g, resources) ∧
        g.cleared.refreshMembership = .ok g' ∧
        k'.control = ((k.control.revised source target targetPlan first
          completed).releaseGroupOwnership source resources).setGroup source g' := by
  unfold supersedeMissionGroup
  simp only [run_get_bind, run_check_bind]
  cases hv : validateRevision k.control source target sourcePlan targetPlan with
  | error e => exact .inl ⟨e, rfl⟩
  | ok completed =>
    cases hr : reviseCandidate source target targetPlan completed k with
    | error e => exact .inl ⟨e, by simp only [hr]; rfl⟩
    | ok u candidate =>
      refine .inr ?_
      have hr' := hr
      unfold reviseCandidate at hr
      rw [run_bind] at hr
      rcases createMissionGroup_cases k target targetPlan with
        ⟨e, h⟩ | ⟨first, events, hnew, hs, hfirst, h⟩
      · simp [h] at hr
      · simp only [h, modifyGroup, run_modifyControl_bind, run_get_bind, run_check_bind] at hr
        split at hr
        · obtain ⟨g, resources, g', hrelease, hm, hc⟩ := releaseGroup_eq_ok hr
          have hplane : (k.control.revised source target targetPlan first completed) =
              { (k.control.withSemantics targetPlan).setGroup target
                  (missionGroup target targetPlan first) with
                groups := ((((k.control.withSemantics targetPlan).setGroup target
                  (missionGroup target targetPlan first)).groups.modify target
                    (carryCompleted completed))).modify source fun g =>
                      { g with supersededBy := some target, lifecycle := .superseded } } := by
            simp [revised, setGroup, OrdMap.modify_insert_self]
          refine ⟨completed, first, g, resources, g', candidate, by simp [hr'], rfl, hs, hfirst,
            hplane ▸ hrelease, hm, ?_⟩
          rw [hc, hplane]
        · cases hr

lemma effect_supersedeMissionGroup (source target : ExecutionGroupId)
    (sourcePlan targetPlan : MissionPlan) :
    Effect k.control (.supersedeMissionGroup source target sourcePlan targetPlan)
      (state (supersedeMissionGroup source target sourcePlan targetPlan k)).control := by
  rcases supersedeMissionGroup_cases k source target sourcePlan targetPlan with
    ⟨e, h⟩ | ⟨completed, first, g, resources, g', k', h, hv, hs, hfirst, hrelease, hm, hc⟩
  · rw [h]
    exact .unchanged
  · rw [h]
    exact (Effect.groupSuperseded hv hs hfirst hrelease hm).of_eq hc

end

/-! ### Steps of the machine -/

@[simp] lemma state_inWorld {α : Type} (x : ControlM α) (w : World) :
    (state (inWorld x w)).kernel = state (x w.kernel) := by
  unfold inWorld
  cases x w.kernel <;> rfl

/-- A call that remembers a value after its operation ran. -/
lemma state_inWorld_bind {α : Type} (x : ControlM α) {f : α → EStateM ControlError World Unit}
    (hf : ∀ a w, (state (f a w)).kernel = w.kernel) (w : World) :
    (state ((inWorld x >>= f) w)).kernel = state (x w.kernel) := by
  rw [run_bind, inWorld]
  cases x w.kernel with
  | ok a => exact hf a _
  | error => rfl

lemma Call.effect (w : World) (call : Call) : Effect w.control call (w.step call).control := by
  have hrun : ∀ {x : ControlM Unit}, Effect w.kernel.control call (state (x w.kernel)).control →
      Effect w.kernel.control call (state (inWorld x w)).kernel.control := fun h =>
    h.of_eq (congrArg _ (state_inWorld _ w))
  -- calls that return a value drop it or remember it; neither is part of the plane
  have hkept : ∀ {α : Type} {x : ControlM α} {f : α → EStateM ControlError World Unit},
      (∀ a w, (state (f a w)).kernel = w.kernel) →
      Effect w.kernel.control call (state (x w.kernel)).control →
      Effect w.kernel.control call (state ((inWorld x >>= f) w)).kernel.control := fun hf h =>
    h.of_eq (congrArg _ (state_inWorld_bind _ hf w))
  unfold World.step World.control
  cases call with
  | registerMissionTenant mission tenant =>
    refine hrun ?_
    rw [Control.registerMissionTenant, run_get_bind]
    refine .checked fun _ _ => .checked fun _ hsame => .tenant fun t ht => ?_
    simpa [ht] using refuse_eq_ok.mp hsame
  | installPhysicalEntityRegistry =>
    refine hrun ?_
    rw [Control.installPhysicalEntityRegistry, run_get_bind]
    exact .checked fun _ h => .registry h
  | acceptResourceTopologyRegistry =>
    refine hrun ?_
    rw [Control.acceptResourceTopologyRegistry, run_get_bind]
    exact .checked fun _ h => .topology h
  | acceptResourceQuotaRegistry =>
    refine hrun ?_
    rw [Control.acceptResourceQuotaRegistry, run_get_bind]
    refine .checked fun limits h => ?_
    cases limits with
    | none => exact .unchanged
    | some limits => exact .limits h
  | setActorNodeConstraint => exact hrun (effect_setActorNodeConstraint ..)
  | setActorCandidateRestriction => exact hrun (effect_setActorCandidateRestriction ..)
  | createMissionGroup id plan =>
    refine hrun ?_
    rcases createMissionGroup_cases w.kernel id plan with ⟨e, h⟩ | ⟨_, events, hnew, hs, hfirst, h⟩
    · rw [h]
      exact .unchanged
    · rw [h]
      exact .groupCreated hnew hs hfirst
  | supersedeMissionGroup => exact hkept (fun _ _ => rfl) (effect_supersedeMissionGroup ..)
  | reserveScheduledTask =>
    refine hrun ?_
    rw [Control.reserveScheduledTask, run_get_bind]
    exact .checked fun _ h => .reserved h
  | preemptFutureTask =>
    refine hkept (fun _ _ => rfl) ?_
    rw [Control.preemptFutureTask, run_get_bind]
    exact .checked fun _ h => .preempted h
  | commitForGroupWithState => exact hkept (fun _ _ => rfl) (effect_commitForGroupWithState ..)
  | bindTaskExecutionWithState => exact hrun (effect_bindTaskExecutionWithState ..)
  | activateTaskExecution => exact hrun (effect_activateTaskExecution ..)
  | releaseTaskBindings => exact hrun (effect_releaseTaskBindings ..)
  | releaseContextBindings => exact hkept (fun _ _ => rfl) (effect_releaseContextBindings ..)
  | releaseRoleBinding => exact hrun (effect_releaseRoleBinding ..)
  | releaseTaskRoleBinding => exact hrun (effect_releaseTaskRoleBinding ..)
  | beginRoleRecovery => exact hrun (effect_beginRoleRecovery ..)
  | beginExecutionRecovery need =>
    refine hrun ?_
    rw [Control.beginExecutionRecovery, run_get_bind]
    exact .checked fun _ _ =>
      .executionRecoveryBegun (effect_beginRoleRecovery ⟨_, w.kernel.events ++ [_]⟩ need)
  | commitRoleRecovery =>
    refine hkept (fun _ _ => rfl) ?_
    rw [Control.commitRoleRecovery, run_get_bind]
    exact .checked fun _ hv => .checked fun _ hl => .recoveryCommitted hv hl
  | abortRoleRecoveryCommitment =>
    refine hrun ?_
    rw [Control.abortRoleRecoveryCommitment, run_get_bind]
    exact .checked fun _ h => .recoveryAborted h
  | rebindRoleWithState => exact hrun (effect_rebindRoleWithState ..)
  | activateGroup => exact hrun (effect_activateGroup ..)
  | completeGroup => exact hrun (effect_completeGroup ..)
  | releaseGroup => exact hrun (effect_releaseGroup ..)
  | readyTaskExecution | recordTaskExecutionCompleted | satisfyTaskExecution | failTaskExecution
  | rejectTaskSatisfaction => exact hrun (effect_moveTask _ rfl _ _)
  | blockGroup | failGroup => exact hrun (effect_moveGroup _ rfl _)
  | consumeScheduledTask task =>
    exact hrun (x := modifyControl (·.consumeScheduledTask task)) .consumed
  | invalidateScheduledTask task reason =>
    exact hrun (x := modifyControl (·.invalidateScheduledTask task reason)) .invalidated
  | cancelScheduledMission mission =>
    exact hrun (x := modifyControl (·.cancelScheduledMission mission)) .missionCancelled
  | propose =>
    refine hkept (fun _ _ => rfl) ?_
    rw [Control.propose]
    exact .checked fun _ _ => .unchanged
  | matchRecoveryCandidates =>
    refine hkept (fun _ _ => rfl) ?_
    rw [Control.matchRecoveryCandidates, run_get_bind]
    exact .checked fun _ _ => .unchanged
  | proposeRoleRecovery =>
    refine hkept (fun _ _ => rfl) ?_
    rw [Control.proposeRoleRecovery, run_get_bind]
    exact .checked fun _ _ => .unchanged
  | authorizeActorTakeover =>
    simp only [Call.run, run_get_bind, run_check_bind]
    split <;> exact .unchanged

end RoboGuide.Control
