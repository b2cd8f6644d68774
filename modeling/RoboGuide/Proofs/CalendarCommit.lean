import RoboGuide.Proofs.FinishedGroups

/-!
# `RoboGuide.Proofs.CalendarCommit`: future reservations at Commit

The calendar admits two Tasks on one exclusive resource when their intervals are disjoint.
Commit asks `scheduled_resource_conflict` again, and that function compares no times: every
Commit path treats another Task's interval as a conflict, also an interval that starts
after the committing Task has ended. `commit_conflict_iff_promised` states exactly when
Commit is refused for that reason.
-/

namespace RoboGuide.Control

open Domain Lib Fallible List

variable {id : ResourceId} {err : ControlError}

def ScheduledTaskReservation.Selects (r : ScheduledTaskReservation) (id : ResourceId) : Prop :=
  ∃ s ∈ r.decision.selections, id ∈ s.resourceIds

/-- Another Task's future reservation selects the resource, whatever its interval. -/
def ControlPlane.PromisedElsewhere (c : ControlPlane) (task : TaskRef) (id : ResourceId) : Prop :=
  ∃ r ∈ c.scheduledTasks.values, r.phase = .scheduled ∧ r.decision.taskRef ≠ task ∧ r.Selects id

instance (c : ControlPlane) (task : TaskRef) (id : ResourceId) :
    Decidable (c.PromisedElsewhere task id) := by
  unfold ControlPlane.PromisedElsewhere ScheduledTaskReservation.Selects
  have (l : List ResourceId) : Decidable (id ∈ l) := decidable_of_iff _ List.contains_iff_mem
  infer_instance

lemma scheduledResourceConflict_eq_none {c : ControlPlane} {task : TaskRef} :
    c.scheduledResourceConflict id task = none ↔ ¬ c.PromisedElsewhere task id := by
  simp only [ControlPlane.scheduledResourceConflict, findSome?_eq_none_iff,
    Option.map_eq_none_iff, find?_eq_none, ControlPlane.liveFutures, mem_filter,
    Bool.and_eq_true, beq_iff_eq, bne_iff_ne, ne_eq, Option.some.injEq, contains_iff_mem,
    ControlPlane.PromisedElsewhere, ScheduledTaskReservation.Selects]
  constructor
  · rintro h ⟨r, hr, hphase, hother, s, hs, hid⟩
    exact h r ⟨hr, hphase, Ne.symm hother⟩ s hs hid
  · intro h r hr s hs hid
    exact h ⟨r, hr.1, hr.2.1, Ne.symm hr.2.2, s, hs, hid⟩

/-! ### The checks around the resource scan -/

/-- Everything Commit checks passes, the calendar's part of the resource scan aside: current
support and quota, the Group, the Task's own decision and window, and no exclusive resource
is physically held but by the same owner in the same Group. -/
structure CommitReady (c : ControlPlane) (e : Evidence) (group : ExecutionGroupId)
    (p : AssignmentProposal) (capacity : Option (CapacityLedger × QuotaLedger))
    (t : TaskExecution) : Prop where
  support : validateCommitSupport c e group p = .ok capacity
  checks : validateBeforeScan c e group p capacity = .ok t
  free : ∀ a ∈ p.assignments, ∀ owner, assignmentOwner t p.taskRef a.roleId = .ok owner →
    ∀ id ∈ exclusiveSelection p a, ∀ r,
      (c.reservations.get? id).or (c.capacityConflict id) = some r →
        r.owner = owner ∧ r.groupId = some group

namespace CommitReady

variable {c : ControlPlane} {e : Evidence} {group : ExecutionGroupId} {p : AssignmentProposal}
  {capacity : Option (CapacityLedger × QuotaLedger)} {t : TaskExecution} {a : RoleAssignment}
  (h : CommitReady c e group p capacity t)
include h

lemma owner
    (ha : a ∈ p.assignments) : ∃ owner, assignmentOwner t p.taskRef a.roleId = .ok owner := by
  have hchecks := h.checks
  simp only [validateBeforeScan, bind_eq_ok, forM_eq_ok, pure_eq_ok] at hchecks
  obtain ⟨-, -, g, -, t', -, -, -, -, -, -, -, -, -, -, -, -, howners, rfl⟩ := hchecks
  obtain ⟨owner, howner, -⟩ := howners a ha
  exact ⟨owner, howner⟩

lemma checkResourceFree_eq (ha : a ∈ p.assignments) {owner : AllocationOwner}
    (howner : assignmentOwner t p.taskRef a.roleId = .ok owner)
    (hid : id ∈ exclusiveSelection p a) : checkResourceFree c group p.taskRef owner id =
      match c.scheduledResourceConflict id p.taskRef with
      | some (task, role) => .error (.resourceConflict id task role) | none => .ok () := by
  unfold checkResourceFree
  cases hheld : (c.reservations.get? id).or (c.capacityConflict id) with
  | none => rfl
  | some r =>
    obtain ⟨hr, hg⟩ := h.free a ha owner howner id hid r hheld
    simp only [hr, hg, bne_self_eq_false, Bool.or_self, refuse_false]
    rfl

lemma scan_eq_ok : p.assignments.forM (scanAssignment c group p t) = .ok () ↔
      ∀ a ∈ p.assignments, ∀ id ∈ exclusiveSelection p a, ¬ c.PromisedElsewhere p.taskRef id := by
  rw [forM_eq_ok]
  refine forall₂_congr fun a ha => ?_
  obtain ⟨owner, howner⟩ := h.owner ha
  have hscan : scanAssignment c group p t a =
      (exclusiveSelection p a).forM (checkResourceFree c group p.taskRef owner) := by
    rw [scanAssignment, howner]
    rfl
  rw [hscan, forM_eq_ok]
  refine forall₂_congr fun id hid => ?_
  rw [h.checkResourceFree_eq ha howner hid, ← scheduledResourceConflict_eq_none]
  cases c.scheduledResourceConflict id p.taskRef <;> simp

lemma scan_eq_error (hscan : p.assignments.forM (scanAssignment c group p t) = .error err) :
    ∃ id task role, err = .resourceConflict id task role := by
  obtain ⟨a, ha, hscan⟩ := forM_eq_error hscan
  obtain ⟨owner, howner⟩ := h.owner ha
  simp only [scanAssignment, howner] at hscan
  obtain ⟨id, hid, hcheck⟩ := forM_eq_error (f := checkResourceFree c group p.taskRef owner) hscan
  rw [h.checkResourceFree_eq ha howner hid] at hcheck
  cases hconflict : c.scheduledResourceConflict id p.taskRef with
  | none => simp [hconflict] at hcheck
  | some found =>
    rw [hconflict] at hcheck
    exact ⟨id, found.1, found.2, (Except.error.inj hcheck).symm⟩

lemma commitLedgers_ne_conflict {task : TaskRef} {role : RoleId} :
    commitLedgers c p capacity ≠ .error (.resourceConflict id task role) := by
  have hsupport := h.support
  simp only [validateCommitSupport, bind_eq_ok] at hsupport
  obtain ⟨-, -, -, -, _, hdemands, _, hquota, -⟩ := hsupport
  unfold commitLedgers
  cases capacity with
  | none => simp [hdemands, hquota, bind, Except.bind, pure, Except.pure]
  | some =>
    cases checkedSucc c.calendarVersion <;> simp [okOr, bind, Except.bind, pure, Except.pure]

end CommitReady

lemma commitForGroupWithState_error {k : Kernel} {e : Evidence} {group : ExecutionGroupId}
    {p : AssignmentProposal} {capacity : Option (CapacityLedger × QuotaLedger)}
    (hsupport : validateCommitSupport k.control e group p = .ok capacity) :
    (∃ k', commitForGroupWithState e group p k = .error err k') ↔
      validateGroupCommit k.control e group p capacity = .error err ∨
        (∃ t, validateGroupCommit k.control e group p capacity = .ok t) ∧
          commitLedgers k.control p capacity = .error err := by
  -- the receipts event changes nothing that the second half of the call reads
  have hsecond : ∀ k' : Kernel, k'.control = k.control →
      ((∃ k'', commitForGroupValidated e group p capacity k' = .error err k'') ↔
        validateGroupCommit k.control e group p capacity = .error err ∨
          (∃ t, validateGroupCommit k.control e group p capacity = .ok t) ∧
            commitLedgers k.control p capacity = .error err) := by
    intro k' hk'
    simp only [commitForGroupValidated, run_get_bind, run_check_bind, hk']
    cases validateGroupCommit k.control e group p capacity with
    | error => simp
    | ok =>
      cases commitLedgers k.control p capacity with
      | error => simp
      | ok =>
        refine ⟨?_, by simp⟩
        rintro ⟨k'', h⟩
        cases h
  simp only [commitForGroupWithState, run_get_bind, run_check_bind, hsupport]
  cases hr : e.hasReceipts p.taskRef with
  | true => simpa [hr] using hsecond ⟨k.control, k.events ++ [_]⟩ rfl
  | false => simpa [hr] using hsecond k rfl

/-- Where every other check passes and the exclusive resources are physically free, Commit
is refused with a conflict exactly when another Task's future reservation selects one of
them. The intervals of the two Tasks play no part. -/
theorem commit_conflict_iff_promised {k : Kernel} {e : Evidence} {group : ExecutionGroupId}
    {p : AssignmentProposal} {capacity : Option (CapacityLedger × QuotaLedger)}
    {t : TaskExecution} (ready : CommitReady k.control e group p capacity t) : (∃ id task role k',
        commitForGroupWithState e group p k = .error (.resourceConflict id task role) k') ↔
      ∃ a ∈ p.assignments, ∃ id ∈ exclusiveSelection p a,
        k.control.PromisedElsewhere p.taskRef id := by
  have hcommit : validateGroupCommit k.control e group p capacity =
      (p.assignments.forM (scanAssignment k.control group p t) >>= fun _ => pure t) := by
    rw [validateGroupCommit, ready.checks]
    rfl
  constructor
  · rintro ⟨id, task, role, hrun⟩
    by_contra hnone
    push Not at hnone
    have hscan := ready.scan_eq_ok.mpr hnone
    rw [commitForGroupWithState_error ready.support, hcommit, hscan] at hrun
    rcases hrun with hrun | ⟨-, hrun⟩
    · cases hrun
    · exact ready.commitLedgers_ne_conflict hrun
  · rintro ⟨a, ha, id, hid, hpromised⟩
    cases hscan : p.assignments.forM (scanAssignment k.control group p t) with
    | ok => exact absurd hpromised (ready.scan_eq_ok.mp hscan a ha id hid)
    | error =>
      obtain ⟨id', task, role, rfl⟩ := ready.scan_eq_error hscan
      refine ⟨id', task, role, (commitForGroupWithState_error ready.support).mpr (.inl ?_)⟩
      rw [hcommit, hscan]
      rfl

/-! ### Two Tasks one after the other -/

/-- Two Tasks are scheduled on one exclusive resource, the second after the end of the first,
and the first one's own assignments are committed at a time inside its interval and window,
while no other Task physically holds the resource. -/
structure BackToBack (c : ControlPlane) (now : TimestampMs) (group : ExecutionGroupId)
    (p : AssignmentProposal) (first second : ScheduledTaskReservation) (id : ResourceId) :
    Prop where
  first_scheduled : c.scheduledTask p.taskRef = some first ∧ first.phase = .scheduled
  second_scheduled : c.scheduledTask second.decision.taskRef = some second ∧
    second.phase = .scheduled
  distinct : first.decision.taskRef ≠ second.decision.taskRef
  first_selects : ∃ s ∈ first.decision.selections, id ∈ exclusiveResources s
  second_selects : ∃ s ∈ second.decision.selections, id ∈ exclusiveResources s
  disjoint : ∃ ends, first.decision.endsAt = some ends ∧ ends ≤ second.decision.startsAt
  started : first.decision.startsAt ≤ now
  unfinished : ∀ ends, first.decision.endsAt = some ends → now < ends
  activates : ∀ latest, first.decision.latestActivationAt = some latest → now ≤ latest
  own_group : first.groupId = group
  own_assignments : p.assignments = first.decision.proposedAssignments
  unheld : ∀ r, (c.reservations.get? id).or (c.capacityConflict id) = some r →
    r.taskRef = p.taskRef

namespace SharedBay

open ReadySurvivor (role bay node group context roleRequirement evidence start)

/-- Two Tasks of one Mission that need the same exclusive bay. -/
def task (name : TaskId) : TaskRef := ⟨⟨"mission", .refl false⟩, name⟩

def early : TaskRef := task ⟨"early", .refl false⟩
def late : TaskRef := task ⟨"late", .refl false⟩

def requirement (task : TaskRef) : TaskRequirement where
  taskRef := task
  roles := [roleRequirement]
  timing := ⟨0, none, none, none⟩
  roles_nonempty := ReadySurvivor.requirement.roles_nonempty
  roles_distinct := ReadySurvivor.requirement.roles_distinct

def planned (task : TaskRef) : PlannedTask where
  declaration := "use the bay"
  requirement := requirement task
  dependencies := []
  continuity := ⟨context, ∅, ∅, none⟩
  satisfactionBasis := .executionReport
  dependencies_valid := by simp
  continuity_valid := fun _ h => nomatch h

def plan : MissionPlan where
  missionId := early.missionId
  objective := "use the bay twice"
  actors := []
  tasks := [planned early, planned late]
  contexts := [⟨context, [], [], .independent⟩]
  valid := by decide

def candidates (task : TaskRef) : CandidateSet :=
    ⟨task, OrdMap.ofList [(role, [node])], ∅, ∅, [], ∅⟩

def decision (task : TaskRef) (startsAt endsAt snapshotVersion : Nat) : TaskSchedulingDecision where
  taskRef := task
  selections := [⟨role, node, [bay], [1], [], []⟩]
  startsAt
  endsAt := some endsAt
  latestActivationAt := none
  snapshotVersion
  durationEstimate := none

/-- The bay is free when the first Task starts. -/
def due : Evidence := .granting 100 [(node, [⟨bay, .space, 1, .exclusive, none, Nat.one_pos⟩])]

def proposal (task : TaskRef) : AssignmentProposal :=
  ⟨task, [⟨role, node, [bay]⟩], ∅, OrdMap.ofList [(role, roleRequirement)], ∅⟩

/-- The Tasks are scheduled one after the other; then the first one is due and proposed. -/
def calls : List Call :=
  [.createMissionGroup group plan, .readyTaskExecution group early,
    .readyTaskExecution group late,
    .reserveScheduledTask evidence (candidates early) group (decision early 100 600 0),
    .reserveScheduledTask evidence (candidates late) group (decision late 600 900 1),
    .propose due (requirement early) (candidates early) [⟨role, node, [bay]⟩]]

def scheduled : World := calls.foldl World.step start

def reservation (decision : TaskSchedulingDecision) : ScheduledTaskReservation :=
  ⟨∅, group, decision, .scheduled, ""⟩

def first : ScheduledTaskReservation := reservation (decision early 100 600 0)
def second : ScheduledTaskReservation := reservation (decision late 600 900 1)

lemma unheld : (scheduled.control.reservations.get? bay).or
    (scheduled.control.capacityConflict bay) = none := by decide +kernel

lemma backToBack :
    BackToBack scheduled.control due.now group (proposal early) first second bay where
  first_scheduled := by decide +kernel
  second_scheduled := by decide +kernel
  distinct := by decide +kernel
  first_selects := by decide +kernel
  second_selects := by decide +kernel
  disjoint := ⟨600, by decide +kernel⟩
  started := by decide +kernel
  unfinished ends h := by
    obtain rfl : 600 = ends := Option.some.inj h
    decide +kernel
  activates := nofun
  own_group := rfl
  own_assignments := by decide +kernel
  unheld r hr := by
    rw [unheld] at hr
    cases hr

lemma ready : ∃ t, CommitReady scheduled.control due group (proposal early) none t := by
  have hchecks : (validateBeforeScan scheduled.control due group (proposal early)
      none).toOption.isSome = true := by decide +kernel
  cases ht : validateBeforeScan scheduled.control due group (proposal early) none with
  | error => simp [ht, Except.toOption] at hchecks
  | ok t =>
    refine ⟨t, by decide +kernel, ht, ?_⟩
    intro a ha owner _ id hid r hr
    have hbay : ∀ a ∈ (proposal early).assignments, ∀ id ∈ exclusiveSelection (proposal early) a,
        id = bay := by decide +kernel
    rw [hbay a ha id hid, unheld] at hr
    cases hr

end SharedBay

/-- The first of the two Tasks is refused because of the second. -/
theorem earlier_task_conflicts : (∃ a ∈ (SharedBay.proposal SharedBay.early).assignments,
        ∃ id ∈ exclusiveSelection (SharedBay.proposal SharedBay.early) a,
          SharedBay.scheduled.control.PromisedElsewhere SharedBay.early id) ∧
      ∃ id task role k', commitForGroupWithState SharedBay.due ReadySurvivor.group
        (SharedBay.proposal SharedBay.early) SharedBay.scheduled.kernel =
          .error (.resourceConflict id task role) k' := by
  obtain ⟨t, ready⟩ := SharedBay.ready
  have hpromised : ∃ a ∈ (SharedBay.proposal SharedBay.early).assignments,
      ∃ id ∈ exclusiveSelection (SharedBay.proposal SharedBay.early) a,
        SharedBay.scheduled.control.PromisedElsewhere SharedBay.early id := by decide +kernel
  exact ⟨hpromised, (commit_conflict_iff_promised ready).mpr hpromised⟩

/-- Both Tasks were admitted to the calendar, one after the other, and the first one's own
assignments are refused in its own interval in the name of the second. -/
theorem later_interval_blocks_commit :
    ¬ ∀ (w₀ w : World) (e : Evidence) (group : ExecutionGroupId) (p : AssignmentProposal)
        (first second : ScheduledTaskReservation) (id : ResourceId), w₀.Idle →
      World.Run (fun _ _ => True) w₀ w → p ∈ w.proposals →
      BackToBack w.control e.now group p first second id →
      ∀ role k', commitForGroupWithState e group p w.kernel ≠
        .error (.resourceConflict id second.decision.taskRef role) k' := by
  intro h
  have hrun : World.Run (fun _ _ => True) ReadySurvivor.start SharedBay.scheduled :=
    Reaches.of_list SharedBay.calls .refl (by decide +kernel)
  have hproposed : SharedBay.proposal SharedBay.early ∈ SharedBay.scheduled.proposals := by
    decide +kernel
  have hallowed := h _ _ _ _ _ _ _ _ (World.start_idle _) hrun hproposed SharedBay.backToBack
  have hrefused : Fallible.refusal (commitForGroupWithState SharedBay.due ReadySurvivor.group
      (SharedBay.proposal SharedBay.early) SharedBay.scheduled.kernel) =
        some (.resourceConflict ReadySurvivor.bay SharedBay.late ReadySurvivor.role) := by
    decide +kernel
  obtain ⟨k', hk'⟩ := Fallible.refusal_eq_some.mp hrefused
  exact hallowed _ k' hk'

end RoboGuide.Control
