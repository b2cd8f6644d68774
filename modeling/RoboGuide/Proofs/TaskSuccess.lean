import RoboGuide.Runtime.RelationHistory

/-!
# `RoboGuide.Proofs.TaskSuccess`: what an execution success rests on

`task_execution_result` decides success from latches: a proof that names the target's current
attempt, and no fence. Attempts are replaced, endpoints are lost and come back, and the
process restarts between the moment a latch is written and the moment it is read.
`success_proven` traces the proof back to a state in which both endpoints were live, and
`fence_history` traces a missing fence to an acknowledgement of the satisfied relation.
-/

namespace RoboGuide.Runtime

open Domain Lib AttemptLedger

variable {k : RelationKey}
open RuntimeExecutionManager

section

variable (calls : Nat → RuntimeCall) {i n : Nat} {r : RuntimeExecutionRelation}

lemma guarded_stateAt (n : Nat) : Guarded (stateAt calls n) := by
  induction n with
  | zero => exact guarded_new
  | succ n ih => exact (relationStep_of_effect ih (effect_step _ _)).guarded

lemma relationStep_stateAt (n : Nat) :
    RelationStep (stateAt calls n) (calls n) (stateAt calls (n + 1)) :=
  relationStep_of_effect (guarded_stateAt calls n) (effect_step _ _)

lemma relation_persists (h : i ≤ n) (hr : (stateAt calls i).relations.get? k = some r) :
    (stateAt calls n).relations.get? k = some r := by
  induction h with
  | refl => exact hr
  | step _ ih => exact (relationStep_stateAt calls _).relations k r ih

lemma success_proven (n : Nat) {target : ExecutionId}
    (hproof : (stateAt calls n).relationProofs.get? k = some target) :
    ∃ i ≤ n, ∃ r, (stateAt calls i).relations.get? k = some r ∧
      (stateAt calls i).activeExecutions.get? r.targetKey = some target ∧
      Coordinated (stateAt calls i).toAttemptLedger r := by
  induction n with
  | zero => cases hproof
  | succ n ih =>
    rcases (relationStep_stateAt calls n).proofs k target hproof with hold | hnew
    · obtain ⟨i, hi, h⟩ := ih hold
      exact ⟨i, Nat.le_succ_of_le hi, h⟩
    · exact ⟨n + 1, Nat.le_refl _, hnew⟩

/-- The relation is acknowledged by call `j` while it is satisfied. -/
structure AcknowledgedAt (r : RuntimeExecutionRelation) (j : Nat) : Prop where
  call : calls j = .acknowledgeRelationReconciliation r.groupId r.relationId
  registered : (stateAt calls j).relations.get? r.key = some r
  satisfied : (stateAt calls j).deriveRelationState r = .satisfied

lemma fence_history (h : i ≤ n) (hr : (stateAt calls i).relations.get? k = some r)
    (hfence : (stateAt calls i).relationFences.contains k = true) :
    (stateAt calls n).relationFences.contains k = true ∨
      ∃ j, i ≤ j ∧ j < n ∧ AcknowledgedAt calls r j := by
  induction h with
  | refl => exact .inl hfence
  | @step n hle ih =>
    rcases ih with hup | ⟨j, hij, hjn, hack⟩
    · rcases (relationStep_stateAt calls n).fences k hup with hup |
        ⟨group, relationId, r', hcall, hk, hr', hsatisfied⟩
      · exact .inl hup
      · have hrn := relation_persists calls hle hr
        rw [hrn] at hr'
        cases hr'
        have hkey : r.key = k := (guarded_stateAt calls n).keyed k r hrn
        have hids : r.groupId = group ∧ r.relationId = relationId := by
          rw [hk] at hkey
          simpa [RuntimeExecutionRelation.key] using hkey
        refine .inr ⟨n, hle, Nat.lt_succ_self n, ?_, ?_, hsatisfied⟩
        · rw [hcall, hids.1, hids.2]
        · rw [hkey, hrn]
    · exact .inr ⟨j, hij, Nat.lt_succ_of_lt hjn, hack⟩

/-! ### Results -/

lemma success_cases {m : RuntimeExecutionManager} {group : ExecutionGroupId} {task : TaskRef}
    {roles : List RoleId} (h : m.taskExecutionResult group task roles = some .executionCompleted) :
    (∀ role ∈ roles, m.roleOutcome (slotOf group task role) = .completed) ∧
      m.relationsAllowTaskSuccess group task = true := by
  rw [taskExecutionResult] at h
  split at h
  · cases h
  next hclosed =>
  split at h
  · cases h
  next hunfailed =>
  split at h
  · next hallowed =>
    refine ⟨fun role hrole => ?_, hallowed⟩
    simp only [Bool.or_eq_true, not_or, List.contains_iff_mem, List.mem_map, not_exists,
      not_and] at hclosed hunfailed
    cases ho : m.roleOutcome (slotOf group task role) with
    | completed => rfl
    | failed => exact absurd ho (hunfailed role hrole)
    | «open» => exact absurd ho (hclosed.2 role hrole)
  · cases h

/-- What a relation that targets a successful Task has to show for itself. -/
structure RelationHonoured (n : Nat) (roles : List RoleId) (r : RuntimeExecutionRelation) :
    Prop where
  /-- The present attempt of the target and the attempt the source had then were live
  together, in an earlier state when the target is among the Roles of the result. -/
  coordinated : ∃ target source i, i ≤ n ∧ (r.targetRoleId ∈ roles → i < n) ∧
    (stateAt calls n).activeExecutions.get? r.targetKey = some target ∧
    (stateAt calls i).activeExecutions.get? r.targetKey = some target ∧
    ((stateAt calls i).statusOf target).any ExecutionStatus.isLive = true ∧
    (stateAt calls i).activeExecutions.get? r.sourceKey = some source ∧
    ((stateAt calls i).statusOf source).any ExecutionStatus.isLive = true
  /-- Whenever the relation was violated or unknown, it was acknowledged later, while it was
  satisfied. -/
  reconciled : ∀ i ≤ n, ∀ state, (stateAt calls i).relationStates.get? r.key = some state →
    state = .violated ∨ state = .unknown → ∃ j, i ≤ j ∧ j < n ∧ AcknowledgedAt calls r j

lemma slotLive_attempt {a : AttemptLedger} {slot : ExecutionSlot} (h : a.slotLive slot = true) :
    ∃ id, a.activeExecutions.get? slot = some id ∧
      (a.statusOf id).any ExecutionStatus.isLive = true := by
  rw [slotLive, currentStatus] at h
  cases hget : a.activeExecutions.get? slot with
  | none => simp [hget] at h
  | some id =>
    rw [hget] at h
    exact ⟨id, rfl, h⟩

/-- Whenever `task_execution_result` reports success, every Role it was asked about has a
completed current attempt, and every relation that requires an active source and targets the
Task is honoured over the whole run. -/
theorem task_success_coordinated (n : Nat) (group : ExecutionGroupId) (task : TaskRef)
    (roles : List RoleId)
    (h : (stateAt calls n).taskExecutionResult group task roles = some .executionCompleted) :
    (∀ role ∈ roles, (stateAt calls n).currentStatus (slotOf group task role) = some .completed) ∧
      ∀ key r, (stateAt calls n).relations.get? key = some r → r.kind = .requiresActive →
        r.groupId = group → r.targetTaskRef = task → RelationHonoured calls n roles r := by
  obtain ⟨hroles, hallowed⟩ := success_cases h
  have hcompleted : ∀ role ∈ roles,
      (stateAt calls n).currentStatus (slotOf group task role) = some .completed := by
    intro role hrole
    have houtcome := hroles role hrole
    rw [roleOutcome] at houtcome
    split at houtcome
    · assumption
    · split at houtcome <;> cases houtcome
    all_goals cases houtcome
  refine ⟨hcompleted, fun key r hr hkind hgroup htask => ?_⟩
  have hkey : r.key = key := (guarded_stateAt calls n).keyed key r hr
  -- what the latches of the relation say
  have hlatches : ∃ target, (stateAt calls n).activeExecutions.get? r.targetKey = some target ∧
      (stateAt calls n).relationFences.contains key = false ∧
      (stateAt calls n).relationProofs.get? key = some target := by
    have hentry := List.all_eq_true.mp hallowed (key, r) (mem_entries_iff.mpr hr)
    dsimp only at hentry
    rw [if_neg (by simp [hgroup, htask])] at hentry
    cases hactive : (stateAt calls n).activeExecutions.get? r.targetKey with
    | none => simp [hactive] at hentry
    | some target => exact ⟨target, rfl, by simpa [hactive] using hentry⟩
  obtain ⟨target, hactive, hfence, hproof⟩ := hlatches
  refine ⟨?_, fun i hi state hs hstate => ?_⟩
  · obtain ⟨i, hi, r', hr', hactive', hc⟩ := success_proven calls n hproof
    have hsame := relation_persists calls hi hr'
    rw [hr] at hsame
    cases hsame
    obtain ⟨_, htarget', hlive⟩ := slotLive_attempt hc.target
    rw [hactive'] at htarget'
    cases htarget'
    obtain ⟨source, hsource, hlive'⟩ := slotLive_attempt hc.source
    refine ⟨target, source, i, hi, fun hrole => ?_, hactive, hactive', hlive, hsource, hlive'⟩
    -- in the present state the target is completed, so that state is an earlier one
    refine Nat.lt_of_le_of_ne hi ?_
    rintro rfl
    have hdone := hcompleted r.targetRoleId hrole
    rw [← hgroup, ← htask] at hdone
    have hlive := hc.target
    rw [slotLive, RuntimeExecutionRelation.targetKey, hdone] at hlive
    cases hlive
  · rw [hkey] at hs
    obtain ⟨r', hr'⟩ := (guarded_stateAt calls i).covered key state hs
    have hsame := relation_persists calls hi hr'
    rw [hr] at hsame
    cases hsame
    have hrequires : state.requiresReconciliation = true := by rcases hstate with rfl | rfl <;> rfl
    have hup := (guarded_stateAt calls i).fenced key r state hr' hkind hs hrequires
    rcases fence_history calls hi hr' hup with hup | hack
    · rw [hfence] at hup
      cases hup
    · exact hack

end

namespace Escorted

open Sample

def escort : TaskId := ⟨"escort", .refl false⟩

def carry : TaskId := ⟨"carry", .refl false⟩

/-- The carrier may only work while the escort does. -/
def relation : ExecutionRelationSpec where
  relationId := ⟨"relation", .refl false⟩
  source := ⟨escort, role⟩
  target := ⟨carry, role⟩
  relationType := .requiresActive
  accepted := by decide +kernel

def escortNode : NodeId := ⟨"escort", .refl false⟩

def carrierNode : NodeId := ⟨"carrier", .refl false⟩

/-- The escort is lost and comes back while the carrier works; Control acknowledges. -/
def run : List RuntimeCall :=
  [.registerRelations group mission [relation] ∅,
    .prepareDispatch "escort-1" (command escort escortNode) [],
    .prepareDispatch "carry-1" (command carry carrierNode) [],
    .observeExecution "escort-1" escortNode 1 .running "",
    .observeExecution "carry-1" carrierNode 1 .running "",
    .observeNodeUnavailable escortNode "lost",
    .observeExecution "escort-1" escortNode 2 .running "",
    .acknowledgeRelationReconciliation group relation.relationId,
    .observeExecution "carry-1" carrierNode 2 .completed ""]

def calls (n : Nat) : RuntimeCall := run.getD n .restart

def registered : RuntimeExecutionRelation := resolveRelation group mission ∅ relation

end Escorted

open Sample Escorted in
/-- A run in which the relation was unknown for a while and the Task still succeeds. -/
theorem escorted_task_succeeds :
    (stateAt calls 6).relationStates.get? registered.key = some .unknown ∧
      (stateAt calls 9).taskExecutionResult group ⟨mission, carry⟩ [role] =
        some .executionCompleted ∧
      RelationHonoured calls 9 [role] registered := by
  have hunknown : (stateAt calls 6).relationStates.get? registered.key = some .unknown := by
    decide +kernel
  have hresult : (stateAt calls 9).taskExecutionResult group ⟨mission, carry⟩ [role] =
      some .executionCompleted := by decide +kernel
  have hrelation : (stateAt calls 9).relations.get? registered.key = some registered := by
    decide +kernel
  exact ⟨hunknown, hresult, (task_success_coordinated calls 9 group ⟨mission, carry⟩ [role]
    hresult).2 _ _ hrelation rfl rfl rfl⟩

end RoboGuide.Runtime
