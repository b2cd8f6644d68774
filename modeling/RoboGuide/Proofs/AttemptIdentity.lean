import RoboGuide.Lib.Netstring
import RoboGuide.Runtime.Attempts

/-!
# `RoboGuide.Proofs.AttemptIdentity`: attempt identities are used once

`allocate_attempt_id` writes the lengths of its texts before them, so the text of an identity says
which slot and which generation it is for, whatever characters the identifiers have
(`attemptId_inj`). The generation of a slot never decreases, not over a restart either, and an
allocation moves it on. The Mission is not part of the identity: a Group has one.
-/

namespace RoboGuide.Runtime

open Domain Lib Fallible
open RuntimeExecutionManager

variable {group : ExecutionGroupId} {task : TaskRef} {role : RoleId} {n : Nat}

lemma attemptId_inj {group' : ExecutionGroupId} {task' : TaskRef} {role' : RoleId}
    {n' : Nat} (h : attemptId group task role n = attemptId group' task' role' n') :
    group = group' ∧ task.taskId = task'.taskId ∧ role = role' ∧ n = n' := by
  unfold attemptId at h
  dsimp only at h
  -- joined to the right, the text starts with a length each time
  repeat rw [String.append_assoc] at h
  obtain ⟨hgroup, h⟩ := netstring_inj ((String.append_right_inj _).mp h)
  obtain ⟨htask, h⟩ := netstring_inj ((String.append_right_inj _).mp h)
  obtain ⟨hrole, h⟩ := netstring_inj ((String.append_right_inj _).mp h)
  exact ⟨Ident.text_injective hgroup, Ident.text_injective htask, Ident.text_injective hrole,
    eq_of_repr_eq ((String.append_right_inj _).mp h)⟩

lemma allocateAttemptId_ok {m m' : RuntimeExecutionManager} {id : ExecutionId}
    (h : allocateAttemptId group task role m = .ok id m') : ∃ n, id = attemptId group task role n ∧
      (m.attemptGenerations.get? (slotOf group task role)).getD 0 < n ∧
      m'.attemptGenerations.get? (slotOf group task role) = some n := by
  rw [allocateAttemptId, run_get_bind, run_check_bind] at h
  split at h
  · next n hn =>
    cases h
    exact ⟨n, rfl, nextGeneration_gt (okOr_eq_ok.mp hn), get?_insert_self ..⟩
  · cases h

section

variable (calls : Nat → RuntimeCall)

/-- The identity that the call at `n` returns. -/
def allocatedAt (n : Nat) : Option ExecutionId :=
  match calls n with
  | .allocateAttemptId group task role =>
    match allocateAttemptId group task role (stateAt calls n) with
    | .ok id _ => some id
    | .error _ _ => none
  | _ => none

variable {calls} {id : ExecutionId}

lemma allocatedAt_eq_some (h : allocatedAt calls n = some id) :
    ∃ group task role generation, calls n = .allocateAttemptId group task role ∧
      id = attemptId group task role generation ∧
      ((stateAt calls n).attemptGenerations.get? (slotOf group task role)).getD 0 < generation ∧
      (stateAt calls (n + 1)).attemptGenerations.get? (slotOf group task role) =
        some generation := by
  rw [allocatedAt] at h
  split at h
  · next group task role hcall =>
    split at h
    · next _ m' hrun =>
      cases h
      obtain ⟨generation, hid, hnext, hstored⟩ := allocateAttemptId_ok hrun
      refine ⟨group, task, role, generation, hcall, hid, hnext, ?_⟩
      show ((stateAt calls n).step (calls n)).attemptGenerations.get? _ = _
      rw [hcall, RuntimeExecutionManager.step, hrun]
      exact hstored
    · cases h
  · cases h

lemma generation_increases {i j a b : Nat} (hij : i < j)
    (ha : (stateAt calls (i + 1)).attemptGenerations.get? (slotOf group task role) = some a)
    (hb : ((stateAt calls j).attemptGenerations.get? (slotOf group task role)).getD 0 < b) :
    a < b := by
  obtain ⟨g, _, hg⟩ := (persists_of_run (reaches_stateAt calls hij)).generation _ _ ha
  rw [hg, Option.getD_some] at hb
  omega

end

/-- No identity is returned twice, the generations of a slot increase, and an identity says which
slot and generation it is for. -/
theorem attempt_ids_unique (calls : Nat → RuntimeCall) (missionOf : ExecutionGroupId → MissionId)
    (hmission : ∀ i group task role, calls i = .allocateAttemptId group task role →
      task.missionId = missionOf group) :
    (∀ i j id, allocatedAt calls i = some id → allocatedAt calls j = some id → i = j) ∧
    (∀ i group task role id, calls i = .allocateAttemptId group task role →
      allocatedAt calls i = some id → ∃ a, id = attemptId group task role a ∧
        ∀ j b, i < j → calls j = .allocateAttemptId group task role →
          allocatedAt calls j = some (attemptId group task role b) → a < b) ∧
    ∀ group group' task task' role role' a b,
      attemptId group task role a = attemptId group' task' role' b →
        group = group' ∧ task.taskId = task'.taskId ∧ role = role' ∧ a = b := by
  refine ⟨fun i j id hi hj => ?_, fun i group task role id hcall hi => ?_,
    fun _ _ _ _ _ _ _ _ => attemptId_inj⟩
  · obtain ⟨_, task, _, a, hcall, rfl, hnext, hstored⟩ := allocatedAt_eq_some hi
    obtain ⟨group', task', role', b, hcall', hid, hnext', hstored'⟩ := allocatedAt_eq_some hj
    obtain ⟨rfl, _, rfl, rfl⟩ := attemptId_inj hid
    -- the Mission is the Group's, so both identities are of one slot
    have hsame := (hmission i _ _ _ hcall).trans (hmission j _ _ _ hcall').symm
    obtain rfl : task = task' := by
      cases task
      cases task'
      simp_all
    rcases Nat.lt_trichotomy i j with hij | rfl | hij
    · exact absurd (generation_increases hij hstored hnext') (lt_irrefl a)
    · rfl
    · exact absurd (generation_increases hij hstored' hnext) (lt_irrefl a)
  · obtain ⟨_, _, _, a, hcall', rfl, -, hstored⟩ := allocatedAt_eq_some hi
    cases hcall.symm.trans hcall'
    refine ⟨a, rfl, fun j b hij hcall'' hj => ?_⟩
    obtain ⟨_, _, _, c, hcall''', hid, hnext, -⟩ := allocatedAt_eq_some hj
    cases hcall''.symm.trans hcall'''
    obtain ⟨-, -, -, rfl⟩ := attemptId_inj hid
    exact generation_increases hij hstored hnext

/-- An allocation, a restart and another allocation for the same Role. -/
def allocatedTwice (n : Nat) : RuntimeCall :=
  if n = 1 then .restart
  else .allocateAttemptId ⟨"group", .refl false⟩ ⟨⟨"mission", .refl false⟩, ⟨"task", .refl false⟩⟩
    ⟨"role", .refl false⟩

/-- Two allocations for one Role, with a restart between them. -/
theorem allocatedTwice_distinct : (allocatedAt allocatedTwice 0).isSome = true ∧
    (allocatedAt allocatedTwice 2).isSome = true ∧
    allocatedAt allocatedTwice 0 ≠ allocatedAt allocatedTwice 2 := by
  refine ⟨by decide +kernel, by decide +kernel, fun hsame => ?_⟩
  have hmission : ∀ i group task role, allocatedTwice i = .allocateAttemptId group task role →
      task.missionId = ⟨"mission", by decide⟩ := by
    intro i group task role h
    rw [allocatedTwice] at h
    split at h
    · cases h
    · cases h
      rfl
  obtain ⟨id, hid⟩ := Option.isSome_iff_exists.mp
    (show (allocatedAt allocatedTwice 0).isSome = true by decide +kernel)
  have hne := (attempt_ids_unique allocatedTwice (fun _ => ⟨"mission", by decide⟩)
      hmission).1 0 2 id
    hid (hsame ▸ hid)
  omega

end RoboGuide.Runtime
