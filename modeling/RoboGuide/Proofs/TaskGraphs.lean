import RoboGuide.Domain.Plan
import RoboGuide.Lib.Acyclic

/-!
# `RoboGuide.Proofs.TaskGraphs`: accepted Task Graphs are the acyclic ones

`TaskGraph::new` peels off the Tasks without open prerequisites until none is left. The loop ends
without Tasks exactly when the dependencies have no cycle: a cycle is never peeled, and without
cycles some Task of every nonempty rest has no prerequisite in it (`exists_sink`). The same Task
shows that work never gets stuck: as long as a Task is open, one is ready.
-/

namespace RoboGuide.Domain

open Lib Relation List

/-! ### The loop -/

section

variable {remaining : List (TaskId × List TaskId)} {a : TaskId} {fuel : Nat}

/-- A Task of the rest has the other as an open prerequisite. -/
def Awaits (remaining : List (TaskId × List TaskId)) (a b : TaskId) : Prop :=
  ∃ ds, (a, ds) ∈ remaining ∧ b ∈ ds

def peeled (remaining : List (TaskId × List TaskId)) : List TaskId :=
  (remaining.filter (·.2.isEmpty)).map (·.1)

def rest (remaining : List (TaskId × List TaskId)) : List (TaskId × List TaskId) :=
  (remaining.filter fun e => !(peeled remaining).contains e.1).map
    fun e => (e.1, e.2.filter fun d => !(peeled remaining).contains d)

lemma mem_peeled : a ∈ peeled remaining ↔ (a, []) ∈ remaining := by simp [peeled]

lemma mem_rest {ds : List TaskId} : (a, ds) ∈ rest remaining ↔
    ∃ ds', (a, ds') ∈ remaining ∧ a ∉ peeled remaining ∧
      ds = ds'.filter fun d => !(peeled remaining).contains d := by
  constructor
  · intro h
    obtain ⟨⟨a', ds'⟩, hmem, heq⟩ := List.mem_map.mp h
    obtain ⟨rfl, rfl⟩ := Prod.mk.inj heq
    obtain ⟨hmem, hpeeled⟩ := List.mem_filter.mp hmem
    exact ⟨ds', hmem, by simpa using hpeeled, rfl⟩
  · rintro ⟨ds', hmem, hpeeled, rfl⟩
    exact List.mem_map.mpr ⟨(a, ds'), List.mem_filter.mpr ⟨hmem, by simpa using hpeeled⟩, rfl⟩

lemma keys_rest : (rest remaining).map (·.1) =
    (remaining.map (·.1)).filter fun a => !(peeled remaining).contains a := by
  simp [rest, filter_map, Function.comp_def]

lemma drainsWithin_succ (fuel : Nat) (e : TaskId × List TaskId)
    (es : List (TaskId × List TaskId)) : drainsWithin (fuel + 1) (e :: es) =
      if (peeled (e :: es)).isEmpty then false else drainsWithin fuel (rest (e :: es)) := rfl

/-- Tasks that await one another are never peeled, so the loop does not end without them. -/
lemma drains_acyclic (hnodup : (remaining.map (·.1)).Nodup)
    (h : drainsWithin fuel remaining = true) : Acyclic (Awaits remaining) := by
  have hnil : Acyclic (Awaits []) := by
    intro a hcycle
    obtain ⟨_, ⟨_, hmem, _⟩, _⟩ := TransGen.head'_iff.mp hcycle
    cases hmem
  induction fuel generalizing remaining with
  | zero =>
    cases remaining with
    | nil => exact hnil
    | cons => cases h
  | succ fuel ih =>
    cases remaining with
    | nil => exact hnil
    | cons e es =>
      rw [drainsWithin_succ] at h
      split at h
      · cases h
      have hrest := ih (by rw [keys_rest]; exact hnodup.filter _) h
      have hkept : ∀ a b, Awaits (e :: es) a b → a ∉ peeled (e :: es) := by
        rintro a b ⟨ds, hmem, hb⟩ hpeeled
        have hsame := inj_on_of_nodup_map hnodup hmem (mem_peeled.mp hpeeled) rfl
        rw [(Prod.mk.inj hsame).2] at hb
        cases hb
      -- both ends of an edge of a cycle await something, so the edge is kept
      have hedge : ∀ a b, TransGen (Awaits (e :: es)) b b → Awaits (e :: es) a b →
          Awaits (rest (e :: es)) a b := by
        rintro a b hcycle ⟨ds, hmem, hb⟩
        obtain ⟨c, hbc, -⟩ := TransGen.head'_iff.mp hcycle
        refine ⟨_, mem_rest.mpr ⟨ds, hmem, hkept a b ⟨ds, hmem, hb⟩, rfl⟩, ?_⟩
        exact List.mem_filter.mpr ⟨hb, by simpa using hkept b c hbc⟩
      have hpath : ∀ a b, TransGen (Awaits (e :: es)) a b →
          ReflTransGen (Awaits (e :: es)) b a →
          TransGen (Awaits (rest (e :: es))) a b := by
        intro a b hab
        induction hab with
        | single hab => exact fun hback => .single (hedge _ _ (.tail' hback hab) hab)
        | tail hab hbc ih =>
          intro hback
          have hcycle := TransGen.tail' (hback.trans hab.to_reflTransGen) hbc
          exact .tail (ih (.head hbc hback)) (hedge _ _ hcycle hbc)
      exact fun a hcycle => hrest a (hpath a a hcycle .refl)

lemma drains_of_acyclic (hacyclic : Acyclic (Awaits remaining))
    (hclosed : ∀ a b, Awaits remaining a b → b ∈ remaining.map (·.1))
    (hfuel : remaining.length ≤ fuel) : drainsWithin fuel remaining = true := by
  induction fuel generalizing remaining with
  | zero =>
    obtain rfl := eq_nil_of_length_eq_zero (Nat.le_zero.mp hfuel)
    rfl
  | succ fuel ih =>
    cases remaining with
    | nil => rfl
    | cons e es =>
      obtain ⟨a, ha, hsink⟩ := hacyclic.exists_sink ((e :: es).map (·.1)) (by simp)
      obtain ⟨⟨a, ds⟩, hmem, rfl⟩ := List.mem_map.mp ha
      have hpeeled : a ∈ peeled (e :: es) := by
        cases ds with
        | nil => exact mem_peeled.mpr hmem
        | cons d ds =>
          have hawaits : Awaits (e :: es) a d := ⟨d :: ds, hmem, mem_cons_self⟩
          exact absurd hawaits (hsink d (hclosed a d hawaits))
      have hne := ne_nil_of_mem hpeeled
      rw [drainsWithin_succ, if_neg (by simpa using hne)]
      have hawaits : ∀ b c, Awaits (rest (e :: es)) b c →
          Awaits (e :: es) b c ∧ c ∉ peeled (e :: es) := by
        rintro b c ⟨ds, hmem, hc⟩
        obtain ⟨ds', hmem', -, rfl⟩ := mem_rest.mp hmem
        obtain ⟨hc, hkept⟩ := List.mem_filter.mp hc
        exact ⟨⟨ds', hmem', hc⟩, by simpa using hkept⟩
      refine ih (hacyclic.mono fun b c h => (hawaits b c h).1) (fun b c hbc => ?_) ?_
      · obtain ⟨hbc, hkept⟩ := hawaits b c hbc
        rw [keys_rest]
        exact List.mem_filter.mpr ⟨hclosed b c hbc, by simpa using hkept⟩
      · have hlt : (rest (e :: es)).length < (e :: es).length := by
          rw [rest, length_map, length_filter_lt_length_iff_exists]
          exact ⟨(a, []), mem_peeled.mp hpeeled, by simpa using hpeeled⟩
        omega

end

/-! ### Graphs -/

section

variable {tasks : List PlannedTask}

def DependsOn (tasks : List PlannedTask) (a b : TaskId) : Prop :=
  ∃ t ∈ tasks, t.taskId = a ∧ b ∈ t.dependencies

/-- The graphs a Mission can have. -/
structure WellFormed (mission : MissionId) (tasks : List PlannedTask) : Prop where
  nonempty : tasks ≠ []
  owned : ∀ t ∈ tasks, t.taskRef.missionId = mission
  distinct : (tasks.map (·.taskId)).Nodup
  declared : ∀ t ∈ tasks, ∀ d ∈ t.dependencies, ∃ t' ∈ tasks, t'.taskId = d
  acyclic : Acyclic (DependsOn tasks)

lemma taskGraphValid_iff (mission : MissionId) :
    taskGraphValid mission tasks = true ↔ WellFormed mission tasks := by
  have hkeys : (tasks.map fun t => (t.taskId, t.dependencies)).map (·.1) =
      tasks.map (·.taskId) := by
    simp
  have hsame : ∀ a b, Awaits (tasks.map fun t => (t.taskId, t.dependencies)) a b ↔
      DependsOn tasks a b := by
    simp [Awaits, DependsOn, and_assoc]
  simp only [taskGraphValid, Bool.and_eq_true, all_eq_true, decide_eq_true_eq, beq_iff_eq,
    contains_iff_mem, mem_map, Bool.not_eq_true', isEmpty_eq_false_iff, and_assoc]
  constructor
  · rintro ⟨hne, howned, hnodup, hknown, hdrains⟩
    refine ⟨hne, howned, hnodup, hknown, ?_⟩
    exact (drains_acyclic (hkeys ▸ hnodup) hdrains).mono fun a b => (hsame a b).mpr
  · intro h
    refine ⟨h.nonempty, h.owned, h.distinct, h.declared, ?_⟩
    refine drains_of_acyclic (h.acyclic.mono fun a b => (hsame a b).mp) (fun a b hab => ?_)
      (by simp)
    obtain ⟨t, ht, -, hb⟩ := (hsame a b).mp hab
    rw [hkeys]
    exact List.mem_map.mpr (h.declared t ht b hb)

/-- As long as a Task is open, one is ready. -/
lemma ready_of_open (hacyclic : Acyclic (DependsOn tasks))
    (hknown : ∀ t ∈ tasks, ∀ d ∈ t.dependencies, ∃ t' ∈ tasks, t'.taskId = d)
    (completed : OrdSet TaskId) : (∀ t ∈ tasks, completed.contains t.taskId = true) ∨
      TaskGraph.readyTasks tasks completed ≠ [] := by
  by_cases hall : ∀ t ∈ tasks, completed.contains t.taskId = true
  · exact .inl hall
  right
  obtain ⟨t₀, ht₀, hopen₀⟩ : ∃ t ∈ tasks, ¬ completed.contains t.taskId = true := by
    simpa using hall
  obtain ⟨a, ha, hsink⟩ := hacyclic.exists_sink
    ((tasks.filter fun t => !completed.contains t.taskId).map (·.taskId))
    (ne_nil_of_mem (mem_map_of_mem (List.mem_filter.mpr ⟨ht₀, by simpa using hopen₀⟩)))
  obtain ⟨t, ht, rfl⟩ := List.mem_map.mp ha
  obtain ⟨ht, hopen⟩ := List.mem_filter.mp ht
  refine ne_nil_of_mem (a := t) (List.mem_filter.mpr ⟨ht, ?_⟩)
  rw [hopen, Bool.true_and, all_eq_true]
  intro d hd
  obtain ⟨t', ht', rfl⟩ := hknown t ht d hd
  by_contra hd'
  exact hsink t'.taskId (mem_map_of_mem (List.mem_filter.mpr ⟨ht', by simpa using hd'⟩))
    ⟨t, ht, rfl, hd⟩

/-- The completed Tasks after `n` rounds that complete every ready Task. -/
def completedAfter (tasks : List PlannedTask) : Nat → OrdSet TaskId
  | 0 => ∅
  | n + 1 => ((TaskGraph.readyTasks tasks (completedAfter tasks n)).map (·.taskId)).foldl
      (fun completed id => completed.insert id ()) (completedAfter tasks n)

/-- Every round completes a Task until none is open. -/
lemma open_le (hready : ∀ completed : OrdSet TaskId,
      (∀ t ∈ tasks, completed.contains t.taskId = true) ∨ TaskGraph.readyTasks tasks completed ≠ [])
    (n : Nat) : (tasks.filter fun t => !(completedAfter tasks n).contains t.taskId).length ≤
      tasks.length - n := by
  induction n with
  | zero => exact length_filter_le ..
  | succ n =>
    have hgrows : ∀ id, (completedAfter tasks (n + 1)).contains id = true ↔
        (completedAfter tasks n).contains id = true ∨
          id ∈ (TaskGraph.readyTasks tasks (completedAfter tasks n)).map (·.taskId) :=
      fun id => OrdSet.contains_foldl_insert id _ _
    -- what is open after a round was open before it
    have hopen : (tasks.filter fun t => !(completedAfter tasks (n + 1)).contains t.taskId) =
        (tasks.filter fun t => !(completedAfter tasks n).contains t.taskId).filter
          fun t => !(completedAfter tasks (n + 1)).contains t.taskId := by
      rw [filter_filter]
      refine filter_congr fun t _ => ?_
      have := (hgrows t.taskId).mpr ∘ .inl
      grind
    rcases hready (completedAfter tasks n) with hall | hne
    · have hnone : (tasks.filter fun t => !(completedAfter tasks n).contains t.taskId) = [] := by
        simpa using hall
      rw [hopen, hnone]
      exact Nat.zero_le _
    · obtain ⟨t, ht⟩ := exists_mem_of_ne_nil _ hne
      have hdone := (hgrows t.taskId).mpr (.inr (mem_map_of_mem ht))
      obtain ⟨hmem, hcond⟩ := List.mem_filter.mp ht
      have hlt : (tasks.filter fun t => !(completedAfter tasks (n + 1)).contains t.taskId).length <
          (tasks.filter fun t => !(completedAfter tasks n).contains t.taskId).length := by
        rw [hopen, length_filter_lt_length_iff_exists]
        exact ⟨t, List.mem_filter.mpr ⟨hmem, (Bool.and_eq_true_iff.mp hcond).1⟩, by simp [hdone]⟩
      omega

end

/-- `TaskGraph::new` accepts the nonempty graphs of one Mission with distinct Tasks, declared
dependencies and no cycle. In an accepted graph an open Task means a ready one, so completing what
is ready completes the Mission. -/
theorem task_graph_accepted_iff (mission : MissionId) (tasks : List PlannedTask) :
    (taskGraphValid mission tasks = true ↔ WellFormed mission tasks) ∧
    (taskGraphValid mission tasks = true →
      (∀ completed : OrdSet TaskId, (∀ t ∈ tasks, completed.contains t.taskId = true) ∨
        TaskGraph.readyTasks tasks completed ≠ []) ∧
      ∀ t ∈ tasks, (completedAfter tasks tasks.length).contains t.taskId = true) := by
  refine ⟨taskGraphValid_iff mission, fun hvalid => ?_⟩
  have h := (taskGraphValid_iff mission).mp hvalid
  have hready := ready_of_open h.acyclic h.declared
  refine ⟨hready, ?_⟩
  have hopen := open_le hready tasks.length
  rw [Nat.sub_self, Nat.le_zero, length_eq_zero_iff, filter_eq_nil_iff] at hopen
  simpa using hopen

end RoboGuide.Domain
