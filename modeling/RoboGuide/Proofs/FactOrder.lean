import RoboGuide.Proofs.NoReplay

/-!
# `RoboGuide.Proofs.FactOrder`: facts about an attempt in any order

A Node numbers its facts about an attempt, and a terminal one is its last. However they are ordered
and repeated on their way, `observe_execution` never refuses one, ends with the status of the
greatest number and reports the outcome of the Role once. What is kept along a delivery is
`Reduced`.
-/

namespace RoboGuide.Runtime

open Domain Lib Fallible RuntimeExecutionManager AttemptLedger List

structure NodeFact where
  sequence : Nat
  status : ExecutionStatus
  reason : String
deriving DecidableEq

/-- The facts of a Node: numbers are used once, and nothing follows a terminal fact. -/
structure NodeStream (facts : List NodeFact) : Prop where
  distinct : ∀ f ∈ facts, ∀ g ∈ facts, f.sequence = g.sequence → f = g
  final : ∀ f ∈ facts, f.status.isTerminal = true → ∀ g ∈ facts, g.sequence ≤ f.sequence

/-- A dispatched attempt about which no fact arrived. -/
structure Awaited (a : AttemptLedger) (id : ExecutionId) (node : NodeId) : Prop where
  command : ∃ context, a.executions.get? id = some context ∧ context.command.nodeId = node
  owner : ∀ expected, a.executionNodes.get? id = some expected → expected = node
  unnumbered : a.executionSequences.get? id = none
  isOpen : a.isTerminal id = false

/-- The facts are observed one after the other; their events follow those collected. -/
def observeAll (id : ExecutionId) (node : NodeId) (delivery : List NodeFact)
    (events : List ExecutionEvent) : RuntimeOp (List ExecutionEvent) :=
  delivery.foldlM (fun events f => do
    let new ← observeExecution id node f.sequence f.status f.reason
    pure (events ++ new)) events

def ExecutionEvent.isRoleOutcome : ExecutionEvent → Bool
  | roleCompleted _ | roleFailed _ _ => true
  | _ => false

section

variable {m m' : RuntimeExecutionManager} {id : ExecutionId} {node : NodeId}
  {done : List NodeFact} {events : List ExecutionEvent} {f : NodeFact}

lemma refreshKeys_no_outcome (m : RuntimeExecutionManager) (keys : List RelationKey) :
    (m.refreshKeys keys).2.countP (·.isRoleOutcome) = 0 := by
  induction keys generalizing m with
  | nil => rfl
  | cons key keys ih =>
    have hfirst : (m.refreshRelation key).2.countP (·.isRoleOutcome) = 0 := by
      rw [refreshRelation]
      split
      · rfl
      · simp only [relationEvents]
        split
        · rfl
        · split <;> rfl
    rw [refreshKeys, countP_append, hfirst, ih]

lemma reduceFact_outcomes (m : RuntimeExecutionManager) (id : ExecutionId) (node : NodeId)
    (status : ExecutionStatus) (reason : String) :
    (m.reduceFact id node status reason).2.countP (·.isRoleOutcome) ≤
      if status.isTerminal = true then 1 else 0 := by
  rw [reduceFact]
  split
  · simp only
    split
    · next h => simp [h, ExecutionEvent.isRoleOutcome]
    · simp
  · next context _ =>
    split
    · simp only [reduceCurrent, countP_append, refreshRelationsForSlot, refreshKeys_no_outcome]
      have hactivation : (if status.provesActivation = true then
          m.activationEvents id context.command else []).countP (·.isRoleOutcome) = 0 := by
        rw [activationEvents]
        split
        · split <;> rfl
        · rfl
      rw [hactivation]
      cases status <;> simp [roleEvents, ExecutionEvent.isRoleOutcome, ExecutionStatus.isTerminal]
    · simp

/-- What holds after the facts `done` were observed, with the events they caused. -/
structure Reduced (m : RuntimeExecutionManager) (id : ExecutionId) (node : NodeId)
    (done : List NodeFact) (events : List ExecutionEvent) : Prop where
  command : ∃ context, m.executions.get? id = some context ∧ context.command.nodeId = node
  owner : ∀ expected, m.executionNodes.get? id = some expected → expected = node
  last : done = [] ∧ m.executionSequences.get? id = none ∧ m.isTerminal id = false ∨
    ∃ f ∈ done, (∀ g ∈ done, g.sequence ≤ f.sequence) ∧
      m.executionSequences.get? id = some f.sequence ∧ m.statusOf id = some f.status
  outcomes : events.countP (·.isRoleOutcome) ≤ if m.isTerminal id = true then 1 else 0

/-- One more fact of the stream is stale or becomes the last one. -/
lemma Reduced.observe (h : Reduced m id node done events) (hstream : NodeStream (done ++ [f])) :
    ∃ new m', observeExecution id node f.sequence f.status f.reason m = .ok new m' ∧
      Reduced m' id node (done ++ [f]) (events ++ new) := by
  have hown : ((m.executionNodes.get? id).any fun expected => expected != node) = false := by
    cases hget : m.executionNodes.get? id with
    | none => rfl
    | some expected => simp [h.owner expected hget]
  obtain ⟨_, hcontext, hnode⟩ := h.command
  by_cases hstale : (m.executionSequences.get? id).any (fun current => f.sequence ≤ current) = true
  · have hvalid : m.validateFact id node f.sequence f.status = .ok false := by
      simp [validateFact, hown, hstale]
    refine ⟨[], m, ?_, h.command, h.owner, .inr ?_, by simpa using h.outcomes⟩
    · rw [observeExecution, run_get_bind, run_check_bind, hvalid]
      rfl
    · obtain ⟨-, hnone, -⟩ | ⟨g, hg, hmax, hsequence, hstatus⟩ := h.last
      · simp [hnone] at hstale
      · refine ⟨g, mem_append_left _ hg, ?_, hsequence, hstatus⟩
        simpa [or_imp, forall_and, hsequence] using ⟨hmax, by simpa [hsequence] using hstale⟩
  · have hopen : m.isTerminal id = false := by
      obtain ⟨-, -, hopen⟩ | ⟨g, hg, -, hsequence, hstatus⟩ := h.last
      · exact hopen
      · -- a terminal fact has the greatest number, so this one would be stale
        by_contra hterminal
        have hg' : g.status.isTerminal = true := by simpa [isTerminal, hstatus] using hterminal
        have hle := hstream.final g (mem_append_left _ hg) hg' f (by simp)
        simp [hsequence, hle] at hstale
    have hvalid : m.validateFact id node f.sequence f.status = .ok true := by
      simp [validateFact, hown, hstale, hopen, hcontext, hnode]
    refine ⟨((m.recordFact id node f.sequence f.status).reduceFact id node f.status f.reason).2,
      m.factState id node f.sequence f.status f.reason, ?_, ?_⟩
    · rw [observeExecution, run_get_bind, run_check_bind, hvalid]
      rfl
    have hledger : (m.factState id node f.sequence f.status f.reason).executions = m.executions ∧
        (m.factState id node f.sequence f.status f.reason).executionNodes =
          (m.observed id node f.sequence f.status).executionNodes ∧
        (m.factState id node f.sequence f.status f.reason).executionSequences =
          m.executionSequences.insert id f.sequence ∧
        (m.factState id node f.sequence f.status f.reason).executionStatus =
          m.executionStatus.insert id f.status := by
      rcases factState_attempts m id node f.sequence f.status f.reason with
          hfact | ⟨_, -, -, -, hfact⟩
      all_goals rw [hfact]; exact ⟨rfl, rfl, rfl, rfl⟩
    obtain ⟨hexecutions, hnodes, hsequences, hstatuses⟩ := hledger
    have hstatus : (m.factState id node f.sequence f.status f.reason).statusOf id =
        some f.status := by
      rw [statusOf, hstatuses, get?_insert_self]
    refine ⟨by rw [hexecutions]; exact h.command, fun expected hexpected => ?_,
      .inr ⟨f, by simp, fun g hg => ?_, by rw [hsequences, get?_insert_self], hstatus⟩, ?_⟩
    · rw [hnodes] at hexpected
      simp only [observed] at hexpected
      split at hexpected
      · exact h.owner expected hexpected
      · rw [get?_insert_self] at hexpected
        exact (Option.some.inj hexpected).symm
    · rcases mem_append.mp hg with hg | hg
      · obtain ⟨rfl, -⟩ | ⟨g', _, hmax, hsequence, -⟩ := h.last
        · cases hg
        · have hle := hmax g hg
          have hlt : g'.sequence < f.sequence := by simpa [hsequence] using hstale
          omega
      · rw [mem_singleton.mp hg]
    · have hnew := reduceFact_outcomes (m.recordFact id node f.sequence f.status) id node f.status
        f.reason
      have hold := h.outcomes
      rw [hopen] at hold
      rw [countP_append, isTerminal, hstatus]
      simp only [Bool.false_eq_true, if_false, Option.any_some] at hold ⊢
      omega

/-- A whole delivery, from any point of it on. -/
lemma Reduced.observeRest (h : Reduced m id node done events) (rest : List NodeFact)
    (hstream : NodeStream (done ++ rest)) :
      ∃ all m', observeAll id node rest events m = .ok all m' ∧
      Reduced m' id node (done ++ rest) all := by
  induction rest generalizing m done events with
  | nil => exact ⟨events, m, rfl, by simpa using h⟩
  | cons f rest ih =>
    have hassoc : done ++ f :: rest = done ++ [f] ++ rest := by simp
    rw [hassoc] at hstream ⊢
    obtain ⟨_, m₁, hrun, hreduced⟩ := h.observe
      ⟨fun a ha b hb => hstream.distinct a (mem_append_left _ ha) b (mem_append_left _ hb),
        fun a ha ht b hb => hstream.final a (mem_append_left _ ha) ht b
          (mem_append_left _ hb)⟩
    obtain ⟨all, m', hrest, hfinal⟩ := ih hreduced hstream
    refine ⟨all, m', ?_, hfinal⟩
    rw [observeAll, foldlM_cons, run_bind, run_bind, hrun]
    exact hrest

end

/-- However the facts of a Node are ordered and repeated, none is refused, the last one decides and
the Role's outcome is reported at most once. -/
theorem facts_confluent (m : RuntimeExecutionManager) (id : ExecutionId) (node : NodeId)
    (facts delivery : List NodeFact) (hawaited : Awaited m.toAttemptLedger id node)
    (hstream : NodeStream facts) (hdelivery : ∀ f, f ∈ delivery ↔ f ∈ facts) :
    ∃ events m', observeAll id node delivery [] m = .ok events m' ∧
      events.countP (·.isRoleOutcome) ≤ 1 ∧
      ∀ f ∈ facts, (∀ g ∈ facts, g.sequence ≤ f.sequence) →
        m'.statusOf id = some f.status ∧ m'.executionSequences.get? id = some f.sequence := by
  have hstart : Reduced m id node [] [] :=
    ⟨hawaited.command, hawaited.owner, .inl ⟨rfl, hawaited.unnumbered, hawaited.isOpen⟩,
      Nat.zero_le _⟩
  obtain ⟨events, m', hrun, h⟩ := hstart.observeRest delivery
    ⟨fun f hf g hg => hstream.distinct f ((hdelivery f).mp hf) g ((hdelivery g).mp hg),
      fun f hf ht g hg => hstream.final f ((hdelivery f).mp hf) ht g ((hdelivery g).mp hg)⟩
  refine ⟨events, m', hrun, h.outcomes.trans (by split <;> omega), fun f hf hmax => ?_⟩
  obtain ⟨hnone, -⟩ | ⟨g, hg, hgmax, hsequence, hstatus⟩ := h.last
  · have hf' := (hdelivery f).mpr hf
    rw [nil_append] at hnone
    rw [hnone] at hf'
    cases hf'
  · have hg' : g ∈ facts := (hdelivery g).mp hg
    have hle := hmax g hg'
    have hge := hgmax f ((hdelivery f).mpr hf)
    obtain rfl := hstream.distinct f hf g hg' (Nat.le_antisymm hge hle)
    exact ⟨hstatus, hsequence⟩

open Sample Replay in
/-- The completion overtakes an earlier fact and arrives twice. -/
theorem overtaken_completion_kept : Awaited crashed.toAttemptLedger "attempt" node ∧
    ∃ events m', observeAll "attempt" node
      [⟨2, .completed, ""⟩, ⟨1, .running, ""⟩, ⟨2, .completed, ""⟩] [] crashed = .ok events m' ∧
      events.countP (·.isRoleOutcome) ≤ 1 ∧ m'.statusOf "attempt" = some .completed := by
  have hawaited : Awaited crashed.toAttemptLedger "attempt" node :=
    ⟨⟨⟨command task node, []⟩, by decide +kernel, rfl⟩, by
      have hnode : crashed.executionNodes.get? "attempt" = some node := by decide +kernel
      simp [hnode], by decide +kernel, by decide +kernel⟩
  obtain ⟨events, m', hrun, honce, hlast⟩ := facts_confluent crashed "attempt" node
    [⟨1, .running, ""⟩, ⟨2, .completed, ""⟩]
    [⟨2, .completed, ""⟩, ⟨1, .running, ""⟩, ⟨2, .completed, ""⟩] hawaited
    ⟨by decide, by decide⟩ (by grind)
  exact ⟨hawaited, events, m', hrun, honce, (hlast ⟨2, .completed, ""⟩ (by simp) (by simp)).1⟩

end RoboGuide.Runtime
