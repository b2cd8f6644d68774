import RoboGuide.Runtime.Attempts

/-!
# `RoboGuide.Proofs.NoReplay`: a restored attempt is never sent again

`restore` gives no authority to repeat what a checkpoint already contains. An attempt that
was in a restored checkpoint has a status for ever, so `validate_dispatch` never routes it;
and its dispatch intent is pending at no time, because its status is not `Dispatched` unless
a Node reported so, which also proves delivery (`restored_execution_never_routed`).

Checkpoints are taken at any time and may be older than the state a crash interrupts: the
world keeps the checkpoint that was saved last, and a restore reads that one.
-/

namespace RoboGuide.Runtime

open Domain Lib Fallible RuntimeExecutionCheckpoint Bool OrdMap

variable {c : RuntimeExecutionCheckpoint} {m : RuntimeExecutionManager} {id : ExecutionId}

/-! ### Runs with saved checkpoints -/

structure RuntimeWorld where
  manager : RuntimeExecutionManager
  saved : RuntimeExecutionCheckpoint

inductive WorldEvent where
  | call (call : RuntimeCall)
  | save
  | restore

/-- One event. A refused checkpoint leaves the process down. -/
def RuntimeWorld.step (w : RuntimeWorld) : WorldEvent → RuntimeWorld
  | .call call => { w with manager := w.manager.step call }
  | .save => { w with saved := w.manager.checkpoint }
  | .restore =>
    match Runtime.restore w.saved with
    | .ok m => { w with manager := m }
    | .error _ => w

abbrev RuntimeWorld.Run : RuntimeWorld → RuntimeWorld → Prop :=
  Reaches RuntimeWorld.step fun _ _ => True

def RuntimeExecutionCheckpoint.Contains (c : RuntimeExecutionCheckpoint) (id : ExecutionId) :
    Prop :=
  c.executionStatus.contains id = true ∨ c.executions.contains id = true ∨
    c.executionSequences.contains id = true ∨ id ∈ c.activeExecutions.map (·.2) ∨
    id ∈ c.dispatchOutbox.map (·.executionId) ∨ c.cancellationIntents.contains id = true ∨
    c.terminalReceivedAt.contains id = true

/-! ### The invariant -/

/-- The attempt is known and will not be sent again. -/
structure Retired (id : ExecutionId) (a : AttemptLedger) : Prop where
  known : a.executionStatus.contains id = true
  keyed : ∀ k intent, a.dispatchOutbox.get? k = some intent → intent.executionId = k
  quiet : ∀ intent, a.dispatchOutbox.get? id = some intent →
    intent.delivered = true ∨ a.statusOf id ≠ some .dispatched

namespace Retired

variable {a : AttemptLedger} {a' : AttemptLedger}

lemma modify (h : Retired id a) (id' : ExecutionId) (f : DispatchIntent → DispatchIntent)
    (hid : ∀ i, (f i).executionId = i.executionId)
    (hdelivered : ∀ i, i.delivered = true → (f i).delivered = true) :
    Retired id { a with dispatchOutbox := a.dispatchOutbox.modify id' f } := by
  refine ⟨h.known, fun k intent hget => ?_, fun intent hget => ?_⟩
  · rw [get?_modify] at hget
    split at hget
    · obtain ⟨old, hold, rfl⟩ := Option.map_eq_some_iff.mp hget
      rw [hid]
      exact h.keyed k old hold
    · exact h.keyed k intent hget
  · rw [get?_modify] at hget
    split at hget
    · obtain ⟨old, hold, rfl⟩ := Option.map_eq_some_iff.mp hget
      exact (h.quiet old hold).imp_left (hdelivered old)
    · exact h.quiet intent hget

lemma observed (h : Retired id a) (id' : ExecutionId) (node : NodeId) (sequence : Nat)
    (status : ExecutionStatus) : Retired id (a.observed id' node sequence status) := by
  have hdelivered : Retired id (a.delivered id') := h.modify id' _ (fun _ => rfl) (fun _ _ => rfl)
  refine ⟨?_, hdelivered.keyed, fun intent hget => ?_⟩
  · show (a.executionStatus.insert id' status).contains id = true
    rw [contains_insert, h.known, Bool.or_true]
  · by_cases hid : id = id'
    · subst hid
      left
      have hget' : (a.dispatchOutbox.modify id fun i => { i with delivered := true }).get? id =
          some intent := hget
      rw [get?_modify, if_pos rfl] at hget'
      obtain ⟨_, -, rfl⟩ := Option.map_eq_some_iff.mp hget'
      rfl
    · refine (hdelivered.quiet intent hget).imp_right fun hne => ?_
      show (a.executionStatus.insert id' status).get? id ≠ _
      rw [get?_insert_of_ne hid]
      exact hne

lemma move (h : Retired id a) (hmove : AttemptMove a a') : Retired id a' := by
  cases hmove with
  | prepared id' command resources hroute =>
    -- a routable identity has no status, so it is another one
    have hne : id ≠ id' := by
      rintro rfl
      have := h.known
      rw [contains, hroute.noStatus] at this
      cases this
    refine ⟨?_, fun k intent hget => ?_, fun intent hget => ?_⟩
    · show (a.executionStatus.insert id' _).contains id = true
      rw [contains_insert, h.known, Bool.or_true]
    · rcases insert_cases hget with ⟨rfl, rfl⟩ | ⟨-, hget⟩
      exacts [rfl, h.keyed k intent hget]
    · have hget' : (a.dispatchOutbox.insert id' _).get? id = some intent := hget
      rw [get?_insert_of_ne hne] at hget'
      refine (h.quiet intent hget').imp_right fun hs => ?_
      show (a.executionStatus.insert id' _).get? id ≠ _
      rw [get?_insert_of_ne hne]
      exact hs
  | delivered id' => exact h.modify id' _ (fun _ => rfl) (fun _ _ => rfl)
  | counted id' => exact h.modify id' _ (fun _ => rfl) (fun _ hd => hd)
  | lost id' =>
    refine ⟨?_, h.keyed, fun intent hget => ?_⟩
    · show (a.executionStatus.insert id' _).contains id = true
      rw [contains_insert, h.known, Bool.or_true]
    · refine (h.quiet intent hget).imp_right fun hs => ?_
      show (a.executionStatus.insert id' .unknown).get? id ≠ _
      rw [get?_insert]
      split
      · simp
      · exact hs
  | fact id' node sequence status => exact h.observed id' node sequence status
  | timedFact id' node sequence status =>
    have hobs := h.observed id' node sequence status
    exact ⟨hobs.known, hobs.keyed, hobs.quiet⟩
  | activated | cancelled | allocated => exact ⟨h.known, h.keyed, h.quiet⟩

lemma moves (h : Retired id a)
    (hmoves : Relation.ReflTransGen AttemptMove a a') : Retired id a' := by
  induction hmoves with
  | refl => exact h
  | tail _ hmove ih => exact ih.move hmove

lemma not_routed (h : Retired id m.toAttemptLedger)
    (command : ExecutionCommand) (resources : List ResourceId) :
    m.validateDispatch id command resources ≠ .ok .route := by
  intro hroute
  have := h.known
  rw [contains, (routable_of_route hroute).noStatus] at this
  cases this

lemma not_pending (h : Retired id m.toAttemptLedger) :
    ∀ intent ∈ m.pendingDispatchIntents, intent.executionId ≠ id := by
  rintro intent hmem rfl
  rw [RuntimeExecutionManager.pendingDispatchIntents] at hmem
  obtain ⟨hvalue, htest⟩ := List.mem_filter.mp hmem
  simp only [and_eq_true, not_eq_true', beq_iff_eq] at htest
  obtain ⟨k, hk⟩ := mem_values_iff.mp hvalue
  obtain rfl := h.keyed k intent hk
  rcases h.quiet intent hk with hd | hs
  · rw [htest.1.1] at hd
    cases hd
  · exact hs htest.2

end Retired

/-! ### Restoring -/

lemma status_of_contains (h : restore c = .ok m) (hid : c.Contains id) :
    c.executionStatus.contains id = true := by
  obtain ⟨_, hassembled, -⟩ := restore_ok h
  obtain ⟨htimes, hvalid, -⟩ := rebuild_ok hassembled
  rw [validate] at hvalid
  simp only [bind_eq_ok] at hvalid
  obtain ⟨_, _, _, _, _, houtbox, _, hcancel, _, hexec, _, hactive, _, hsequences, _⟩ := hvalid
  -- every attempt with a context has a status
  have hcontext : c.executions.contains id = true → c.executionStatus.contains id = true := by
    intro hc
    obtain ⟨context, hget⟩ := contains_eq_true_iff.mp hc
    have hone := forM_eq_ok.mp hexec (id, context) (mem_entries_iff.mpr hget)
    simp only [validateExecution] at hone
    split at hone
    · simp at hone
    · simp only [bind_eq_ok, refuse_eq_ok] at hone
      obtain ⟨_, _, _, _, _, _, hs⟩ := hone
      simpa using hs
  rcases hid with hs | hc | hseq | hact | hout | hcan | hterm
  · exact hs
  · exact hcontext hc
  · obtain ⟨n, hget⟩ := contains_eq_true_iff.mp hseq
    have hone := forM_eq_ok.mp hsequences id (mem_keys_iff.mpr ⟨n, hget⟩)
    simpa [validateSequence] using hone
  · obtain ⟨active, hmem, rfl⟩ := List.mem_map.mp hact
    have hone := forM_eq_ok.mp hactive active hmem
    simp only [validateActive, bind_eq_ok, okOr_eq_ok] at hone
    obtain ⟨context, hget, -⟩ := hone
    exact hcontext (contains_eq_true_iff.mpr ⟨context, hget⟩)
  · obtain ⟨intent, hmem, rfl⟩ := List.mem_map.mp hout
    obtain ⟨l, r, hsplit⟩ := List.append_of_mem hmem
    have hone := checkAgainstEarlier_eq_ok.mp houtbox l intent r hsplit
    simp only [bind_eq_ok, okOr_eq_ok] at hone
    obtain ⟨context, hget, -⟩ := hone
    exact hcontext (contains_eq_true_iff.mpr ⟨context, hget⟩)
  · obtain ⟨⟨⟩, hget⟩ := contains_eq_true_iff.mp hcan
    rw [validateCancellations, refuse_eq_ok] at hcancel
    refine hcontext ?_
    have := List.any_eq_false.mp hcancel id (mem_keys_iff.mpr ⟨(), hget⟩)
    simpa using this
  · obtain ⟨t, hget⟩ := contains_eq_true_iff.mp hterm
    have hone := forM_eq_ok.mp htimes id (mem_keys_iff.mpr ⟨t, hget⟩)
    simp only [refuse_eq_ok, or_eq_false_iff, not_eq_false'] at hone
    exact hcontext hone.1

lemma retired_of_restore (h : restore c = .ok m) (hid : c.Contains id) :
    Retired id m.toAttemptLedger := by
  have hledger := restore_ledger h
  have hstatus := status_of_contains h hid
  refine ⟨?_, fun k intent hget => ?_, fun intent _ => .inr ?_⟩
  · rw [hledger.executionStatus, contains, get?_mapValues, Option.isSome_map]
    exact hstatus
  · rw [hledger.dispatchOutbox] at hget
    obtain ⟨_, -, he⟩ := List.mem_map.mp (mem_of_get?_ofList hget)
    obtain ⟨rfl, rfl⟩ := Prod.mk.inj he
    rfl
  · rw [AttemptLedger.statusOf, hledger.executionStatus, get?_mapValues]
    cases c.executionStatus.get? id with
    | none => simp
    | some status => cases status <;> simp [ExecutionStatus.restored, ExecutionStatus.isTerminal]

lemma Retired.step (h : Retired id m.toAttemptLedger) (call : RuntimeCall) :
    Retired id (m.step call).toAttemptLedger := by
  have heffect := effect_step m call
  by_cases hcall : call = .restart
  · subst hcall
    generalize m.step .restart = m' at heffect
    cases heffect with
    | unchanged => exact h
    | restarted _ hrestore => exact retired_of_restore hrestore (.inl h.known)
  · exact h.moves (heffect.attempts hcall)

/-! ### The theorem -/

/-- Once an attempt is in a checkpoint that was restored, no later event makes the runtime
route it or list its intent as pending: not facts (a `Dispatched` one included), receipts or
cancellations, and not further restarts from the checkpoints saved since. -/
theorem restored_execution_never_routed {c : RuntimeExecutionCheckpoint}
    {m : RuntimeExecutionManager} (hrestore : restore c = .ok m) {id : ExecutionId}
    (hid : c.Contains id) {w : RuntimeWorld} (hrun : RuntimeWorld.Run ⟨m, c⟩ w) :
    (∀ command resources, w.manager.validateDispatch id command resources ≠ .ok .route) ∧
      (∀ command resources m', prepareDispatch id command resources w.manager ≠ .ok .route m') ∧
      ∀ intent ∈ w.manager.pendingDispatchIntents, intent.executionId ≠ id := by
  have hinv : Retired id w.manager.toAttemptLedger ∧ w.saved.Contains id := by
    refine hrun.invariant (P := fun w => Retired id w.manager.toAttemptLedger ∧ w.saved.Contains id)
      ⟨retired_of_restore hrestore hid, hid⟩ ?_
    rintro w event ⟨hretired, hsaved⟩ -
    cases event with
    | call call => exact ⟨hretired.step call, hsaved⟩
    | save => exact ⟨hretired, .inl hretired.known⟩
    | restore =>
      rw [RuntimeWorld.step]
      split
      · next m' hm' => exact ⟨retired_of_restore hm' hsaved, hsaved⟩
      · exact ⟨hretired, hsaved⟩
  refine ⟨hinv.1.not_routed, fun command resources m' hprepare => ?_, hinv.1.not_pending⟩
  -- `prepare_dispatch` routes only what `validate_dispatch` routes
  rw [prepareDispatch, run_get_bind, run_check_bind] at hprepare
  cases hdecision : w.manager.validateDispatch id command resources with
  | error => simp [hdecision] at hprepare
  | ok decision =>
    cases decision with
    | alreadyRouted => simp [hdecision] at hprepare
    | route => exact hinv.1.not_routed command resources hdecision

namespace Replay

open Sample

/-- One attempt was prepared and never delivered when the controller went down. -/
def crashed : RuntimeExecutionManager :=
  RuntimeExecutionManager.new.step (.prepareDispatch "attempt" (command task node) [])

/-- After the restart the Node reports that the command has been dispatched to it. -/
def report : WorldEvent := .call (.observeExecution "attempt" node 1 .dispatched "")

end Replay

open Sample Replay in
/-- The undelivered attempt is pending before the restart; after it, and after the Node's
report, it is neither routed nor pending. -/
theorem undelivered_attempt_not_replayed :
    crashed.pendingDispatchIntents.map (·.executionId) = ["attempt"] ∧
      ∃ m, restore crashed.checkpoint = .ok m ∧
        (∀ c resources,
          (m.step (.observeExecution "attempt" node 1 .dispatched "")).validateDispatch
          "attempt" c resources ≠ .ok .route) ∧
        ∀ intent ∈ (m.step
          (.observeExecution "attempt" node 1 .dispatched "")).pendingDispatchIntents,
          intent.executionId ≠ "attempt" := by
  refine ⟨by decide +kernel, ?_⟩
  have hok : (restore crashed.checkpoint).isOk = true := by decide +kernel
  match hm : restore crashed.checkpoint with
  | .error _ => simp [hm, Except.isOk, Except.toBool] at hok
  | .ok m =>
    have hrun : RuntimeWorld.Run ⟨m, crashed.checkpoint⟩
        ⟨m.step (.observeExecution "attempt" node 1 .dispatched ""), crashed.checkpoint⟩ :=
      .tail report .refl trivial
    have hcontains : crashed.checkpoint.Contains "attempt" := .inl (by decide +kernel)
    obtain ⟨hroute, -, hpending⟩ := restored_execution_never_routed hm hcontains hrun
    exact ⟨m, rfl, hroute, hpending⟩

end RoboGuide.Runtime
