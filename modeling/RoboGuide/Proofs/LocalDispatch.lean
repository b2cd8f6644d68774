import RoboGuide.NodeService.Process

/-!
# `RoboGuide.Proofs.LocalDispatch`: an execution is dispatched at most once

Four tables and a recovery pass decide whether the local system is called. Over every run of
the Node, with any number of lifetimes and stops at any point (`localDispatch_once`):

* `prepare_dispatch` returns `Start` at most once for an execution, and its specification is
  the stored one ever after;
* `authorize_local_dispatch` succeeds only in the lifetime that returned `Start`;
* after a cancellation that no authorisation precedes there is no authorisation;
* so the execute workflow starts at most once, and not after such a cancellation.

`DispatchInv` ties the tables to the log. Its heart is `dispatching`: a row in `Dispatching`
was started in the current lifetime, because a recovery leaves no such row, and `barred`: a
tombstone without an authorisation leaves none either.
-/

namespace RoboGuide.NodeService

open Domain Lib Fallible History
open List hiding contains_insert

variable {id : String}

/-- The entry is a `Start` of the execution. -/
def Entry.starts (id : String) : Entry → Bool
  | .started id' _ _ => id' == id
  | _ => false

def Entry.authorizes (id : String) (x : Entry) : Prop := ∃ n, x = .authorized id n

/-- What holds of the history of every Node. -/
structure DispatchedOnce (p : Process) : Prop where
  /-- `Start` is returned at most once. -/
  startsOnce : ∀ id, p.log.countP (Entry.starts id) ≤ 1
  /-- The specification of the `Start` is the stored one. -/
  specFixed : ∀ id spec n, Entry.started id spec n ∈ p.log →
    ∃ e, p.journal.executions.get? id = some e ∧ e.spec = spec
  /-- An authorisation follows the `Start` of its own lifetime. -/
  inLifetime : ∀ id n, Preceded (· = .authorized id n) (fun x => ∃ spec, x = .started id spec n)
    p.log
  /-- A cancellation that precedes every authorisation excludes them. -/
  cancellationBars : ∀ id, Bars (· = .cancelled id) (Entry.authorizes id) (Entry.authorizes id)
    p.log
  /-- The execute workflow starts at most once. -/
  executesOnce : ∀ id, p.log.count (.executed id) ≤ 1
  /-- It does not start after such a cancellation. -/
  cancellationStops : ∀ id, Bars (· = .cancelled id) (Entry.authorizes id) (· = .executed id)
    p.log

/-- The journal remembers what the log has seen of starts and cancellations. -/
structure DispatchInv (p : Process) : Prop where
  known : ∀ id spec n, Entry.started id spec n ∈ p.log →
    ∃ e, p.journal.executions.get? id = some e ∧ e.spec = spec
  startsOnce : ∀ id, p.log.countP (Entry.starts id) ≤ 1
  dispatching : ∀ id e, p.journal.executions.get? id = some e → e.status = .dispatching →
    .started id e.spec p.lifetime ∈ p.log
  authorized : ∀ id, p.journal.localDispatchAuthorizations.contains id = true →
    ∃ x ∈ p.log, Entry.authorizes id x
  cancelled : ∀ id, .cancelled id ∈ p.log → p.journal.cancellationIntents.contains id = true
  barred : ∀ id e, p.journal.cancellationIntents.contains id = true →
    p.journal.localDispatchAuthorizations.contains id = false →
    p.journal.executions.get? id = some e → e.status ≠ .dispatching
  inLifetime : ∀ id n, Preceded (· = .authorized id n) (fun x => ∃ spec, x = .started id spec n)
    p.log
  cancellationBars : ∀ id, Bars (· = .cancelled id) (Entry.authorizes id) (Entry.authorizes id)
    p.log
  afterAuthorization : ∀ id, Preceded (· = .executed id) (Entry.authorizes id) p.log
  spawned : ∀ id, p.dispatches.count id + p.log.count (.executed id) ≤
    p.log.countP (Entry.starts id)

lemma cancelled_not_authorizes
    (id : String) : ∀ y, y = .cancelled id → ¬ Entry.authorizes id y := by
  rintro y rfl ⟨n, h⟩
  cases h

lemma mem_of_concat {log : List Entry} {x e : Entry} (h : x ∈ log ++ [e]) (hne : x ≠ e) :
    x ∈ log := by
  simpa [hne] using h

namespace DispatchInv

variable {p : Process}

lemma dispatchedOnce (h : DispatchInv p) : DispatchedOnce p where
  startsOnce := h.startsOnce
  specFixed := h.known
  inLifetime := h.inLifetime
  cancellationBars := h.cancellationBars
  executesOnce id := by
    have hspawned := h.spawned id
    have hstarts := h.startsOnce id
    omega
  cancellationStops id :=
    (h.cancellationBars id).of_preceded (cancelled_not_authorizes id) (h.afterAuthorization id)

lemma initial : DispatchInv Process.initial where
  known _ _ _ h := by cases h
  startsOnce _ := Nat.zero_le 1
  dispatching _ _ h := by cases h
  authorized _ h := by cases h
  cancelled _ h := by cases h
  barred _ _ h := by cases h
  inLifetime _ _ := .nil
  cancellationBars _ := .nil
  afterAuthorization _ := .nil
  spawned _ := Nat.le_refl 0

variable (h : DispatchInv p)
include h

lemma ages {j : ExecutionJournal} (hj : Ages p.journal j) :
    DispatchInv { p with journal := j } where
  known id spec n hlog := by
    obtain ⟨e, he, hspec⟩ := h.known id spec n hlog
    obtain ⟨e', he', hages⟩ := hj.kept he
    exact ⟨e', he', hages.spec.trans hspec⟩
  startsOnce := h.startsOnce
  dispatching id e' hget hstatus := by
    obtain ⟨e, he, hages⟩ := hj.row hget
    rw [hages.spec]
    exact h.dispatching id e he (hages.dispatching hstatus)
  authorized id hauth := h.authorized id (hj.authorizations ▸ hauth)
  cancelled id hlog := hj.intents.symm ▸ h.cancelled id hlog
  barred id e' hintent hauth hget hstatus := by
    obtain ⟨e, he, hages⟩ := hj.row hget
    exact h.barred id e (hj.intents ▸ hintent) (hj.authorizations ▸ hauth) he
      (hages.dispatching hstatus)
  inLifetime := h.inLifetime
  cancellationBars := h.cancellationBars
  afterAuthorization := h.afterAuthorization
  spawned := h.spawned

lemma dropped {dispatches : List String} (isOpen : Bool)
    (hle : ∀ id, dispatches.count id ≤ p.dispatches.count id) :
    DispatchInv { p with isOpen, dispatches } :=
  { h with
    spawned := fun id => Nat.le_trans (Nat.add_le_add_right (hle id) _) (h.spawned id) }

lemma reopened : DispatchInv { p with
      journal := p.journal.recovered recoverAmbiguousDispatches
      isOpen := true, lifetime := p.lifetime + 1 } :=
  let hages := h.ages (ages_recovered p.journal fun _ hs => hs)
  { hages with
    dispatching := fun _ _ hget hstatus => absurd hstatus (recovered_not_dispatching hget) }

lemma not_started_of_new
    (hnew : p.journal.executions.get? id = none) : p.log.countP (Entry.starts id) = 0 := by
  rw [countP_eq_zero]
  intro x hx hstarts
  cases x with
  | started id' =>
    obtain rfl : id' = id := by simpa [Entry.starts] using hstarts
    obtain ⟨e, he, -⟩ := h.known _ _ _ hx
    cases hnew.symm.trans he
  | cancelled | authorized | executed => cases hstarts

lemma insertedCancelled (spec : ExecutionSpec)
    (hnew : p.journal.executions.get? id = none) : DispatchInv { p with
      journal := p.journal.setExecution id (dispatchingRow spec).cancelledBefore } :=
  have hrow : ∀ id' e, (p.journal.setExecution id
      (dispatchingRow spec).cancelledBefore).executions.get? id' = some e →
      e.status = .dispatching → p.journal.executions.get? id' = some e := by
    intro id' e hget hstatus
    rcases insert_cases hget with ⟨-, rfl⟩ | ⟨-, hget⟩
    · cases hstatus
    · exact hget
  { h with
    known := fun id' spec' n hlog => by
      obtain ⟨e, he, hspec⟩ := h.known id' spec' n hlog
      refine ⟨e, ?_, hspec⟩
      have hne : id' ≠ id := by
        rintro rfl
        cases hnew.symm.trans he
      exact (get?_insert_of_ne hne).trans he
    dispatching := fun id' e hget hstatus =>
      h.dispatching id' e (hrow id' e hget hstatus) hstatus
    barred := fun id' e hintent hauth hget hstatus =>
      h.barred id' e hintent hauth (hrow id' e hget hstatus) hstatus }

lemma authorized_concat {entry : Entry}
    (hauth : p.journal.localDispatchAuthorizations.contains id = true) :
    ∃ x ∈ p.log ++ [entry], Entry.authorizes id x := by
  obtain ⟨x, hx, hauthorizes⟩ := h.authorized id hauth
  exact ⟨x, mem_append_left _ hx, hauthorizes⟩

lemma started (spec : ExecutionSpec) (hnew : p.journal.executions.get? id = none)
    (hintent : p.journal.cancellationIntents.contains id = false) : DispatchInv { p with
      journal := p.journal.setExecution id (dispatchingRow spec)
      dispatches := id :: p.dispatches
      log := p.log ++ [.started id spec p.lifetime] } where
  known id' spec' n hlog := by
    show ∃ e, (p.journal.executions.insert id (dispatchingRow spec)).get? id' = some e ∧ _
    rw [get?_insert]
    rcases List.mem_append.mp hlog with hlog | hlog
    · obtain ⟨e, he, hspec⟩ := h.known id' spec' n hlog
      have hne : id' ≠ id := by
        rintro rfl
        cases hnew.symm.trans he
      exact ⟨e, by rw [if_neg hne, he], hspec⟩
    · obtain ⟨rfl, rfl, -⟩ := Entry.started.inj (List.mem_singleton.mp hlog)
      exact ⟨dispatchingRow spec', by rw [if_pos rfl], rfl⟩
  startsOnce id' := by
    rw [countP_append]
    by_cases hid : id' = id
    · subst hid
      rw [h.not_started_of_new hnew]
      simp [Entry.starts]
    · have hother : countP (Entry.starts id') [.started id spec p.lifetime] = 0 := by
        simp [Entry.starts, Ne.symm hid]
      rw [hother]
      exact h.startsOnce id'
  dispatching id' e hget hstatus := by
    rcases insert_cases hget with ⟨rfl, rfl⟩ | ⟨-, hget⟩
    · exact mem_append_right _ (List.mem_singleton.mpr rfl)
    · exact mem_append_left _ (h.dispatching id' e hget hstatus)
  authorized _ hauth := h.authorized_concat hauth
  cancelled id' hlog := h.cancelled id' (mem_of_concat hlog nofun)
  barred id' e hintent' hauth hget := by
    rcases insert_cases hget with ⟨rfl, -⟩ | ⟨-, hget⟩
    · exact absurd (hintent.symm.trans hintent') (by decide)
    · exact h.barred id' e hintent' hauth hget
  inLifetime id' n := (h.inLifetime id' n).concat fun hx => by cases hx
  cancellationBars id' := (h.cancellationBars id').concat (cancelled_not_authorizes id') <| by
    rintro ⟨n, hx⟩
    cases hx
  afterAuthorization id' := (h.afterAuthorization id').concat fun hx => by cases hx
  spawned id' := by
    have hspawned := h.spawned id'
    simp only [count_append, countP_append, count_cons]
    by_cases hid : id = id'
    · subst hid
      simp [Entry.starts]
      omega
    · simp [Entry.starts, hid]
      omega

lemma cancellationCommitted (id : String) : DispatchInv { p with
      journal := p.journal.withCancellation id, log := p.log ++ [.cancelled id] } where
  known id' spec n hlog := by
    rcases List.mem_append.mp hlog with hlog | hlog
    · obtain ⟨e, he, hspec⟩ := h.known id' spec n hlog
      obtain ⟨e', he'⟩ : ∃ e', (p.journal.withCancellation id).executions.get? id' = some e' := by
        simp only [ExecutionJournal.withCancellation, get?_modify]
        split
        · next hid => exact ⟨_, by rw [← hid, he]; rfl⟩
        · exact ⟨e, he⟩
      obtain ⟨e₀, he₀, hages, -⟩ := withCancellation_row he'
      cases he₀.symm.trans he
      exact ⟨e', he', hages.spec.trans hspec⟩
    · cases List.mem_singleton.mp hlog
  startsOnce id' := by
    rw [countP_append]
    exact h.startsOnce id'
  dispatching id' e' hget hstatus := by
    obtain ⟨e, he, hages, -⟩ := withCancellation_row hget
    rw [hages.spec]
    exact mem_append_left _ (h.dispatching id' e he (hages.dispatching hstatus))
  authorized _ hauth := h.authorized_concat hauth
  cancelled id' hlog := by
    show (p.journal.cancellationIntents.insert id ()).contains id' = true
    rw [contains_insert]
    rcases List.mem_append.mp hlog with hlog | hlog
    · simp [h.cancelled id' hlog]
    · cases List.mem_singleton.mp hlog
      simp
  barred id' e' hintent hauth hget hstatus := by
    obtain ⟨e, he, hages, hclosed⟩ := withCancellation_row hget
    by_cases hid : id' = id
    · exact hclosed hid (hid ▸ hauth) hstatus
    · have hold : p.journal.cancellationIntents.contains id' = true := by
        have hnew : (p.journal.cancellationIntents.insert id ()).contains id' = true := hintent
        rw [contains_insert] at hnew
        simpa [hid] using hnew
      exact h.barred id' e hold hauth he (hages.dispatching hstatus)
  inLifetime id' n := (h.inLifetime id' n).concat fun hx => by cases hx
  cancellationBars id' := (h.cancellationBars id').concat (cancelled_not_authorizes id') <| by
    rintro ⟨n, hx⟩
    cases hx
  afterAuthorization id' := (h.afterAuthorization id').concat fun hx => by cases hx
  spawned id' := by
    simp only [count_append, countP_append]
    exact h.spawned id'

lemma authorizationGranted {e : JournalExecution}
    (he : p.journal.executions.get? id = some e) (hstatus : e.status = .dispatching) :
    DispatchInv { p with
      journal := { p.journal with
        localDispatchAuthorizations := p.journal.localDispatchAuthorizations.insert id () }
      log := p.log ++ [.authorized id p.lifetime] } where
  known id' spec n hlog := h.known id' spec n (mem_of_concat hlog nofun)
  startsOnce id' := by
    rw [countP_append]
    exact h.startsOnce id'
  dispatching id' e' hget hstatus' := mem_append_left _ (h.dispatching id' e' hget hstatus')
  authorized id' hauth := by
    have hauth : (p.journal.localDispatchAuthorizations.insert id ()).contains id' = true := hauth
    rw [contains_insert] at hauth
    by_cases hid : id' = id
    · subst hid
      exact ⟨_, mem_append_right _ (List.mem_singleton.mpr rfl), _, rfl⟩
    · exact h.authorized_concat (by simpa [hid] using hauth)
  cancelled id' hlog := h.cancelled id' (mem_of_concat hlog nofun)
  barred id' e' hintent hauth := by
    have hauth : (p.journal.localDispatchAuthorizations.insert id ()).contains id' = false := hauth
    rw [contains_insert, Bool.or_eq_false_iff] at hauth
    exact h.barred id' e' hintent hauth.2
  inLifetime id' n := (h.inLifetime id' n).concat <| by
    intro hx
    obtain ⟨rfl, rfl⟩ := Entry.authorized.inj hx
    exact ⟨_, h.dispatching id e he hstatus, e.spec, rfl⟩
  cancellationBars id' := (h.cancellationBars id').concat (cancelled_not_authorizes id') <| by
    rintro ⟨n, hx⟩ ⟨m, hm, rfl⟩
    obtain ⟨rfl, -⟩ := Entry.authorized.inj hx
    -- the tombstone would have closed the row, had no authorisation come before it
    refine h.authorized id ?_
    by_contra hauth
    exact h.barred id e (h.cancelled id hm) (Bool.eq_false_iff.mpr hauth) he hstatus
  afterAuthorization id' := (h.afterAuthorization id').concat fun hx => by cases hx
  spawned id' := by
    simp only [count_append, countP_append]
    exact h.spawned id'

lemma workflowStarted (hmem : id ∈ p.dispatches)
    (hauth : ∃ x ∈ p.log, Entry.authorizes id x) : DispatchInv { p with
      dispatches := p.dispatches.erase id, log := p.log ++ [.executed id] } where
  known id' spec n hlog := h.known id' spec n (mem_of_concat hlog nofun)
  startsOnce id' := by
    rw [countP_append]
    exact h.startsOnce id'
  dispatching id' e hget hstatus := mem_append_left _ (h.dispatching id' e hget hstatus)
  authorized _ hauth' := h.authorized_concat hauth'
  cancelled id' hlog := h.cancelled id' (mem_of_concat hlog nofun)
  barred := h.barred
  inLifetime id' n := (h.inLifetime id' n).concat fun hx => by cases hx
  cancellationBars id' := (h.cancellationBars id').concat (cancelled_not_authorizes id') <| by
    rintro ⟨n, hx⟩
    cases hx
  afterAuthorization id' := (h.afterAuthorization id').concat <| by
    intro hx
    cases hx
    exact hauth
  spawned id' := by
    have hspawned := h.spawned id'
    have hcount : 0 < p.dispatches.count id := List.count_pos_iff.mpr hmem
    simp only [count_append, countP_append]
    by_cases hid : id = id'
    · subst hid
      rw [count_erase_self]
      simp [Entry.starts]
      omega
    · rw [count_erase_of_ne (Ne.symm hid)]
      simp [Entry.starts, hid]
      omega

lemma authorize (id : String) : DispatchInv (p.authorize id []) := by
  unfold Process.authorize
  rcases authorizeLocalDispatch_cases id p.journal with ⟨e, he, hstatus, hrun⟩ | ⟨e, hrun⟩
  · rw [hrun]
    exact h.authorizationGranted he hstatus
  · rw [hrun]
    exact h

lemma dispatch (hmem : id ∈ p.dispatches) :
    DispatchInv (({ p with dispatches := p.dispatches.erase id } : Process).authorize id
      [.executed id]) := by
  unfold Process.authorize
  rcases authorizeLocalDispatch_cases id p.journal with ⟨e, he, hstatus, hrun⟩ | ⟨e, hrun⟩
  · have hgranted := (h.authorizationGranted he hstatus).workflowStarted hmem
      ⟨_, mem_append_right _ (List.mem_singleton.mpr rfl), _, rfl⟩
    simpa [hrun] using hgranted
  · simp only [hrun]
    exact h.dropped p.isOpen fun id' => List.erase_sublist.count_le id'

lemma call (c : Call) : DispatchInv (p.call c) := by
  cases c with
  | prepareDispatch id spec =>
    dsimp only [Process.call]
    rcases prepareDispatch_cases id spec p.journal with
      ⟨hnew, hintent, hrun⟩ | ⟨hnew, hrun⟩ | ⟨hnot, hsame⟩
    · simp only [hrun]
      exact h.started spec hnew hintent
    · simp only [hrun]
      exact h.insertedCancelled spec hnew
    · split
      · next r j hrun => exact absurd hrun (hnot r j)
      · rw [hsame]
        exact h
  | requestCancellation id =>
    dsimp only [Process.call]
    rcases requestCancellation_cases id p.journal with hrun | ⟨e, hrun⟩
    · simp only [hrun]
      exact h.cancellationCommitted id
    · simp only [hrun]
      exact h
  | authorizeLocalDispatch id => exact h.authorize id
  | dispatch =>
    dsimp only [Process.call]
    split
    · next hmem => exact h.dispatch hmem
    · exact h
  | recordLocalHandle id handle => exact h.ages (ages_recordLocalHandle id handle _)
  | recordStatus id sequence status reason =>
    exact h.ages (ages_recordStatus id sequence status reason _)
  | recordCancellationRequested id => exact h.ages (ages_recordCancellationRequested id _)
  | prepareArtifactFreeze id binding => exact h.ages (ages_prepareArtifactFreeze id binding _)
  | clearMatchingArtifactPreparation id binding =>
    exact h.ages (ages_clearMatchingArtifactPreparation id binding _)

lemma step (m : Move) : DispatchInv (p.step m) := by
  cases m with
  | call c =>
    dsimp only [Process.step]
    split
    · exact h.call c
    · exact h
  | stop => exact h.dropped false fun id => Nat.zero_le _
  | interruptedOpen =>
    dsimp only [Process.step]
    split
    · exact h
    · exact h.ages (ages_recovered p.journal fun _ hs => mem_of_mem_take hs)
  | reopen =>
    dsimp only [Process.step]
    split
    · exact h
    · exact h.reopened

end DispatchInv

/-- In every run of a Node over its journal, an execution is started, authorised and executed
at most as the module says. -/
theorem localDispatch_once {p : Process} (hrun : Process.Run .initial p) : DispatchedOnce p :=
  (hrun.invariant (P := DispatchInv) .initial fun _ m h _ => h.step m).dispatchedOnce

namespace TwoLifetimes

def invocation : Invocation where
  missionId := ⟨"mission", .refl false⟩
  taskId := ⟨"task", .refl false⟩
  groupId := ⟨"group", .refl false⟩
  roleId := ⟨"role", .refl false⟩
  resourceIds := []
  resourceGrants := []
  memoryTenant := none
  body := "compute.work@v1"

def spec : ExecutionSpec := ⟨invocation, "workflow", []⟩

/-- One attempt is dispatched and left ambiguous by a stop, another is cancelled before its
Execute arrives; in the next lifetime both are asked for again. -/
def moves : List Move :=
  [.reopen, .call (.prepareDispatch "first" spec), .call (.dispatch "first"), .stop,
    .interruptedOpen 2, .reopen, .call (.authorizeLocalDispatch "first"),
    .call (.prepareDispatch "first" spec), .call (.requestCancellation "second"),
    .call (.prepareDispatch "second" spec), .call (.dispatch "second")]

end TwoLifetimes

/-- Neither attempt is started again in the second lifetime. -/
theorem two_lifetimes_dispatch_once :
    DispatchedOnce (TwoLifetimes.moves.foldl Process.step .initial) ∧
      (TwoLifetimes.moves.foldl Process.step .initial).log =
        [.started "first" TwoLifetimes.spec 1, .authorized "first" 1, .executed "first",
          .cancelled "second"] := by
  refine ⟨localDispatch_once (Reaches.of_list TwoLifetimes.moves .refl ?_), by decide +kernel⟩
  exact ⟨trivial, trivial, trivial, trivial, trivial, trivial, trivial, trivial, trivial, trivial,
    trivial, trivial⟩

end RoboGuide.NodeService
