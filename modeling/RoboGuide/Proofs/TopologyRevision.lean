import RoboGuide.Control.TopologyCheckpoint
import RoboGuide.Proofs.FinishedGroups

/-!
# `RoboGuide.Proofs.TopologyRevision`: a new topology registry and the checkpoint

`accept_resource_topology_registry` compares the old and the new declaration of every
resource that is held or still scheduled. `validate_resource_topology_checkpoint` also asks
for a booking budget: a decision whose duration was not frozen from a registry is measured
against the installed one. `topology_revision_restorable_iff` says when a revision leaves a
checkpoint that can be restored: every such decision must fit into the new budget.

The proof goes through `TopologySound`, which lists what the validator asks for. The
declarations of the live decisions are the same before and after (`declaredEntries_revised`),
the history grows at its end (`entries_revised`), and so every part of `TopologySound` is
kept, except the budget of the decisions without a frozen estimate (`booking_revised`).
-/

namespace RoboGuide.Control

open Domain Lib Fallible List Option ControlPlane

variable {record : ScheduledTaskReservation} {d : TaskSchedulingDecision} {c : ControlPlane}
  {registry : ResourceTopologyRegistry}

namespace ControlPlane

def Live (c : ControlPlane) (record : ScheduledTaskReservation) : Prop :=
  record ∈ c.scheduledTasks.values ∧ record.phase ≠ .invalidated

/-- What `validate_resource_topology_checkpoint` asks for. -/
structure TopologySound (c : ControlPlane) : Prop where
  bounded : c.resourceTopologyHistory.entries.length ≤ 1024
  history : checkSuccession validateTopologyRevision none c.resourceTopologyHistory.entries =
    .ok c.resourceTopologyRegistry
  held : ∀ id held, c.reservations.get? id = some held → c.heldTopologyValid id held = true
  apart : (c.reservations.values.filterMap (·.topology)).Pairwise
    fun left right => left.entry.conflicts right.entry = false
  recovered : ∀ record ∈ c.scheduledTasks.values, c.recoveryProjectionValid record = true
  decided : ∀ record, c.Live record → c.validateTopologyDecision record.decision = .ok ()
  scheduled : ∀ record ∈ c.scheduledIn .scheduled, c.validateScheduledTopology record = .ok ()
  disjoint : (c.scheduledIn .scheduled).Pairwise
    fun first later => c.scheduledIntersect first later = false

lemma topologyCheckpoint_iff :
    c.validateResourceTopologyCheckpoint = .ok () ↔ c.TopologySound := by
  simp only [validateResourceTopologyCheckpoint, bind_eq_ok, refuse_eq_ok, forM_eq_ok,
    Bool.not_eq_false', decide_eq_false_iff_not, decide_eq_true_eq, not_lt, bne_eq_false_iff_eq]
  constructor
  · rintro ⟨_, hbounded, _, hhistory, _, rfl, _, hheld, _, hapart, _, hrecovered, _, hdecided, _,
      hscheduled, hdisjoint⟩
    refine ⟨hbounded, hhistory, ?_, hapart, hrecovered, ?_, hscheduled, hdisjoint⟩
    · intro id held hget
      exact hheld (id, held) (mem_entries_iff.mpr hget)
    · intro record hlive
      exact hdecided record (mem_filter.mpr ⟨hlive.1, bne_iff_ne.mpr hlive.2⟩)
  · intro h
    refine ⟨(), h.bounded, _, h.history, (), rfl, (), ?_, (), h.apart, (), h.recovered, (), ?_,
      (), h.scheduled, h.disjoint⟩
    · intro e he
      exact h.held e.1 e.2 (mem_entries_iff.mp he)
    · intro record hmem
      obtain ⟨hrecord, hphase⟩ := mem_filter.mp hmem
      exact h.decided record ⟨hrecord, bne_iff_ne.mp hphase⟩

end ControlPlane

/-! ### The history -/

lemma validateTopologyRevision_ok {previous : Option ResourceTopologyRegistry} {revision : Nat} :
    validateTopologyRevision previous revision registry = .ok () ↔
      registry.valid = true ∧ revision = registry.revision ∧
        followsRegistry previous revision registry = true := by
  simp [validateTopologyRevision]

lemma topologyRevision_number (previous : Option ResourceTopologyRegistry) (revision : Nat)
    (registry : ResourceTopologyRegistry)
    (h : validateTopologyRevision previous revision registry = .ok ()) :
    revision = registry.revision :=
  (validateTopologyRevision_ok.mp h).2.1

/-- What `accept_resource_topology_registry` has checked. -/
structure TopologyAccepted (c : ControlPlane) (registry : ResourceTopologyRegistry)
    (expected version : Nat) : Prop where
  valid : registry.valid = true
  current : c.resourceTopologyRegistry.elim 0 (·.revision) = expected
  successor : checkedSucc expected = some registry.revision
  identity : ∀ old, c.resourceTopologyRegistry = some old → old.registryId = registry.registryId
  room : c.resourceTopologyHistory.entries.length < 1024
  entries : ∀ id ∈ topologyHeld c, c.topologyEntry id = registry.entry id
  version : checkedSucc c.calendarVersion = some version

lemma validateTopologyRegistry_ok
    {expected version : Nat} (h : validateTopologyRegistry c registry expected = .ok version) :
    TopologyAccepted c registry expected version := by
  simp only [validateTopologyRegistry, bind_eq_ok, refuse_eq_ok, forM_eq_ok, okOr_eq_ok,
    Bool.not_eq_false', Bool.or_eq_false_iff, bne_eq_false_iff_eq, decide_eq_false_iff_not,
    not_le] at h
  obtain ⟨_, hvalid, _, ⟨⟨⟨hcurrent, hnext⟩, hid⟩, hroom⟩, _, hentries, hversion⟩ := h
  refine ⟨hvalid, hcurrent, hnext, ?_, hroom, hentries, hversion⟩
  intro old hold
  rw [hold] at hid
  simpa using hid

namespace ControlPlane.TopologySound

variable {expected version : Nat} {id : ResourceId} {current policy : ResourceTopologyRegistry}
  (h : c.TopologySound) (ha : TopologyAccepted c registry expected version)

section

include h ha

lemma revision_fresh : ∀ e ∈ c.resourceTopologyHistory.entries, e.1 < registry.revision := by
  refine checkSuccession_fresh topologyRevision_number h.history fun last hlast => ?_
  have hcurrent : last.revision = expected := by
    have hc := ha.current
    rwa [hlast] at hc
  have hsucc := ha.successor
  rw [checkedSucc] at hsucc
  split at hsucc
  · have hnext : expected + 1 = registry.revision := some.inj hsucc
    omega
  · cases hsucc

lemma entries_revised : (c.withTopology registry version).resourceTopologyHistory.entries =
      c.resourceTopologyHistory.entries ++ [(registry.revision, registry)] :=
  OrdMap.entries_insert_of_lt registry (h.revision_fresh ha)

lemma history_revised : checkSuccession validateTopologyRevision none
        (c.withTopology registry version).resourceTopologyHistory.entries =
      .ok (some registry) := by
  have hfollows : followsRegistry c.resourceTopologyRegistry registry.revision registry = true := by
    have hcurrent := ha.current
    have hsucc := ha.successor
    rw [← hcurrent] at hsucc
    cases hold : c.resourceTopologyRegistry with
    | none =>
      rw [hold] at hsucc
      exact beq_iff_eq.mpr (some.inj hsucc).symm
    | some old =>
      rw [hold] at hsucc
      rw [followsRegistry, Bool.and_eq_true, beq_iff_eq, beq_iff_eq]
      exact ⟨ha.identity old hold, hsucc⟩
  exact checkSuccession_insert h.history (h.revision_fresh ha)
    (validateTopologyRevision_ok.mpr ⟨ha.valid, rfl, hfollows⟩)

end

/-! ### Declarations -/

include ha in
lemma entry_revised (hid : id ∈ topologyHeld c) :
    (c.withTopology registry version).topologyEntry id = c.topologyEntry id :=
  (ha.entries id hid).symm

lemma declaredEntries_eq (assignments : List RoleAssignment) :
    c.declaredEntries assignments = assignments.flatMap fun a => a.resourceIds.filterMap fun id =>
      (c.topologyEntry id).map fun entry => (a, id, entry) := by
  unfold declaredEntries topologyEntries topologyEntry
  cases c.resourceTopologyRegistry with
  | none =>
    symm
    simp
  | some => rfl

include ha in
lemma declaredEntries_revised (hlive : c.Live record) :
    (c.withTopology registry version).declaredEntries record.decision.proposedAssignments =
      c.declaredEntries record.decision.proposedAssignments := by
  rw [declaredEntries_eq, declaredEntries_eq]
  refine flatMap_congr fun a hmem => filterMap_congr fun id hid => ?_
  obtain ⟨selection, hselection, rfl⟩ := mem_map.mp hmem
  have hheld : id ∈ topologyHeld c := by
    refine mem_append_right _ (mem_flatMap.mpr ⟨record, ?_, ?_⟩)
    · exact mem_filter.mpr ⟨hlive.1, bne_iff_ne.mpr hlive.2⟩
    · exact mem_flatMap.mpr ⟨selection, hselection, hid⟩
  rw [entry_revised ha hheld]

include h ha in
lemma held_revised {held : Reservation} (hheld : c.reservations.get? id = some held) :
    (c.withTopology registry version).heldTopologyValid id held = true := by
  have hid : id ∈ topologyHeld c := mem_append_left _ (mem_keys_iff.mpr ⟨held, hheld⟩)
  have hold := h.held id held hheld
  unfold heldTopologyValid at hold ⊢
  rw [entry_revised ha hid]
  split
  · rfl
  · next original current horiginal hcurrent =>
    rw [horiginal, hcurrent] at hold
    simp only [Bool.and_eq_true] at hold ⊢
    refine ⟨⟨hold.1.1, ?_⟩, hold.2⟩
    -- the revision it was admitted under is on record, so it is not the new one
    have hne : original.revision ≠ registry.revision := by
      intro heq
      obtain ⟨recorded, hget, -⟩ := bind_eq_some_iff.mp (beq_iff_eq.mp hold.1.2)
      have hlt := h.revision_fresh ha (original.revision, recorded)
        (mem_entries_iff.mpr hget)
      exact hlt.ne heq
    show ((c.resourceTopologyHistory.insert registry.revision registry).get?
      original.revision).bind _ == _
    rw [get?_insert_of_ne hne]
    exact hold.1.2
  · next hnone hsome =>
    split at hold
    · next ht he => exact absurd he (hnone ht)
    · next original current ht he => exact absurd he (hsome original current ht)
    · cases hold

/-! ### Budgets -/

lemma validateTopologyDecision_ok : c.validateTopologyDecision d = .ok () ↔
      c.declaredEntries d.proposedAssignments = [] ∨
        (∃ policy, c.topologyBookingRegistry d = .ok policy) ∧
          selectionFits d (c.declaredEntries d.proposedAssignments) = .ok () := by
  unfold validateTopologyDecision declaredEntries
  cases c.resourceTopologyRegistry with
  | none => simp
  | some =>
    dsimp only
    split
    · next hempty => simp [List.isEmpty_iff.mp hempty]
    · next hsome =>
      rw [List.isEmpty_iff] at hsome
      simp only [bind_eq_ok, hsome, false_or]
      constructor
      · rintro ⟨policy, hpolicy, hfits⟩
        exact ⟨⟨policy, hpolicy⟩, hfits⟩
      · rintro ⟨⟨policy, hpolicy⟩, hfits⟩
        exact ⟨policy, hpolicy, hfits⟩

def Within (d : TaskSchedulingDecision) (budget : Nat) : Prop :=
  ∀ endsAt, d.endsAt = some endsAt → endsAt ≤ d.startsAt + budget

instance (d : TaskSchedulingDecision) (budget : Nat) : Decidable (Within d budget) :=
  inferInstanceAs (Decidable (∀ endsAt ∈ d.endsAt, endsAt ≤ d.startsAt + budget))

lemma booking_iff (hcurrent : c.resourceTopologyRegistry = some current) :
    c.topologyBookingRegistry d = .ok policy ↔ c.bookingPolicy current d = .ok policy ∧
        (∀ endsAt, d.endsAt = some endsAt → d.startsAt ≤ endsAt) ∧
        Within d policy.bookingDurationMs := by
  have hbudget : ∀ budget, ((d.endsAt.any fun endsAt => (checkedSub endsAt d.startsAt).all
      fun duration => decide (budget < duration)) = false ↔
        (∀ endsAt, d.endsAt = some endsAt → d.startsAt ≤ endsAt) ∧ Within d budget) := by
    intro budget
    unfold Within checkedSub
    cases d.endsAt with
    | none => simp
    | some endsAt =>
      by_cases hle : d.startsAt ≤ endsAt
      · simp only [any_some, hle, if_true, all_some, decide_eq_false_iff_not,
          some.injEq, forall_eq', true_and, not_lt]
        exact Nat.sub_le_iff_le_add'
      · simp [hle]
  simp only [topologyBookingRegistry, hcurrent, okOr_some, bind_eq_ok, Except.ok.injEq,
    exists_eq_left', refuse_eq_ok, hbudget, pure_eq_ok]
  constructor
  · rintro ⟨_, hpolicy, _, hfits, rfl⟩
    exact ⟨hpolicy, hfits⟩
  · rintro ⟨hpolicy, hfits⟩
    exact ⟨policy, hpolicy, (), hfits, rfl⟩

section

include h ha

lemma bookingPolicy_revised (hfrozen : d.bookingEstimate ≠ none)
    (hpolicy : c.bookingPolicy current d = .ok policy) :
    (c.withTopology registry version).bookingPolicy registry d = .ok policy := by
  unfold bookingPolicy at hpolicy ⊢
  cases hestimate : d.bookingEstimate with
  | none => exact absurd hestimate hfrozen
  | some frozen =>
    obtain ⟨_, _⟩ := frozen
    rw [hestimate] at hpolicy
    simp only [bind_eq_ok, okOr_eq_ok, pure_eq_ok] at hpolicy ⊢
    obtain ⟨recorded, hfound, hrest⟩ := hpolicy
    refine ⟨recorded, ?_, hrest⟩
    have hvalues : (c.withTopology registry version).resourceTopologyHistory.values =
        c.resourceTopologyHistory.values ++ [registry] := by
      unfold OrdMap.values
      rw [h.entries_revised ha, map_append]
      rfl
    rw [hvalues, find?_append, hfound]
    rfl

lemma booking_revised (hbooked : ∃ policy, c.topologyBookingRegistry d = .ok policy) :
    (∃ policy, (c.withTopology registry version).topologyBookingRegistry d = .ok policy) ↔
      (d.bookingEstimate = none → Within d registry.bookingDurationMs) := by
  obtain ⟨policy, hbooked⟩ := hbooked
  have hsome : ∃ current, c.resourceTopologyRegistry = some current := by
    simp only [topologyBookingRegistry, bind_eq_ok, okOr_eq_ok] at hbooked
    exact ⟨_, hbooked.choose_spec.1⟩
  obtain ⟨_, hcurrent⟩ := hsome
  obtain ⟨hpolicy, hends, hwithin⟩ := (booking_iff hcurrent).mp hbooked
  have hnew : (c.withTopology registry version).resourceTopologyRegistry = some registry := rfl
  simp only [booking_iff hnew]
  by_cases hfrozen : d.bookingEstimate = none
  · have hinstalled : (c.withTopology registry version).bookingPolicy registry d =
        .ok registry := by
      unfold bookingPolicy
      rw [hfrozen]
    simp only [hinstalled, Except.ok.injEq, exists_eq_left', hfrozen, true_imp_iff]
    exact ⟨fun hfits => hfits.2, fun hfits => ⟨hends, hfits⟩⟩
  · have hkept := h.bookingPolicy_revised ha hfrozen hpolicy
    exact ⟨fun _ hnone => absurd hnone hfrozen, fun _ => ⟨policy, hkept, hends, hwithin⟩⟩

lemma decided_revised (hlive : c.Live record) :
    (c.withTopology registry version).validateTopologyDecision record.decision = .ok () ↔
      (record.decision.bookingEstimate = none →
        c.declaredEntries record.decision.proposedAssignments ≠ [] →
        Within record.decision registry.bookingDurationMs) := by
  rw [validateTopologyDecision_ok, declaredEntries_revised ha hlive]
  rcases validateTopologyDecision_ok.mp (h.decided record hlive) with hempty | ⟨hbooked, hfits⟩
  · simp [hempty]
  · rw [h.booking_revised ha hbooked]
    constructor
    · rintro (hempty | ⟨hwithin, -⟩) hestimate hsome
      · exact absurd hempty hsome
      · exact hwithin hestimate
    · intro hwithin
      by_cases hempty : c.declaredEntries record.decision.proposedAssignments = []
      · exact .inl hempty
      · exact .inr ⟨fun hestimate => hwithin hestimate hempty, hfits⟩

end

/-! ### The records -/

lemma live_of_scheduled (h : record ∈ c.scheduledIn .scheduled) : c.Live record := by
  obtain ⟨hmem, hphase⟩ := mem_filter.mp h
  refine ⟨hmem, ?_⟩
  rw [beq_iff_eq.mp hphase]
  decide

lemma recovered_revised (h : c.TopologySound) (hmem : record ∈ c.scheduledTasks.values) :
    (c.withTopology registry version).recoveryProjectionValid record = true := by
  have hold := h.recovered record hmem
  simp only [recoveryProjectionValid, Bool.or_eq_true, Bool.and_eq_true] at hold ⊢
  rcases hold with hempty | ⟨⟨-, hphase⟩, hroles⟩
  · exact .inl hempty
  · exact .inr ⟨⟨rfl, hphase⟩, hroles⟩

end ControlPlane.TopologySound

/-- Every live decision that selects a resource declared by the registry and has no frozen
estimate ends within the booking budget of that registry. -/
def BookingsFit (c : ControlPlane) (registry : ResourceTopologyRegistry) : Prop :=
  ∀ record ∈ c.scheduledTasks.values, record.phase ≠ .invalidated →
    record.decision.bookingEstimate = none →
    ControlPlane.topologyEntries registry record.decision.proposedAssignments ≠ [] →
    ControlPlane.TopologySound.Within record.decision registry.bookingDurationMs

instance (c : ControlPlane) (registry : ResourceTopologyRegistry) :
    Decidable (BookingsFit c registry) := by
  unfold BookingsFit
  infer_instance

open ControlPlane TopologySound in
lemma topologySound_revised_iff {expected version : Nat} (h : c.TopologySound)
    (ha : TopologyAccepted c registry expected version) :
    (c.withTopology registry version).TopologySound ↔ BookingsFit c registry := by
  have hdeclared : ∀ record, c.Live record →
      topologyEntries registry record.decision.proposedAssignments =
        c.declaredEntries record.decision.proposedAssignments :=
    fun record hlive => declaredEntries_revised ha hlive
  constructor
  · intro hnew record hmem hphase hestimate hsome
    have hlive : c.Live record := ⟨hmem, hphase⟩
    rw [hdeclared record hlive] at hsome
    exact (h.decided_revised ha hlive).mp (hnew.decided record hlive) hestimate hsome
  · intro hfit
    refine ⟨?_, h.history_revised ha, fun id held => h.held_revised ha, h.apart,
      fun record => h.recovered_revised, ?_, fun record hmem => ?_,
      h.disjoint.imp_of_mem fun {first later} hfirst hlater hdisjoint => ?_⟩
    · rw [h.entries_revised ha, length_append]
      exact ha.room
    · intro record hlive
      refine (h.decided_revised ha hlive).mpr fun hestimate hsome => ?_
      rw [← hdeclared record hlive] at hsome
      exact hfit record hlive.1 hlive.2 hestimate hsome
    · unfold validateScheduledTopology
      rw [declaredEntries_revised ha (live_of_scheduled hmem)]
      exact h.scheduled record hmem
    · unfold scheduledIntersect
      rw [declaredEntries_revised ha (live_of_scheduled hfirst),
        declaredEntries_revised ha (live_of_scheduled hlater)]
      exact hdisjoint

/-- An accepted revision leaves a checkpoint that can be restored exactly when the live
decisions measured by the installed registry fit into its booking budget. -/
theorem topology_revision_restorable_iff {k k' : Kernel} {registry : ResourceTopologyRegistry}
    {expected : Nat} (sound : k.control.validateResourceTopologyCheckpoint = .ok ())
    (accepted : acceptResourceTopologyRegistry registry expected k = .ok () k') :
    k'.control.validateResourceTopologyCheckpoint = .ok () ↔ BookingsFit k.control registry := by
  simp only [acceptResourceTopologyRegistry, run_get_bind, run_check_bind_eq_ok] at accepted
  obtain ⟨version, hvalid, hstate⟩ := accepted
  have hk' : k'.control = k.control.withTopology registry version := by
    have := congrArg state hstate
    exact (congrArg Kernel.control this).symm
  rw [hk', topologyCheckpoint_iff]
  exact topologySound_revised_iff (topologyCheckpoint_iff.mp sound)
    (validateTopologyRegistry_ok hvalid)

namespace ShortenedBooking

open ReadySurvivor

def bayEntry : ResourceTopologyEntry where
  resourceId := bay
  nodeId := node
  kind := .space
  space := some ⟨"hall", "map", "1", ⟨0, 0, 0⟩, ⟨1000, 1000, 1000⟩, 0⟩
  timeDomain := none
  windows := []

def topology (revision budget : Nat) : ResourceTopologyRegistry :=
  ⟨"site", revision, 1000, budget, 10000, [bayEntry]⟩

/-- The Task in the bay for half a second, as its plan says. -/
def decision : TaskSchedulingDecision where
  taskRef := task
  selections := [⟨role, node, [bay], [1], [], []⟩]
  startsAt := 100
  endsAt := some 600
  latestActivationAt := none
  snapshotVersion := 1
  durationEstimate := none

/-- The Task is scheduled under a budget of one second. -/
def calls : List Call :=
  [.acceptResourceTopologyRegistry (topology 1 1000) 0, .createMissionGroup group plan,
    .readyTaskExecution group task, .reserveScheduledTask evidence candidates group decision]

def scheduled : World := calls.foldl World.step start

/-- The plane after the next revision is accepted. -/
def revised (budget : Nat) : World :=
  scheduled.step (.acceptResourceTopologyRegistry (topology 2 budget) 1)

lemma accepted (budget version : Nat) (h : validateTopologyRegistry scheduled.control
      (topology 2 budget) 1 = .ok version) :
    acceptResourceTopologyRegistry (topology 2 budget) 1 scheduled.kernel =
      .ok () (revised budget).kernel := by
  have hrun : ∃ k', acceptResourceTopologyRegistry (topology 2 budget) 1 scheduled.kernel =
      .ok () k' := by
    simp only [acceptResourceTopologyRegistry, run_get_bind]
    exact ⟨_, run_check_bind_eq_ok.mpr ⟨version, h, rfl⟩⟩
  obtain ⟨k', hk'⟩ := hrun
  have hkernel : (revised budget).kernel = k' := by
    simp only [revised, World.step, Call.run, inWorld, hk', state_ok]
  rw [hk', hkernel]

end ShortenedBooking

/-- A revision with a smaller budget, which the scheduled Task still fits, can be restored. -/
theorem half_second_budget_restorable :
    ShortenedBooking.scheduled.control.validateResourceTopologyCheckpoint = .ok () ∧
      BookingsFit ShortenedBooking.scheduled.control (ShortenedBooking.topology 2 500) ∧
      (ShortenedBooking.revised 500).control.validateResourceTopologyCheckpoint = .ok () := by
  have hsound : ShortenedBooking.scheduled.control.validateResourceTopologyCheckpoint = .ok () := by
    decide +kernel
  have hfit : BookingsFit ShortenedBooking.scheduled.control (ShortenedBooking.topology 2 500) := by
    decide +kernel
  have haccepted := ShortenedBooking.accepted 500 3 (by decide +kernel)
  exact ⟨hsound, hfit, (topology_revision_restorable_iff hsound haccepted).mpr hfit⟩

/-- The scheduled Task keeps half a second; a revision with a tenth of a second is accepted. -/
theorem shorter_budget_unrestorable :
    ¬ ∀ (w₀ w : World) (registry : ResourceTopologyRegistry) (expected : Nat) (k' : Kernel),
      w₀.Idle → World.Run (fun _ _ => True) w₀ w →
      w.control.validateResourceTopologyCheckpoint = .ok () →
      acceptResourceTopologyRegistry registry expected w.kernel = .ok () k' →
      k'.control.validateResourceTopologyCheckpoint = .ok () := by
  intro h
  have hrun : World.Run (fun _ _ => True) ReadySurvivor.start ShortenedBooking.scheduled :=
    Reaches.of_list ShortenedBooking.calls .refl (by decide +kernel)
  have hrestored := h _ _ _ _ _ (World.start_idle _) hrun (by decide +kernel)
    (ShortenedBooking.accepted 100 3 (by decide +kernel))
  exact absurd hrestored (by decide +kernel)

end RoboGuide.Control
