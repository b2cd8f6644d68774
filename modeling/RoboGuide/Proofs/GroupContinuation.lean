import RoboGuide.Runtime.RoundHistory

/-!
# `RoboGuide.Proofs.GroupContinuation`: what a recorded Group continuation guarantees

A continuation is decided from the latest round of a Group alone, while confirmations are
written into every round that names the attempt, and members of one round are sources of the
next. The guarantees are therefore about the whole history (`SoundRounds`): whatever was
replaced had been cancelled and confirmed in time, is replaced once, never completed, and is
repeated exactly; and a Group has no more rounds than its first authorisation allows.

`ConfirmsAt` says which calls count as a confirmation for a round; the time a round keeps is
the time of the first of them (`confirmations_first`).
-/

namespace RoboGuide.Runtime

open Domain Lib GroupRecoveryStopIntent List Bool
open RuntimeExecutionManager

variable {id : ExecutionId} {i i' : GroupRecoveryStopIntent} {k : Nat} {call : RuntimeCall}
  {m : RuntimeExecutionManager} {n : Nat}

/-! ### First confirmations -/

/-- Call `j` confirms at `t` that `id` has stopped, for a round that was requested at
`requested` and is the `k`-th of the history. -/
structure ConfirmsAt (calls : Nat → RuntimeCall) (k : Nat) (requested : TimestampMs)
    (id : ExecutionId) (j : Nat) (t : TimestampMs) : Prop where
  call : calls j = .confirmGroupRecoveryStop id t
  authorised : k < (stateAt calls j).groupRecoveries.length
  notBefore : requested ≤ t
  stopped : confirmsStop ((stateAt calls j).statusOf id) = true

/-- The first confirmation of `id` for a round is at `t`. -/
def FirstConfirmation (calls : Nat → RuntimeCall) (k : Nat) (requested : TimestampMs)
    (id : ExecutionId) (t : TimestampMs) : Prop :=
  ∃ j, ConfirmsAt calls k requested id j t ∧ ∀ j' < j, ∀ t', ¬ ConfirmsAt calls k requested id j' t'

def confirmationsAfter (m : RuntimeExecutionManager) (call : RuntimeCall)
    (i : GroupRecoveryStopIntent) : OrdMap ExecutionId Nat :=
  match call with
  | .confirmGroupRecoveryStop id t =>
    if confirmsStop (m.statusOf id) then (confirmRound id t i).confirmedAtMs else i.confirmedAtMs
  | _ => i.confirmedAtMs

/-- A round after a call: only its confirmations change. -/
structure RoundAfter (m : RuntimeExecutionManager) (call : RuntimeCall)
    (i i' : GroupRecoveryStopIntent) : Prop where
  members : i'.members = i.members
  preserved : i'.preservedCompleted = i.preservedCompleted
  requested : i'.requestedAtMs = i.requestedAtMs
  confirmed : i'.confirmedAtMs = confirmationsAfter m call i

lemma confirmationsAfter_of_ne
    (h : ∀ id t, call ≠ .confirmGroupRecoveryStop id t) (i : GroupRecoveryStopIntent) :
    confirmationsAfter m call i = i.confirmedAtMs := by
  cases call with
  | confirmGroupRecoveryStop id t => exact absurd rfl (h id t)
  | _ => rfl

lemma roundAfter_of_map {f : GroupRecoveryStopIntent → GroupRecoveryStopIntent}
    (hget : (m.groupRecoveries.map f)[k]? = some i') (hf : ∀ i, RoundAfter m call i (f i)) :
    ∃ i, m.groupRecoveries[k]? = some i ∧ RoundAfter m call i i' := by
  rw [getElem?_map, Option.map_eq_some_iff] at hget
  obtain ⟨i, hi, rfl⟩ := hget
  exact ⟨i, hi, hf i⟩

section

variable (m : RuntimeExecutionManager)

lemma round_after_confirmation (id : ExecutionId) (t : TimestampMs)
    (hget : (m.confirmGroupRecoveryStop id t).groupRecoveries[k]? = some i') :
    ∃ i, m.groupRecoveries[k]? = some i ∧ RoundAfter m (.confirmGroupRecoveryStop id t) i i' := by
  rw [confirmGroupRecoveryStop] at hget
  by_cases hstop : confirmsStop (m.statusOf id) = true
  · rw [if_pos hstop] at hget
    refine roundAfter_of_map hget fun i => ⟨?_, ?_, ?_, ?_⟩
    · rw [confirmRound]
      split <;> rfl
    · rw [confirmRound]
      split <;> rfl
    · rw [confirmRound]
      split <;> rfl
    · rw [confirmationsAfter, if_pos hstop]
  · rw [if_neg hstop] at hget
    refine ⟨i', hget, rfl, rfl, rfl, ?_⟩
    rw [confirmationsAfter, if_neg hstop]

lemma round_after (call : RuntimeCall) (hget : (m.step call).groupRecoveries[k]? = some i') :
    (∃ i, m.groupRecoveries[k]? = some i ∧ RoundAfter m call i i') ∨
      (m.groupRecoveries.length = k ∧ i'.confirmedAtMs = ∅) := by
  by_cases hcall : ∃ id t, call = .confirmGroupRecoveryStop id t
  · obtain ⟨id, t, rfl⟩ := hcall
    exact .inl (round_after_confirmation m id t hget)
  · have hcall : ∀ id t, call ≠ .confirmGroupRecoveryStop id t := by simpa using hcall
    have hsame : ∀ {i i' : GroupRecoveryStopIntent}, i'.members = i.members →
        i'.preservedCompleted = i.preservedCompleted → i'.requestedAtMs = i.requestedAtMs →
        i'.confirmedAtMs = i.confirmedAtMs → RoundAfter m call i i' := by
      intro i i' hm hp hr hc
      exact ⟨hm, hp, hr, hc.trans (confirmationsAfter_of_ne hcall i).symm⟩
    cases (effect_step m call).rounds with
    | kept he =>
      rw [he] at hget
      exact .inl ⟨i', hget, hsame rfl rfl rfl rfl⟩
    | aborted id he =>
      rw [he] at hget
      refine .inl (roundAfter_of_map hget fun i => ?_)
      split
      · exact hsame rfl rfl rfl rfl
      · exact hsame rfl rfl rfl rfl
    | requested group now intent hround he =>
      rw [he] at hget
      have hget : (m.groupRecoveries ++ [intent])[k]? = some i' := hget
      rcases Nat.lt_trichotomy k m.groupRecoveries.length with hk | hk | hk
      · rw [getElem?_append_left hk] at hget
        exact .inl ⟨i', hget, hsame rfl rfl rfl rfl⟩
      · rw [hk, getElem?_concat_length] at hget
        cases hget
        exact .inr ⟨hk.symm, hround.confirmed⟩
      · rw [getElem?_eq_none (by rw [length_append, length_singleton]; exact hk)]
          at hget
        cases hget
    | confirmed id t => exact absurd rfl (hcall id t)
    | admitted id t _ he =>
      rw [he] at hget
      refine .inl (roundAfter_of_map hget fun i => ?_)
      rw [admitRound]
      split
      · exact hsame rfl rfl rfl rfl
      · exact hsame rfl rfl rfl rfl
    | continued group now replacements intent hlatest hchecked he =>
      rw [he] at hget
      obtain ⟨l, r, hsplit, -, -, hupdate⟩ :=
        latest?_split (f := fun i : GroupRecoveryStopIntent =>
          { i with replacements := replacements, preparedAtMs := some now }) hlatest
      have hget : (updateLatest _ _ m.groupRecoveries)[k]? = some i' := hget
      rw [hupdate] at hget
      rw [hsplit]
      rcases Nat.lt_trichotomy k l.length with hk | hk | hk
      · rw [getElem?_append_left hk] at hget ⊢
        exact .inl ⟨i', hget, hsame rfl rfl rfl rfl⟩
      · rw [hk, getElem?_append_right (Nat.le_refl _), Nat.sub_self] at hget ⊢
        cases hget
        exact .inl ⟨intent, rfl, hsame rfl rfl rfl rfl⟩
      · rw [getElem?_append_right (Nat.le_of_lt hk),
          show k - l.length = (k - l.length - 1) + 1 by omega, getElem?_cons_succ] at hget ⊢
        exact .inl ⟨i', hget, hsame rfl rfl rfl rfl⟩

lemma length_rounds_step (call : RuntimeCall) :
    m.groupRecoveries.length ≤ (m.step call).groupRecoveries.length := by
  cases (effect_step m call).rounds with
  | kept he => rw [he]
  | aborted id he => rw [he, abortGroupRecoveryForAttempt, length_map]
  | requested group now intent hround he =>
    rw [he]
    show _ ≤ (m.groupRecoveries ++ [intent]).length
    rw [length_append]
    exact Nat.le_add_right _ _
  | confirmed id t _ he | admitted id t _ he => rw [he, length_map]
  | continued group now replacements intent hlatest hchecked he =>
    obtain ⟨l, r, hsplit, -, -, hupdate⟩ :=
      latest?_split (f := fun i : GroupRecoveryStopIntent =>
        { i with replacements := replacements, preparedAtMs := some now }) hlatest
    rw [he, publishContinuation]
    show _ ≤ (updateLatest _ _ m.groupRecoveries).length
    rw [hupdate, hsplit, length_append, length_append, length_cons, length_cons]

end

section

variable (calls : Nat → RuntimeCall)

lemma length_rounds_mono {i j : Nat} (h : i ≤ j) :
    (stateAt calls i).groupRecoveries.length ≤ (stateAt calls j).groupRecoveries.length := by
  induction h with
  | refl => exact Nat.le_refl _
  | step _ ih => exact ih.trans (length_rounds_step _ _)

lemma get?_confirmRound_self {t : TimestampMs}
    (hpres : i.preservedCompleted.contains id = false) (hmem : id ∈ i.memberIds)
    (hle : i.requestedAtMs ≤ t) :
    (confirmRound id t i).confirmedAtMs.get? id = some ((i.confirmedAtMs.get? id).getD t) := by
  have hmember : i.hasMember id = true := by simpa [hasMember, memberIds] using hmem
  rw [confirmRound, hpres, hmember, decide_eq_true hle, OrdMap.contains]
  cases hold : i.confirmedAtMs.get? id with
  | none => exact get?_insert_self _ _ _
  | some => exact hold

lemma get?_confirmationsAfter_of_not
    (h : ∀ t, call = .confirmGroupRecoveryStop id t → i.requestedAtMs ≤ t →
      confirmsStop (m.statusOf id) = false) :
    (confirmationsAfter m call i).get? id = i.confirmedAtMs.get? id := by
  by_cases hcall : ∃ id' t, call = .confirmGroupRecoveryStop id' t
  · obtain ⟨id', t, rfl⟩ := hcall
    rw [confirmationsAfter]
    split
    · next hstop =>
      rw [confirmRound]
      split
      · next hnew =>
        simp only [and_eq_true, decide_eq_true_eq] at hnew
        have hne : id ≠ id' := by
          rintro rfl
          rw [h t rfl hnew.1.2] at hstop
          cases hstop
        exact get?_insert_of_ne hne
      · rfl
    · rfl
  · rw [confirmationsAfter_of_ne (by simpa using hcall)]

lemma confirmations_first
    (hget : (stateAt calls n).groupRecoveries[k]? = some i) (hmem : id ∈ i.memberIds)
    (hpres : i.preservedCompleted.contains id = false) :
    (∀ t, i.confirmedAtMs.get? id = some t → FirstConfirmation calls k i.requestedAtMs id t) ∧
      (i.confirmedAtMs.get? id = none →
        ∀ j < n, ∀ t, ¬ ConfirmsAt calls k i.requestedAtMs id j t) := by
  induction n generalizing i with
  | zero => cases hget
  | succ n ih =>
    rcases round_after (stateAt calls n) (calls n) hget with ⟨i₀, hget₀, hafter⟩ | ⟨hk, hempty⟩
    · rw [memberIds, hafter.members] at hmem
      rw [hafter.preserved] at hpres
      rw [hafter.requested, hafter.confirmed]
      obtain ⟨hsome, hnone⟩ := ih hget₀ hmem hpres
      have hk : k < (stateAt calls n).groupRecoveries.length :=
        (List.getElem?_eq_some_iff.mp hget₀).1
      by_cases hnow : ∃ t, ConfirmsAt calls k i₀.requestedAtMs id n t
      · obtain ⟨t, hnow⟩ := hnow
        rw [hnow.call, confirmationsAfter, if_pos hnow.stopped]
        rw [get?_confirmRound_self hpres hmem hnow.notBefore]
        refine ⟨fun t' ht' => ?_, fun hn => by cases hn⟩
        cases hold : i₀.confirmedAtMs.get? id with
        | none =>
          -- this is the first confirmation
          rw [hold] at ht'
          cases ht'
          exact ⟨n, hnow, hnone hold⟩
        | some t₀ =>
          rw [hold] at ht'
          cases ht'
          exact hsome t₀ hold
      · have hsame : (confirmationsAfter (stateAt calls n) (calls n) i₀).get? id =
            i₀.confirmedAtMs.get? id := by
          refine get?_confirmationsAfter_of_not fun t hcall hle => ?_
          rw [eq_false_iff]
          exact fun hstop => hnow ⟨t, hcall, hk, hle, hstop⟩
        rw [hsame]
        refine ⟨hsome, fun hn j hj t hc => ?_⟩
        rcases Nat.lt_succ_iff_lt_or_eq.mp hj with hj | rfl
        · exact hnone hn j hj t hc
        · exact hnow ⟨t, hc⟩
    · -- nothing was confirmed for the round before it was authorised
      rw [hempty]
      refine ⟨fun t ht => (by cases ht), fun _ j hj t hc => ?_⟩
      have hle := length_rounds_mono calls (Nat.lt_succ_iff.mp hj)
      have hlt := hc.authorised
      omega

/-! ### Sources and replacements -/

lemma SoundRounds.nodup_sources {a : AttemptLedger} {rounds : List GroupRecoveryStopIntent}
    (h : SoundRounds a rounds) : (rounds.flatMap fun i => i.replacements.keys).Nodup := by
  refine nodup_flatMap.mpr ⟨fun i _ => i.replacements.nodup_keys, ?_⟩
  refine h.ordered.imp_of_mem fun {x y} hx hy hxy => ?_
  intro id hidx hidy
  have hcontains : ∀ {i : GroupRecoveryStopIntent}, id ∈ i.replacements.keys →
      i.replacements.contains id = true ∧ i.replacements ≠ ∅ := by
    intro i hid
    refine ⟨contains_eq_true_iff.mpr (mem_keys_iff.mp hid), ?_⟩
    intro he
    rw [he] at hid
    cases hid
  obtain ⟨hcx, hnex⟩ := hcontains hidx
  obtain ⟨hcy, hney⟩ := hcontains hidy
  obtain ⟨_, hx'⟩ := (h.sound x hx).continued hnex
  obtain ⟨_, hy'⟩ := (h.sound y hy).continued hney
  have hmx := ((hx'.sources id).mp hcx).1
  have hmy := ((hy'.sources id).mp hcy).1
  by_cases hgroup : x.groupId = y.groupId
  · exact (hxy hgroup).notAgain id hcx hmy
  · -- members belong to the Group of their round
    have hof : ∀ {i : GroupRecoveryStopIntent}, SoundRound a i → id ∈ i.memberIds →
        ∃ context, a.executions.get? id = some context ∧
          context.command.groupId = i.groupId := by
      intro i hi hm
      obtain ⟨_, hmembers⟩ := hi.members
      obtain ⟨member, hmem, rfl⟩ := mem_map.mp hm
      obtain ⟨context, hc⟩ := hmembers member hmem
      exact ⟨context, hc.known, hc.sameGroup⟩
    obtain ⟨cx, hcx, hgx⟩ := hof (h.sound x hx) hmx
    obtain ⟨cy, hcy, hgy⟩ := hof (h.sound y hy) hmy
    rw [hcx] at hcy
    cases hcy
    exact hgroup (hgx.symm.trans hgy)

lemma never_completed (h : (stateAt calls n).statusOf id = some .cancelled) (j : Nat) :
    (stateAt calls j).statusOf id ≠ some .completed := by
  intro hcompleted
  rcases Nat.le_total j n with hle | hle
  · have := (persists_of_run (reaches_stateAt calls hle)).terminal id _ hcompleted rfl
    rw [h] at this
    cases this
  · have := (persists_of_run (reaches_stateAt calls hle)).terminal id _ h rfl
    rw [hcompleted] at this
    cases this

/-- The replacement runs the same invocation on the same node. -/
structure Repeats (source replacement : ExecutionContext) : Prop where
  node : replacement.command.nodeId = source.command.nodeId
  intent : replacement.command.intent = source.command.intent
  session : replacement.command.session = source.command.session
  resources : replacement.resourceIds = source.resourceIds

/-- What holds of a recorded association of the `k`-th round, in the history of the calls. -/
structure ReplacedSource (calls : Nat → RuntimeCall) (n k : Nat)
    (round : GroupRecoveryStopIntent) (source replacement : ExecutionId) : Prop where
  cancelled : (stateAt calls n).statusOf source = some .cancelled
  confirmed : ∃ t, FirstConfirmation calls k round.requestedAtMs source t ∧
    round.requestedAtMs ≤ t ∧ t < round.deadlineMs
  notCompleted : ∀ j, (stateAt calls j).statusOf source ≠ some .completed
  repeated : ∃ original actual, (stateAt calls n).executions.get? source = some original ∧
    (stateAt calls n).executions.get? replacement = some actual ∧ Repeats original actual

/-- In every state of every run: each recorded source was cancelled with its first
confirmation inside the window of its round, never completed, and is repeated exactly; no
attempt is a source twice; and a Group has at most as many rounds as its first one allows. -/
theorem group_continuation_sound (n : Nat) :
    (∀ k round, (stateAt calls n).groupRecoveries[k]? = some round →
      ∀ source replacement, round.replacements.get? source = some replacement →
        ReplacedSource calls n k round source replacement) ∧
    ((stateAt calls n).groupRecoveries.flatMap fun round => round.replacements.keys).Nodup ∧
    (∀ group first, ((stateAt calls n).groupRounds group).head? = some first →
      ((stateAt calls n).groupRounds group).length ≤ first.maxReplacements) := by
  have hsound := SoundRounds.of_run (reaches_stateAt calls (Nat.zero_le n))
  refine ⟨fun k round hget source replacement hrep => ?_, hsound.nodup_sources,
    fun group first hfirst => ?_⟩
  · have hround := hsound.sound round (mem_of_getElem? hget)
    have hcontains : round.replacements.contains source = true :=
      contains_eq_true_iff.mpr ⟨replacement, hrep⟩
    obtain ⟨_, hc⟩ := hround.continued (by rintro he; rw [he] at hrep; cases hrep)
    obtain ⟨hmem, hcancelled⟩ := (hc.sources source).mp hcontains
    have hnotpres : round.preservedCompleted.contains source = false := by
      rw [eq_false_iff]
      intro hp
      have hcompleted := (hround.preserved source hp).2
      rw [hcancelled] at hcompleted
      cases hcompleted
    refine ⟨hcancelled, ?_, never_completed calls hcancelled, ?_⟩
    · rcases hc.allStopped source hmem with hp | ⟨t, ht, hlt⟩
      · rw [hp] at hnotpres
        cases hnotpres
      · exact ⟨t, (confirmations_first calls hget hmem hnotpres).1 t ht,
          (hround.confirmed source t ht).2.2.1, hlt⟩
    · obtain ⟨original, actual, ho, ha, hsame, -⟩ := hc.repeats source replacement hrep
      simp only [sameInvocation, and_eq_true, beq_iff_eq] at hsame
      exact ⟨original, actual, ho, ha, hsame.1.1.1.1.1.1.1, hsame.1.1.1.1.1.1.2, hsame.1.1.1.1.1.2,
        hsame.2⟩
  · have hmem : first ∈ (stateAt calls n).groupRounds group := mem_of_mem_head? hfirst
    obtain ⟨hin, hgroup⟩ := mem_filter.mp hmem
    have hbounded := hsound.bounded first hin
    rw [countP_eq_length_filter, beq_iff_eq.mp hgroup] at hbounded
    exact hbounded

end

namespace Continued

open Sample

def content : SessionContent where
  schemaVersion := executionSessionSchema
  missionId := mission
  groupId := group
  slots := [⟨task, role, ⟨"actor", .refl false⟩, [], true⟩]

/-- A command whose operation a local system can stop with its Group and repeat. -/
def stoppable : ExecutionCommand :=
  { command task node with
    session := some ⟨content, content⟩
    recoverySupport := some ⟨⟨"local", .refl false⟩, "move", .executionGroup, .repeatAfterStop⟩ }

/-- A running attempt is stopped for its Group, confirmed twice, and continued. -/
def run : List RuntimeCall :=
  [.prepareDispatch "first" stoppable [], .observeExecution "first" node 1 .running "",
    .requestGroupRecoveryStop group "recovery" [⟨"first", node, true⟩] 10 100 2,
    .observeExecution "first" node 2 .cancelled "", .confirmGroupRecoveryStop "first" 20,
    .confirmGroupRecoveryStop "first" 25, .prepareDispatch "second" stoppable [],
    .recordGroupContinuation group 30 (OrdMap.ofList [("first", "second")])]

def calls (n : Nat) : RuntimeCall := run.getD n .restart

end Continued

open Continued in
/-- A run in which an attempt is replaced, with what the history guarantees of it. -/
theorem stopped_attempt_continued : ∃ round, (stateAt calls 8).groupRecoveries[0]? = some round ∧
      round.replacements.get? "first" = some "second" ∧
      ReplacedSource calls 8 0 round "first" "second" := by
  have hrun : ((stateAt calls 8).groupRecoveries[0]?.bind fun round =>
      round.replacements.get? "first") = some "second" := by decide +kernel
  obtain ⟨round, hround, hget⟩ := Option.bind_eq_some_iff.mp hrun
  exact ⟨round, hround, hget,
    (group_continuation_sound calls 8).1 0 round hround "first" "second" hget⟩

end RoboGuide.Runtime
