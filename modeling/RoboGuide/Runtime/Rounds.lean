import RoboGuide.Runtime.GroupRecovery

/-!
# `RoboGuide.Runtime.Rounds`: what an accepted Group recovery step has checked

One inversion per check of `core/runtime/src/execution/group_recovery.rs`: the facts behind
an authorised round (`RequestedRound`, `CheckedMember`) and behind a recorded continuation
(`CheckedContinuation`).
-/

namespace RoboGuide.Runtime

open Domain Lib Fallible RuntimeExecutionManager List OrdSet
open Bool hiding not_not

variable {group : ExecutionGroupId}
  {m : RuntimeExecutionManager} {shared : Option ExecutionSessionDescriptor}
  {members : List GroupRecoveryMember} {now : TimestampMs}

/-! ### Members of a requested round -/

structure MemberCommand (a : AttemptLedger) (group : ExecutionGroupId)
    (member : GroupRecoveryMember) (context : ExecutionContext)
    (session : ExecutionSessionDescriptor) : Prop where
  known : a.executions.get? member.executionId = some context
  hasSession : context.command.session = some session
  validSlot : session.validateSlot context.command.taskRef.missionId group
    context.command.taskRef.taskId context.command.roleId = .ok ()
  sameGroup : context.command.groupId = group
  sameNode : context.command.nodeId = member.expectedNodeId
  bounded : session.slots.length ≤ 32
  independent : session.slots.all (·.independent) = true
  declaration : context.command.recoverySupport.any (fun d =>
    d.support.operation == context.command.intent.operation &&
      d.support.supportsGroupContinuation) = true

/-- What the loop over the members has found for one of them. -/
structure CheckedMember (m : RuntimeExecutionManager) (group : ExecutionGroupId)
    (member : GroupRecoveryMember) (context : ExecutionContext)
    (session : ExecutionSessionDescriptor) (completed : Bool) : Prop
    extends MemberCommand m.toAttemptLedger group member context session where
  noStop : m.recoveryStops.get? member.executionId = none
  status : if completed then m.statusOf member.executionId = some .completed
    else member.repeatAuthorized = true ∧ ∃ status, m.statusOf member.executionId = some status ∧
      status.isTerminal = false

lemma checkedMember_of_valid {member : GroupRecoveryMember}
    {session : ExecutionSessionDescriptor} {completed : Bool}
    (h : m.validateGroupMember group shared member = .ok (session, completed)) :
    (∃ context, CheckedMember m group member context session completed) ∧
      ∀ original, shared = some original → original = session := by
  rw [validateGroupMember] at h
  simp only [bind_eq_ok, okOr_eq_ok] at h
  obtain ⟨context, hknown, session', hsession, h⟩ := h
  split at h
  · simp at h
  next hslot =>
  simp only [bind_eq_ok, refuse_eq_ok, or_eq_false_iff] at h
  obtain ⟨_, ⟨⟨⟨⟨⟨⟨hgroup, hnode⟩, hbound⟩, hindependent⟩, hsupport⟩, hstop⟩, hshared⟩, h⟩ := h
  have hsame : session' = session ∧ (if completed then
      m.statusOf member.executionId = some .completed
      else member.repeatAuthorized = true ∧ ∃ status,
        m.statusOf member.executionId = some status ∧ status.isTerminal = false) := by
    split at h
    · next hs =>
      obtain ⟨rfl, rfl⟩ := Prod.mk.inj (pure_eq_ok.mp h)
      exact ⟨rfl, hs⟩
    · simp at h
    · simp at h
    · simp at h
    · next status hcompleted hfailed hcancelled hs =>
      simp only [bind_eq_ok, refuse_eq_ok, pure_eq_ok, not_eq_false'] at h
      obtain ⟨_, hrepeat, h⟩ := h
      obtain ⟨rfl, rfl⟩ := Prod.mk.inj h
      refine ⟨rfl, hrepeat, status, hs, ?_⟩
      cases status <;> simp_all [ExecutionStatus.isTerminal]
  obtain ⟨rfl, hstatus⟩ := hsame
  refine ⟨⟨context, ⟨hknown, hsession, ?_, ?_, ?_, ?_, ?_, ?_⟩, ?_, hstatus⟩, fun original ho => ?_⟩
  · exact hslot
  · simpa using hgroup
  · simpa using hnode
  · simpa using hbound
  · simpa using hindependent
  · cases hd : context.command.recoverySupport with
    | none => simp [hd] at hsupport
    | some => simpa [hd] using hsupport
  · simpa using hstop
  · simpa [ho] using hshared

lemma checkedMembers_of_valid {preserved : List ExecutionId}
    (h : m.validateGroupMembers group shared members = .ok preserved) :
    (members = [] ∨ ∃ session, (∀ original, shared = some original → original = session) ∧
      ∀ member ∈ members, ∃ context completed,
        CheckedMember m group member context session completed ∧
          (completed = true → member.executionId ∈ preserved)) ∧
      ∀ id ∈ preserved, id ∈ members.map (·.executionId) ∧ m.statusOf id = some .completed := by
  induction members generalizing shared preserved with
  | nil =>
    obtain rfl : [] = preserved := by simpa [validateGroupMembers] using h
    exact ⟨.inl rfl, by simp⟩
  | cons first members ih =>
    rw [validateGroupMembers] at h
    simp only [bind_eq_ok, pure_eq_ok] at h
    obtain ⟨⟨session, completed⟩, hfirst, rest, hrest, rfl⟩ := h
    obtain ⟨⟨context, hchecked⟩, hshared⟩ := checkedMember_of_valid hfirst
    obtain ⟨hlater, hpreserved⟩ := ih hrest
    have hsub : ∀ id ∈ rest, id ∈ (if completed then first.executionId :: rest else rest) := by
      intro id hid
      cases completed
      · exact hid
      · exact mem_cons_of_mem _ hid
    refine ⟨.inr ⟨session, hshared, fun member hmem => ?_⟩, fun id hid => ?_⟩
    · rcases mem_cons.mp hmem with rfl | hmem
      · refine ⟨context, completed, hchecked, ?_⟩
        rintro rfl
        exact mem_cons_self
      · rcases hlater with rfl | ⟨_, hsession', hall⟩
        · cases hmem
        · obtain rfl := hsession' session rfl
          obtain ⟨context', completed', hchecked', hpres⟩ := hall member hmem
          exact ⟨context', completed', hchecked', fun hc => hsub _ (hpres hc)⟩
    · cases completed
      · obtain ⟨hmem, hstatus⟩ := hpreserved id hid
        exact ⟨mem_cons_of_mem _ hmem, hstatus⟩
      · rcases mem_cons.mp hid with rfl | hid
        · exact ⟨mem_cons_self, hchecked.status⟩
        · obtain ⟨hmem, hstatus⟩ := hpreserved id hid
          exact ⟨mem_cons_of_mem _ hmem, hstatus⟩

/-! ### Requested rounds -/

/-- What `request_group_recovery_stop` has checked of a new round. -/
structure RequestedRound (m : RuntimeExecutionManager) (group : ExecutionGroupId)
    (now : TimestampMs) (intent : GroupRecoveryStopIntent) : Prop where
  sameGroup : intent.groupId = group
  newId : m.groupRecoveryById group intent.recoveryId = none
  nonblank : isBlank intent.recoveryId = false
  shortId : intent.recoveryId.utf8ByteSize ≤ 256
  nonempty : intent.members ≠ []
  bounded : intent.members.length ≤ 32
  positive : intent.timeoutMs ≠ 0
  inHour : intent.timeoutMs ≤ 3600000
  atLeastOne : 1 ≤ intent.maxReplacements
  atMost : intent.maxReplacements ≤ 16
  below : (m.groupRounds group).length < intent.maxReplacements
  sameLimit : ∀ round ∈ m.groupRounds group, round.maxReplacements = intent.maxReplacements
  idle : m.groupRecoveryHoldsDispatch group now = false
  distinct : intent.memberIds.Nodup
  exactSet : ∀ id, id ∈ intent.memberIds ↔ id ∈ (m.activeAttemptsForGroup group).map (·.1)
  requested : intent.requestedAtMs = now
  deadline : checkedAdd now intent.timeoutMs = some intent.deadlineMs
  members : ∃ session, ∀ member ∈ intent.members, ∃ context completed,
    CheckedMember m group member context session completed ∧
      (completed = true → intent.preservedCompleted.contains member.executionId = true)
  preserved : ∀ id, intent.preservedCompleted.contains id = true →
    id ∈ intent.memberIds ∧ m.statusOf id = some .completed
  confirmed : intent.confirmedAtMs = ∅
  replacements : intent.replacements = ∅
  prepared : intent.preparedAtMs = none
  admitted : intent.admittedAtMs = ∅
  active : intent.aborted = false

lemma requestedRound_of_valid {recoveryId : String} {timeout limit : Nat}
    {intent : GroupRecoveryStopIntent}
    (h : m.validateGroupRecoveryRequest group recoveryId members now timeout limit =
      .ok (some intent)) : RequestedRound m group now intent ∧ intent.members = members := by
  rw [validateGroupRecoveryRequest] at h
  split at h
  · simp at h
  next hnew =>
  simp only [bind_eq_ok, refuse_eq_ok, okOr_eq_ok, pure_eq_ok, Option.some.injEq] at h
  obtain ⟨_, hpolicy, _, hhistory, _, hset, preserved, hmembers, _, _, deadline, hdeadline, rfl⟩ :=
    h
  simp only [or_eq_false_iff, decide_eq_false_iff_not, not_lt, beq_eq_false_iff_ne,
    not_eq_false', and_eq_true, decide_eq_true_eq, isEmpty_eq_false_iff] at hpolicy
  simp only [or_eq_false_iff, decide_eq_false_iff_not, not_le, any_eq_false,
    bne_iff_ne, ne_eq, not_not] at hhistory
  simp only [or_eq_false_iff, not_eq_false', decide_eq_true_eq, bne_eq_false_iff_eq]
    at hset
  obtain ⟨hall, hpreserved⟩ := checkedMembers_of_valid hmembers
  refine ⟨?_, rfl⟩
  exact
    { sameGroup := rfl
      newId := hnew
      nonblank := hpolicy.1.1.1.1.1.1
      shortId := hpolicy.1.1.1.1.1.2
      nonempty := hpolicy.1.1.1.1.2
      bounded := hpolicy.1.1.1.2
      positive := hpolicy.1.1.2
      inHour := hpolicy.1.2
      atLeastOne := hpolicy.2.1
      atMost := hpolicy.2.2
      below := hhistory.1.1
      sameLimit := hhistory.1.2
      idle := hhistory.2
      distinct := hset.1
      exactSet := ofList_eq_iff.mp hset.2
      requested := rfl
      deadline := hdeadline
      members := by
        obtain ⟨session, -, hsession⟩ := hall.resolve_left hpolicy.1.1.1.1.2
        refine ⟨session, fun member hmem => ?_⟩
        obtain ⟨context, completed, hchecked, hpres⟩ := hsession member hmem
        exact ⟨context, completed, hchecked, fun hc => (contains_ofList _ _).mpr (hpres hc)⟩
      preserved := fun id hid => hpreserved id ((contains_ofList _ _).mp hid)
      confirmed := rfl
      replacements := rfl
      prepared := rfl
      admitted := rfl
      active := rfl }

/-! ### Recorded continuations -/

/-- What `record_group_continuation` has checked of the latest round of a Group. -/
structure CheckedContinuation (m : RuntimeExecutionManager) (now : TimestampMs)
    (replacements : OrdMap ExecutionId ExecutionId) (intent : GroupRecoveryStopIntent) :
    Prop where
  active : intent.aborted = false
  open_ : intent.replacements = ∅
  inTime : now < intent.deadlineMs
  stopped : ∀ id ∈ intent.memberIds, m.memberStopped intent now id = true
  currentSet : intent.expectedSet replacements =
    OrdSet.ofList ((m.activeAttemptsForGroup intent.groupId).map (·.1))
  sources : ∀ id, replacements.contains id = true ↔ id ∈ m.cancelledMembers intent
  distinct : replacements.values.Nodup
  nonempty : replacements ≠ ∅
  repeats : ∀ source replacement, replacements.get? source = some replacement →
    ∃ original actual, m.executions.get? source = some original ∧
      m.executions.get? replacement = some actual ∧
      RuntimeExecutionManager.sameInvocation original actual = true ∧
      m.statusOf replacement = some .dispatched

lemma checkedContinuation_of_valid {replacements : OrdMap ExecutionId ExecutionId}
    (h : m.validateGroupContinuation group now replacements = .ok ()) :
    ∃ intent, m.groupRecovery group = some intent ∧ intent.groupId = group ∧
      CheckedContinuation m now replacements intent := by
  rw [validateGroupContinuation] at h
  simp only [bind_eq_ok, refuse_eq_ok, okOr_eq_ok, or_eq_false_iff, not_eq_false',
    decide_eq_false_iff_not, not_le, decide_eq_true_eq, bne_eq_false_iff_eq] at h
  obtain ⟨intent, hintent, _, ⟨⟨⟨hactive, hopen⟩, htime⟩, hstopped⟩, _, hset, _,
    ⟨⟨hsources, hdistinct⟩, hne⟩, hrepeats⟩ := h
  have hgroup : intent.groupId = group := by simpa using (mem_of_latest? hintent).2
  refine ⟨intent, hintent, hgroup, hactive, entries_isEmpty_iff.mp hopen, htime, ?_, ?_, ?_,
    hdistinct, ?_, ?_⟩
  · simpa using hstopped
  · rw [hgroup]
    exact hset
  · intro id
    rw [← ofList_eq_iff.mp hsources id, mem_keys_iff, contains_eq_true_iff]
  · intro he
    rw [he] at hne
    cases hne
  · intro source replacement hget
    have hmem : source ∈ m.cancelledMembers intent :=
      (ofList_eq_iff.mp hsources source).mp
        (mem_keys_iff.mpr ⟨replacement, hget⟩)
    have hvalid := forM_eq_ok.mp hrepeats source hmem
    simp only [validateReplacement, hget, Option.getD_some, bind_eq_ok,
      okOr_eq_ok, refuse_eq_ok, or_eq_false_iff, not_eq_false', bne_eq_false_iff_eq]
      at hvalid
    obtain ⟨actual, hactual, hsame, hstatus⟩ := hvalid
    cases ho : m.executions.get? source with
    | none => simp [ho] at hsame
    | some original => exact ⟨original, actual, rfl, hactual, by simpa [ho] using hsame, hstatus⟩

end RoboGuide.Runtime
