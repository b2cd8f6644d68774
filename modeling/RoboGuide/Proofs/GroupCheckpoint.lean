import RoboGuide.Control.Placement
import RoboGuide.Control.Supersession
import RoboGuide.Proofs.TaskCoverage

/-!
# `RoboGuide.Proofs.GroupCheckpoint`: which runs leave restorable Groups

`validate_group_checkpoint_authority` runs on every Group and every recovery commitment of a
checkpoint. The operations do not keep what it asks for: `release_task_bindings` gives back
the bindings of an unsuccessful Task whose Roles the checkpoint still wants covered
(`failed_task_release_breaks_checkpoint`). Runs whose calls meet `Call.KeepsCheckpoint` pass
it in every state (`released_tasks_stay_restorable`).
-/

namespace RoboGuide.Control

open Domain Lib Fallible ControlPlane ExecutionGroup List Option Bool OrdSet

variable {id : ExecutionGroupId} {r : CommittedRecoveryAssignment} {c : ControlPlane} {w : World}
  {e : Evidence} {g : ExecutionGroup} {slot : UnboundRole} {a : ActorTakeoverAuthorization}

/-! ### The condition -/

/-- No other waiting Role of the Actor was bound away from the replacement. -/
def WaitsAlone (c : ControlPlane) (r : CommittedRecoveryAssignment)
    (a : ActorTakeoverAuthorization) : Prop :=
  ∀ g ∈ c.groups.entries, ∀ slot ∈ g.2.taskUnboundRoles.entries,
    ¬ (g.1 = r.groupId ∧ (ofLex slot.1).1 = r.taskRef ∧ (ofLex slot.1).2 = r.roleId) →
      (ofLex slot.1).1.missionId = r.taskRef.missionId →
        c.actorOf g.1 (ofLex slot.1).1 (ofLex slot.1).2 = some a.actorId →
          slot.2.previousNodeId = r.replacementNodeId

instance (c : ControlPlane) (r : CommittedRecoveryAssignment) (a : ActorTakeoverAuthorization) :
    Decidable (WaitsAlone c r a) := by
  unfold WaitsAlone
  infer_instance

/-- A takeover strands no Role that waits for recovery. -/
def Call.KeepsWaiting (c : ControlPlane) : Call → Prop
  | .rebindRoleWithState _ r => ∀ a ∈ r.actorTakeover, WaitsAlone c r a
  | _ => True

instance (c : ControlPlane) (call : Call) : Decidable (call.KeepsWaiting c) := by
  apply @Call.casesOn _ call <;> intros <;> unfold Call.KeepsWaiting <;> infer_instance

/-- All that a call must meet to leave a checkpoint that is restored. -/
def Call.KeepsCheckpoint (c : ControlPlane) (call : Call) : Prop :=
  call.KeepsCoverage c ∧ call.HasGeneration c ∧ call.KeepsPlacement c ∧
    call.KeepsCommitments c ∧ call.KeepsWaiting c

instance (c : ControlPlane) (call : Call) : Decidable (call.KeepsCheckpoint c) :=
  inferInstanceAs (Decidable (_ ∧ _))

/-! ### The invariant -/

/-- The authorization is about the commitment that carries it. -/
structure AuthorizedFor (c : ControlPlane) (r : CommittedRecoveryAssignment)
    (a : ActorTakeoverAuthorization) : Prop where
  groupId : a.groupId = r.groupId
  taskRef : a.taskRef = r.taskRef
  roleId : a.roleId = r.roleId
  previous : a.previousNodeId = r.previousNodeId
  replacement : a.replacementNodeId = r.replacementNodeId
  actor : c.actorOf r.groupId r.taskRef r.roleId = some a.actorId

/-- What the restore of a checkpoint looks for. -/
structure CheckpointInv (c : ControlPlane) : Prop where
  groups : c.MissionGroups
  successions : c.Successions
  versions : c.MembershipsCurrent
  covered : c.TasksCovered
  placed : RolesPlaced c
  commitments : CommitmentsPlaced c
  waiting : ∀ id task role node actor, c.WaitingAt id task role node →
    c.actorOf id task role = some actor → c.BoundAt task.missionId actor node
  held : ∀ key r, c.pendingRecoveryCommitments.get? key = some r →
    c.WaitingAt r.groupId r.taskRef r.roleId r.previousNodeId
  authorized : ∀ key r a, c.pendingRecoveryCommitments.get? key = some r →
    r.actorTakeover = some a → AuthorizedFor c r a

/-! ### Waiting Roles -/

lemma WaitsAlone.waiting (h : WaitsAlone c r a)
    {task : TaskRef} {role : RoleId} {node : NodeId} (hw : c.WaitingAt id task role node)
    (hother : ¬ (id = r.groupId ∧ task = r.taskRef ∧ role = r.roleId))
    (hmission : task.missionId = r.taskRef.missionId)
    (hactor : c.actorOf id task role = some a.actorId) : node = r.replacementNodeId := by
  obtain ⟨v, hv, slot, hslot, rfl⟩ := hw
  obtain ⟨g, hg, hview⟩ := view_eq_some.mp hv
  obtain ⟨t, -, rfl⟩ := view_eq_some.mp hview
  exact h (id, g) (mem_entries_iff.mpr hg) (toLex (task, role), slot)
    (mem_entries_iff.mpr hslot) hother hmission hactor

lemma rebound_not_waiting {g' : ExecutionGroup} (hgroups : c.MissionGroups)
    (valid : validateRebind c e r = .ok (g, slot)) (stored : g.refreshMembership = .ok g')
    {node : NodeId} :
    ¬ ((c.setGroup r.groupId g').finishRebind r).WaitingAt r.groupId r.taskRef r.roleId node := by
  rintro ⟨v, hv, slot', hslot', -⟩
  obtain ⟨_, hrebind⟩ := validateRebind_ok valid
  have hgroup : ((c.setGroup r.groupId g').finishRebind r).group r.groupId = some g' := by
    rw [group_of_groups (finishRebind_groups _ _), setGroup_group, if_pos rfl]
  rw [view_of_group hgroup, Stored.view (.inl stored)] at hv
  rcases reboundGroup_ok hrebind.rebound with ⟨t, ht, -, rfl⟩ | ⟨ht, -, -⟩
  · rw [withTaskRole_view ht] at hv
    obtain ⟨v₀, -, rfl⟩ := map_eq_some_iff.mp hv
    rw [if_pos rfl] at hslot'
    change (if r.roleId = r.roleId then none else v₀.slots r.roleId) = some slot' at hslot'
    rw [if_pos rfl] at hslot'
    cases hslot'
  · -- The slot of a Mission Group belongs to one of its Tasks.
    have hplanned : c.GroupsPlanned := fun id g hg => (hgroups id g hg).planned
    obtain ⟨v₀, hv₀, -⟩ := waitingAt_of_slot hplanned hrebind.group hrebind.slotFound
    obtain ⟨g₀, hg₀, hview⟩ := view_eq_some.mp hv₀
    obtain ⟨t, ht', -⟩ := view_eq_some.mp hview
    cases hrebind.group.symm.trans hg₀
    cases ht.symm.trans ht'

section

variable {c' : ControlPlane} {call : Call}

lemma Effect.waiting_placed (h : Effect c call c') (hkeeps : call.KeepsCheckpoint c)
    (hc : CheckpointInv c) {task : TaskRef} {role : RoleId}
    {node : NodeId} {actor : ActorId} (hw : c'.WaitingAt id task role node)
    (hactor : c'.actorOf id task role = some actor) : c'.BoundAt task.missionId actor node := by
  obtain ⟨-, hgen, hplace, -, hwait⟩ := hkeeps
  have hold := h.waiting_cases hw
  obtain ⟨g, hg⟩ : ∃ g, c.group id = some g := hold.elim (·.group) (·.group)
  rw [h.actorOf_kept hg] at hactor
  have hbound : c.BoundAt task.missionId actor node := by
    rcases hold with hold | hold
    · exact hc.waiting _ _ _ _ actor hold hactor
    · exact hc.placed.assigned _ _ _ _ actor hold hactor
  rcases h.boundAt hbound with hkept | ⟨e, r, a, rfl, htakeover, hmission, rfl, hmoved⟩
  · exact hkept
  · -- After a takeover only Roles that were on the replacement are left.
    rcases hold with hold | hold
    · by_cases hown : id = r.groupId ∧ task = r.taskRef ∧ role = r.roleId
      · obtain ⟨rfl, rfl, rfl⟩ := hown
        rcases h.rebind_cases hgen with rfl | ⟨g₁, g', _, valid, stored, rfl⟩
        · exact hbound
        · exact (rebound_not_waiting hc.groups valid stored hw).elim
      · rw [(hwait a htakeover).waiting hold hown hmission.symm hactor]
        exact hmoved
    · rw [(hplace a htakeover).assigned hold hmission.symm hactor]
      exact hmoved

/-! ### Commitments -/

lemma Effect.releasesGroup_pending (h : Effect c call c') (hcall : call.releasesGroup = some id) :
    c' = c ∨ ∀ task role, c'.pendingRecoveryCommitments.get? (recoveryKey id task role) = none := by
  have hdropped : ∀ (c₁ : ControlPlane) (rs : List ResourceId) (g : ExecutionGroup) (task : TaskRef)
      (role : RoleId), ((c₁.releaseGroupOwnership id rs).setGroup id
        g).pendingRecoveryCommitments.get? (recoveryKey id task role) = none := by
    intro c₁ rs g task role
    rw [setGroup_pending, eq_none_iff_forall_ne_some]
    intro r hr
    exact (releaseGroupOwnership_pending_get? hr).2 rfl
  cases call with
  | releaseGroup =>
    cases hcall
    cases h with
    | unchanged => exact .inl rfl
    | groupMoved move | taskMoved move => cases move
    | groupReleased => exact .inr (hdropped _ _ _)
  | supersedeMissionGroup =>
    cases hcall
    cases h with
    | unchanged => exact .inl rfl
    | groupMoved move | taskMoved move => cases move
    | groupSuperseded => exact .inr (hdropped _ _ _)
  | _ => cases hcall

lemma Effect.waiting_held (h : Effect c call c') (hgen : call.HasGeneration c)
    (hcovered : c.TasksCovered) {task : TaskRef} {role : RoleId}
    {node : NodeId} (hw : c.WaitingAt id task role node)
    (hpending : ∃ r, c'.pendingRecoveryCommitments.get? (recoveryKey id task role) = some r) :
    c'.WaitingAt id task role node := by
  rcases eq_or_ne c' c with rfl | hne
  · exact hw
  obtain ⟨r, hr⟩ := hpending
  obtain ⟨v, hv, slot, hslot, hnode⟩ := hw
  obtain ⟨v', hv'⟩ := h.view_kept hv
  have hold : ∀ v₀, c.view id task = some v₀ → v₀ = v := fun v₀ hv₀ =>
    some.inj (hv₀.symm.trans hv)
  obtain ⟨g, hg, -⟩ := view_eq_some.mp hv
  refine ⟨v', hv', slot, ?_, hnode⟩
  rcases h.view_cases hv' with hsame | hchange
  · rw [hold v' hsame]
    exact hslot
  · cases hchange with
    | planned new | carried new => cases new.symm.trans hg
    | cleared release =>
      rcases h.releasesGroup_pending release with hsame | hnone
      · exact absurd hsame hne
      · cases (hnone task role).symm.trans hr
    | regrouped before | moved move before | activated before | bound own before
    | taskReleased before | contextReleased before =>
      obtain rfl := hold _ before
      exact hslot
    | @roleReleased _ role' a v₀ release before unfinished found =>
      obtain rfl := hold _ before
      -- A Role that waits has no binding to give up.
      have hfree := ((hcovered id task v₀ before).waiting role slot hslot).2 a
        (mem_of_find?_eq_some found)
      have hrole : a.roleId = role' := by simpa using find?_some found
      have hne' : role ≠ role' := fun heq => hfree (hrole.trans heq.symm)
      exact (if_neg hne').trans hslot
    | @rebound e r₀ g₀ slot₀ v₀ own before =>
      obtain rfl := hold _ before
      by_cases hrole : role = r₀.roleId
      · obtain ⟨_, _, _, -, -, rfl⟩ := (h.rebind_cases hgen).resolve_left hne
        obtain ⟨rfl, rfl⟩ := own
        subst hrole
        cases (OrdMap.get?_erase_self _ _).symm.trans hr
      · exact (if_neg hrole).trans hslot

lemma recoveryCommit_authorized {requirement : TaskRequirement}
    {p : RecoveryAssignmentProposal} {role : RoleRequirement}
    (hc : CheckpointInv c) (valid : validateRecoveryCommit c e requirement p = .ok role)
    (ha : p.actorTakeover = some a) : AuthorizedFor c p.committed a := by
  obtain ⟨g, slot, hv⟩ := validateRecoveryCommit_ok valid
  have hactor := hv.actor
  rw [validateRecoveryActor, ha] at hactor
  simp only [validateActorTakeover, lookupGroup, bind_eq_ok, okOr_eq_ok, refuse_eq_ok,
    or_eq_false_iff, bne_eq_false_iff_eq] at hactor
  obtain ⟨_, ⟨_, ⟨⟨⟨hgroup, htask⟩, hrole⟩, hprevious⟩, g', hg', _, hrole', _, hact, -⟩,
    hreplacement⟩ := hactor
  obtain rfl : g = g' := some.inj (hv.group.symm.trans hg')
  refine ⟨hgroup, htask, hrole, hprevious, hreplacement.symm, ?_⟩
  -- The Role waits, so the plan knows it.
  obtain ⟨v, hview, hslot⟩ := waitingAt_of_slot hc.placed.planned hv.group hv.slotFound
  have hknown := ((hc.covered _ _ v hview).waiting _ slot hslot).1
  obtain ⟨g₁, hg₁, hgview⟩ := view_eq_some.mp hview
  obtain ⟨t, ht, rfl⟩ := view_eq_some.mp hgview
  cases hv.group.symm.trans hg₁
  obtain ⟨_, hreq⟩ := ((hc.placed.planned _ g hv.group).role_known ht _).mp hknown
  have hsame := recoveryRole_authoritative hrole' hreq
  show c.actorOf p.groupId p.taskRef p.roleId = some a.actorId
  rw [actorOf, hv.group, bind_some, hreq, bind_some, ← hsame]
  exact hact

/-- The invariant is kept. -/
lemma Effect.checkpointInv (h : Effect c call c') (hkeeps : call.KeepsCheckpoint c)
    (hc : CheckpointInv c) : CheckpointInv c' := by
  have hkeeps' := hkeeps
  obtain ⟨hcoverage, hgen, hplace, hcommits, -⟩ := hkeeps'
  refine ⟨h.missionGroups hc.groups, h.successions hc.successions,
    h.membershipsCurrent hgen hc.versions, h.tasksCovered hcoverage hc.covered,
    h.rolesPlaced (fun _ => hgen) hplace (hc.commitments.bindsCurrent call) hc.placed,
    h.commitmentsPlaced hcommits hc.placed hc.commitments,
    fun _ _ _ _ _ hw hactor => h.waiting_placed hkeeps hc hw hactor, ?held, ?authorized⟩
  case held =>
    intro key r hr
    rcases h.pending_cases hr with hold | hnew
    · obtain ⟨hkey, -⟩ := hc.commitments.keyed key r hold
      exact h.waiting_held hgen hc.covered (hc.held key r hold) ⟨r, hkey ▸ hr⟩
    · cases hnew with
      | committed valid =>
        obtain ⟨g, slot, hv⟩ := validateRecoveryCommit_ok valid
        obtain ⟨v, hview, hslot⟩ := waitingAt_of_slot hc.placed.planned hv.group hv.slotFound
        exact h.waiting_held hgen hc.covered ⟨v, hview, slot, hslot, hv.previous⟩ ⟨_, hr⟩
  case authorized =>
    intro key r a hr ha
    rcases h.pending_cases hr with hold | hnew
    · obtain ⟨-, g, hg⟩ := hc.commitments.keyed key r hold
      have hauth := hc.authorized key r a hold ha
      exact { hauth with actor := (h.actorOf_kept hg _ _).trans hauth.actor }
    · cases hnew with
      | committed valid =>
        obtain ⟨g, _, hv⟩ := validateRecoveryCommit_ok valid
        have hauth := recoveryCommit_authorized hc valid ha
        exact { hauth with actor := (h.actorOf_kept hv.group _ _).trans hauth.actor }

end

lemma ControlPlane.Idle.checkpointInv (h : c.Idle) : CheckpointInv c := by
  refine ⟨h.missionGroups, h.successions, h.membershipsCurrent, h.tasksCovered, h.rolesPlaced,
    h.commitmentsPlaced, ?_, ?_, ?_⟩
  · intro id task role node actor hw
    obtain ⟨g, hg⟩ := hw.group
    rw [group, h.groups] at hg
    cases hg
  · intro key r hr
    rw [h.commitments] at hr
    cases hr
  · intro key r a hr
    rw [h.commitments] at hr
    cases hr

/-! ### The checks pass -/

lemma mem_unboundOf {task : TaskRef} {role : RoleId} :
    (role, slot) ∈ unboundOf g task ↔ g.slots task role = some slot := by
  unfold unboundOf slots
  simp only [List.mem_map, mem_filter, beq_iff_eq]
  constructor
  · rintro ⟨⟨_, _⟩, ⟨hmem, rfl⟩, heq⟩
    obtain ⟨rfl, rfl⟩ := Prod.mk.inj heq
    exact mem_entries_iff.mp hmem
  · intro hget
    exact ⟨(toLex (task, role), slot), ⟨mem_entries_iff.mpr hget, rfl⟩, rfl⟩

lemma unboundOf_nodup (g : ExecutionGroup) (task : TaskRef) :
    ((unboundOf g task).map (·.1)).Nodup := by
  have hmap : (unboundOf g task).map (·.1) =
      ((g.taskUnboundRoles.entries.filter fun e => (ofLex e.1).1 == task).map (·.1)).map
        fun key => (ofLex key).2 := by
    unfold unboundOf
    rw [List.map_map, List.map_map]
    rfl
  have hkeys : ((g.taskUnboundRoles.entries.filter fun e => (ofLex e.1).1 == task).map
      (·.1)).Nodup :=
    (OrdMap.nodup_keys g.taskUnboundRoles).sublist (filter_sublist.map _)
  rw [hmap]
  refine hkeys.map_on fun key hkey key' hkey' heq => ?_
  obtain ⟨e, he, rfl⟩ := mem_map.mp hkey
  obtain ⟨e', he', rfl⟩ := mem_map.mp hkey'
  have h₁ : (ofLex e.1).1 = task := by simpa using (mem_filter.mp he).2
  have h₂ : (ofLex e'.1).1 = task := by simpa using (mem_filter.mp he').2
  exact ofLex_inj.mp (Prod.ext (h₁.trans h₂.symm) heq)

section

variable {task : TaskRef} {t : TaskExecution} {key : RecoveryKey}

lemma mem_authoritative (hplanned : Planned id g) (ht : g.taskExecution task = some t)
    (role : RoleId) :
    role ∈ (g.rolesOf task).map (·.roleId) ↔ t.roleScopes.contains role = true := by
  rw [hplanned.role_known ht, List.mem_map]
  constructor
  · rintro ⟨r, hr, rfl⟩
    obtain ⟨_, hrole'⟩ := mem_rolesOf.mp hr
    rw [← (hplanned.requirement hrole').1] at hrole'
    exact ⟨r, hrole'⟩
  · rintro ⟨r, hr⟩
    exact ⟨r, mem_rolesOf.mpr ⟨role, hr⟩, (hplanned.requirement hr).1⟩

lemma mem_representedRoles (role : RoleId) : role ∈ representedRoles g task t ↔
      (∃ a ∈ t.assignments, a.roleId = role) ∨ ∃ slot, g.slots task role = some slot := by
  unfold representedRoles
  rw [mem_append, List.mem_map, List.mem_map]
  refine or_congr Iff.rfl ⟨?_, ?_⟩
  · rintro ⟨⟨_, slot⟩, hmem, rfl⟩
    exact ⟨slot, mem_unboundOf.mp hmem⟩
  · rintro ⟨slot, hslot⟩
    exact ⟨(role, slot), mem_unboundOf.mpr hslot, rfl⟩

lemma validateCheckpointActorAssignment_ok (hg : c.group id = some g) {role : RoleId}
    {node : NodeId} {r : RoleRequirement} (hr : g.roleRequirement task role = some r)
    (hplaced : ∀ actor, c.actorOf id task role = some actor → c.BoundAt task.missionId actor node) :
    validateCheckpointActorAssignment c g task role node = .ok () := by
  simp only [validateCheckpointActorAssignment, bind_eq_ok, okOr_eq_ok]
  refine ⟨r, hr, ?_⟩
  cases hactor : r.actorId with
  | none => rfl
  | some actor =>
    have hof : c.actorOf id task role = some actor := by
      rw [actorOf, hg, bind_some, hr]
      exact hactor
    obtain ⟨b, hb, hnode⟩ := hplaced actor hof
    have hauthority : c.actorAuthorityNode task.missionId actor = some node := by
      rw [actorAuthorityNode, hb, map_some, hnode, some_or]
    show refuse (c.actorAuthorityNode task.missionId actor != some node) _ = .ok ()
    rw [hauthority, bne_self_eq_false, refuse_false]

lemma validateTaskCheckpointCoverage_ok (hplanned : Planned id g)
    (ht : g.taskExecution task = some t)
    (hcovered : Covered ⟨g.lifecycle, t, g.slots task, g.roleRequirement task⟩) :
    validateTaskCheckpointCoverage g t ((g.rolesOf task).map (·.roleId))
      (representedRoles g task t) = .ok () := by
  have htask := (hplanned.task_ref ht).1
  have hempty : t.assignments = [] → (∀ role, g.slots task role = none) →
      (representedRoles g task t).isEmpty = true := by
    intro hnil hsettled
    rw [List.isEmpty_iff, eq_nil_iff_forall_not_mem]
    intro role hrole
    rcases (mem_representedRoles role).mp hrole with ⟨a, ha, -⟩ | ⟨slot, hslot⟩
    · rw [hnil] at ha
      cases ha
    · cases (hsettled role).symm.trans hslot
  have hknown : ∀ role ∈ representedRoles g task t, t.roleScopes.contains role = true := by
    intro role hrole
    rcases (mem_representedRoles role).mp hrole with ⟨a, ha, rfl⟩ | ⟨slot, hslot⟩
    · exact hcovered.known a ha
    · exact (hcovered.waiting role slot hslot).1
  have hexact : TaskView.Exact ⟨g.lifecycle, t, g.slots task, g.roleRequirement task⟩ →
      (ofList (representedRoles g task t) ==
        ofList ((g.rolesOf task).map (·.roleId))) = true := by
    intro he
    rw [beq_iff_eq, ofList_eq_iff]
    intro role
    rw [mem_authoritative hplanned ht]
    exact ⟨hknown role, fun hrole => (mem_representedRoles role).mpr (he role hrole)⟩
  have hsettled : (∀ role, g.slots task role = none) →
      (g.taskUnboundRoles.keys.any fun k => (ofLex k).1 == t.taskRef) = false := by
    intro hnone
    rw [List.any_eq_false]
    intro key hkey hk
    obtain ⟨slot, hslot⟩ := mem_keys_iff.mp hkey
    have hkey' : (ofLex key).1 = task := (eq_of_beq hk).trans htask
    have hget : g.slots task (ofLex key).2 = some slot := by
      rw [← hkey']
      exact hslot
    cases (hnone _).symm.trans hget
  unfold validateTaskCheckpointCoverage
  split
  · next hreleased =>
    obtain ⟨hnil, hnone⟩ := hcovered.released hreleased
    rw [hempty hnil hnone]
    rfl
  · next hlive =>
    have hcoverage := hcovered.coverage hlive
    rw [refuse_eq_ok, not_eq_false']
    show coverageValid t.lifecycle _ _ _ = true
    change TaskView.Coverage _ t.lifecycle at hcoverage
    -- One case per lifecycle, as the validator has them.
    cases hl : t.lifecycle with
    | pending =>
      rw [hl] at hcoverage
      exact hempty hcoverage.1 hcoverage.2
    | ready =>
      rw [hl] at hcoverage
      simp only [coverageValid, hsettled hcoverage.1, Bool.not_false, Bool.true_and, or_eq_true]
      exact hcoverage.2.imp (fun hnil => hempty hnil hcoverage.1) hexact
    | awaitingSatisfaction =>
      rw [hl] at hcoverage
      simp only [coverageValid, hsettled hcoverage.1, Bool.not_false, Bool.true_and]
      exact hexact hcoverage.2
    | completed =>
      rw [hl] at hcoverage
      simp only [coverageValid, hsettled hcoverage, Bool.not_false]
    | active | blocked | failed | satisfactionRejected | cancelled =>
      rw [hl] at hcoverage
      exact hexact hcoverage

variable (hc : CheckpointInv c)
include hc

section

variable (hg : c.group id = some g)
include hg

section

variable (ht : g.taskExecution task = some t)
include ht

lemma assignments_ok : checkAgainstEarlier (fun earlier a => do
      refuse ((earlier.any fun b => b.roleId == a.roleId) ||
          !((g.rolesOf task).map (·.roleId)).contains a.roleId)
        (.invalidProposal "checkpoint TaskExecution contains an unknown or duplicate assignment")
      validateCheckpointActorAssignment c g task a.roleId a.nodeId) [] t.assignments = .ok () := by
  have hplanned := (hc.groups id g hg).planned
  have hview := view_of_execution hg ht
  have hcovered := hc.covered id task _ hview
  rw [checkAgainstEarlier_eq_ok]
  intro l a r hsplit
  have hmem : a ∈ t.assignments := by simp [hsplit]
  have hknown := hcovered.known a hmem
  obtain ⟨_, hrole⟩ := (hplanned.role_known ht a.roleId).mp hknown
  -- No earlier assignment is for the same Role.
  have hdistinct : (l.any fun b => b.roleId == a.roleId) = false := by
    have hnodup := hcovered.distinct
    change (t.assignments.map (·.roleId)).Nodup at hnodup
    exact not_any_of_nodup (hsplit ▸ hnodup)
  have hauthoritative : ((g.rolesOf task).map (·.roleId)).contains a.roleId = true := by
    rw [contains_iff_mem, mem_authoritative hplanned ht]
    exact hknown
  rw [nil_append, hdistinct, hauthoritative]
  refine validateCheckpointActorAssignment_ok hg hrole fun actor hactor => ?_
  exact hc.placed.assigned _ _ _ _ actor ⟨_, hview, a, hmem, rfl, rfl⟩ hactor

lemma waiting_ok : checkAgainstEarlier (fun earlier (u : RoleId × UnboundRole) => do
      refuse ((t.assignments.any fun a => a.roleId == u.1) || (earlier.any fun v => v.1 == u.1) ||
          !((g.rolesOf task).map (·.roleId)).contains u.1)
        (.invalidProposal "checkpoint Task recovery contains an unknown or duplicate role")
      validateCheckpointActorAssignment c g task u.1 u.2.previousNodeId) [] (unboundOf g task) =
        .ok () := by
  have hplanned := (hc.groups id g hg).planned
  have hview := view_of_execution hg ht
  have hcovered := hc.covered id task _ hview
  rw [checkAgainstEarlier_eq_ok]
  intro l u r hsplit
  have hmem : (u.1, u.2) ∈ unboundOf g task := by simp [hsplit]
  have hslot := mem_unboundOf.mp hmem
  obtain ⟨hknown, hfree⟩ := hcovered.waiting u.1 u.2 hslot
  obtain ⟨_, hrole⟩ := (hplanned.role_known ht u.1).mp hknown
  have hunbound : (t.assignments.any fun a => a.roleId == u.1) = false := by
    rw [List.any_eq_false]
    intro a ha heq
    exact hfree a ha (eq_of_beq heq)
  have hdistinct : (l.any fun v => v.1 == u.1) = false :=
    not_any_of_nodup (hsplit ▸ unboundOf_nodup g task)
  have hauthoritative : ((g.rolesOf task).map (·.roleId)).contains u.1 = true := by
    rw [contains_iff_mem, mem_authoritative hplanned ht]
    exact hknown
  rw [nil_append, hunbound, hdistinct, hauthoritative]
  refine validateCheckpointActorAssignment_ok hg hrole fun actor hactor => ?_
  exact hc.waiting _ _ _ _ actor ⟨_, hview, u.2, hslot, rfl⟩ hactor

lemma validateTaskCheckpoint_ok : validateTaskCheckpoint c g (task, t) = .ok () := by
  have hplanned := (hc.groups id g hg).planned
  obtain ⟨htask, hmission⟩ := hplanned.task_ref ht
  simp only [validateTaskCheckpoint, bind_eq_ok, refuse_eq_ok]
  refine ⟨(), ?identity, (), ?continuity, (), ?metadata, (), assignments_ok hc hg ht, (),
    waiting_ok hc hg ht, ?coverage⟩
  case identity => simp [htask, hmission]
  case continuity =>
    rw [List.any_eq_false]
    intro role hrole hunknown
    rw [hplanned.contextRole_known ht hrole] at hunknown
    cases hunknown
  case metadata =>
    rw [bne_eq_false_iff_eq, ofList_eq_iff]
    intro role
    rw [mem_authoritative hplanned ht, mem_keys_iff, contains_eq_true_iff]
  case coverage =>
    exact validateTaskCheckpointCoverage_ok hplanned ht
      (hc.covered id task _ (view_of_execution hg ht))

end

lemma validateMissionGroupCheckpoint_ok : validateMissionGroupCheckpoint c g = .ok () := by
  have hmission := hc.groups id g hg
  simp only [validateMissionGroupCheckpoint, bind_eq_ok, refuse_eq_ok, forM_eq_ok]
  refine ⟨(), ?legacy, (), ?tasks, (), ?roles, ?waiting⟩
  case legacy => simp [hmission.assignments, hmission.unboundRoles]
  case tasks =>
    rintro ⟨_, t⟩ hmem
    exact validateTaskCheckpoint_ok hc hg (mem_entries_iff.mp hmem)
  case roles =>
    rintro ⟨key, r⟩ hmem
    have hget : g.roleRequirement (ofLex key).1 (ofLex key).2 = some r := mem_entries_iff.mp hmem
    obtain ⟨hrole, hm, t, ht⟩ := hmission.planned.requirement hget
    simp [hrole, hm, ht]
  case waiting =>
    intro key hkey
    obtain ⟨slot, hslot⟩ := mem_keys_iff.mp hkey
    obtain ⟨t, ht⟩ := isSome_iff_exists.mp (hmission.waiting key slot hslot)
    have hcovered := hc.covered id _ _ (view_of_execution hg ht)
    obtain ⟨r, hr⟩ := (hmission.planned.role_known ht _).mp
        (hcovered.waiting (ofLex key).2 slot hslot).1
    rw [hr]
    rfl

lemma validateGroupCheckpoint_ok : validateGroupCheckpoint c g = .ok () := by
  have hplanned := (hc.groups id g hg).planned
  have htasks : (g.taskExecutions != ∅) = true := by simpa using hplanned.tasks_ne_empty
  obtain ⟨v, hv, hgeneration, hdigest⟩ := hc.versions id g hg
  have hversion : validateMembershipVersion g = .ok () := by
    unfold validateMembershipVersion
    rw [hv]
    simp [hgeneration, hdigest]
  simp only [validateGroupCheckpoint, bind_eq_ok, refuse_eq_ok, bne_eq_false_iff_eq]
  refine ⟨(), validateSupersession_ok hc.groups hc.successions hg, (), hplanned.mission, ?_⟩
  rw [if_pos htasks]
  simp only [bind_eq_ok]
  exact ⟨(), validateMissionGroupCheckpoint_ok hc hg, hversion⟩

end

lemma validateCommitmentActor_ok (hr : c.pendingRecoveryCommitments.get? key = some r) :
    validateCommitmentActor c r (c.actorOf r.groupId r.taskRef r.roleId) = .ok () := by
  unfold validateCommitmentActor
  cases htakeover : r.actorTakeover with
  | none =>
    rw [refuse_eq_ok]
    cases hactor : c.actorOf r.groupId r.taskRef r.roleId with
    | none => rfl
    | some actor =>
      obtain ⟨b, hb, hnode⟩ := hc.commitments.committed key r actor hr htakeover hactor
      rw [any_some, actorAuthorityNode, hb, map_some, hnode, some_or, bne_self_eq_false]
  | some a =>
    have hauth := hc.authorized key r a hr htakeover
    obtain ⟨b, hb, hnode⟩ := hc.waiting _ _ _ _ _ (hc.held key r hr) hauth.actor
    simp only [hauth.actor, okOr_some, bind_eq_ok, okOr_eq_ok, refuse_eq_ok, Except.ok.injEq]
    refine ⟨_, rfl, b, hb, ?_⟩
    simp [hauth.groupId, hauth.taskRef, hauth.roleId, hauth.previous, hauth.replacement, hnode]

lemma validateCommitmentCheckpoint_ok (hr : c.pendingRecoveryCommitments.get? key = some r) :
    validateCommitmentCheckpoint c r = .ok () := by
  obtain ⟨v, hview, slot, hslot, hprevious⟩ := hc.held key r hr
  obtain ⟨g, hg, hgview⟩ := view_eq_some.mp hview
  obtain ⟨t, ht, rfl⟩ := view_eq_some.mp hgview
  have hplanned := (hc.groups _ g hg).planned
  have hknown := ((hc.covered _ _ _ hview).waiting _ slot hslot).1
  obtain ⟨_, hrole⟩ := (hplanned.role_known ht _).mp hknown
  have hrecovery : g.recoveryUnboundRole r.taskRef r.roleId = some slot := by
    rw [recoveryUnboundRole, ht]
    exact hslot
  have hactor : (g.roleRequirement r.taskRef r.roleId).bind (·.actorId) =
      c.actorOf r.groupId r.taskRef r.roleId := by
    rw [actorOf, hg, bind_some]
  simp only [validateCommitmentCheckpoint, bind_eq_ok, okOr_eq_ok, refuse_eq_ok]
  refine ⟨g, hg, slot, hrecovery, (), by simpa using hprevious, (), by simp [hrole], ?_⟩
  rw [hactor]
  exact validateCommitmentActor_ok hc hr

lemma CheckpointInv.valid : validateGroupCheckpointAuthority c = .ok () := by
  simp only [validateGroupCheckpointAuthority, bind_eq_ok, forM_eq_ok]
  refine ⟨(), fun g hg => ?_, fun r hr => ?_⟩
  · obtain ⟨id, hget⟩ := mem_values_iff.mp hg
    exact validateGroupCheckpoint_ok hc hget
  · obtain ⟨_, hget⟩ := mem_values_iff.mp hr
    exact validateCommitmentCheckpoint_ok hc hget

end

/-! ### Runs -/

/-- A Task that ended without success, in a Group that is not released, gives its bindings
back. -/
def ReleasesUnsuccessful (w : World) (id : ExecutionGroupId) (task : TaskRef)
    (resources : List ResourceId) : Prop :=
  ∃ g t, w.control.group id = some g ∧ g.lifecycle ≠ .released ∧
    g.taskExecution task = some t ∧ unsuccessful t.lifecycle = true ∧
      (Call.releaseTaskBindings id task resources).Succeeds w

/-- The same, computed. -/
def releasesUnsuccessful (w : World) (id : ExecutionGroupId) (task : TaskRef)
    (resources : List ResourceId) : Bool :=
  (w.control.group id).any fun g => g.lifecycle != .released &&
    ((g.taskExecution task).any fun t => unsuccessful t.lifecycle) &&
      (Call.releaseTaskBindings id task resources).succeeds w

lemma releasesUnsuccessful_iff {task : TaskRef} {resources : List ResourceId} :
    releasesUnsuccessful w id task resources = true ↔ ReleasesUnsuccessful w id task resources := by
  unfold releasesUnsuccessful ReleasesUnsuccessful
  simp only [Option.any_eq_true, and_eq_true, bne_iff_ne, Call.succeeds_iff]
  constructor
  · rintro ⟨g, hg, ⟨hlive, t, ht, hended⟩, hok⟩
    exact ⟨g, t, hg, hlive, ht, hended, hok⟩
  · rintro ⟨g, t, hg, hlive, ht, hended, hok⟩
    exact ⟨g, hg, ⟨hlive, t, ht, hended⟩, hok⟩

/-- The Task passes `validate_task_checkpoint_coverage` in its Group, and the Groups pass
`validate_group_checkpoint_authority`. -/
def Restorable (c : ControlPlane) (id : ExecutionGroupId) (task : TaskRef) : Prop :=
  ∃ g t, c.group id = some g ∧ g.taskExecution task = some t ∧
    validateTaskCheckpointCoverage g t ((g.rolesOf task).map (·.roleId))
      (representedRoles g task t) = .ok () ∧
    validateGroupCheckpointAuthority c = .ok ()

/-- In every run whose calls keep the checkpoint, a Task that ended without success and gave
its bindings back leaves a state that can be restored, then and ever after. -/
theorem released_tasks_stay_restorable {w₀ w₁ w : World} {id : ExecutionGroupId} {task : TaskRef}
    {resources : List ResourceId} (hidle : w₀.Idle)
    (hrun : World.Run (fun w call => call.KeepsCheckpoint w.control) w₀ w₁)
    (hreleases : ReleasesUnsuccessful w₁ id task resources)
    (hkeeps : (Call.releaseTaskBindings id task resources).KeepsCheckpoint w₁.control)
    (hlater : World.Run (fun w call => call.KeepsCheckpoint w.control)
      (w₁.step (.releaseTaskBindings id task resources)) w) : Restorable w.control id task := by
  obtain ⟨g₁, t₁, hg₁, -, ht₁, -, -⟩ := hreleases
  have hinv : CheckpointInv (w₁.step (.releaseTaskBindings id task resources)).control :=
    (Call.effect w₁ _).checkpointInv hkeeps
      (hrun.invariant (P := fun w => CheckpointInv w.control) hidle.control.checkpointInv
        fun w call hinv hcond => (call.effect w).checkpointInv hcond.2 hinv)
  have hinv' : CheckpointInv w.control :=
    hlater.invariant (P := fun w => CheckpointInv w.control) hinv
      fun w call hinv hcond => (call.effect w).checkpointInv hcond.2 hinv
  obtain ⟨v, hv⟩ := hlater.invariant (P := fun w => ∃ v, w.control.view id task = some v)
    ((Call.effect w₁ _).view_kept (view_of_execution hg₁ ht₁)) fun w call ⟨v, hv⟩ _ =>
      (call.effect w).view_kept hv
  obtain ⟨g, hg, hview⟩ := view_eq_some.mp hv
  obtain ⟨t, ht, rfl⟩ := view_eq_some.mp hview
  exact ⟨g, t, hg, ht, validateTaskCheckpointCoverage_ok (hinv'.groups id g hg).planned ht
    (hinv'.covered id task _ hv), hinv'.valid⟩

namespace FailedTask

/-- One Task with one Role of an Actor, which needs an exclusive bay for the Task or for its
Context. -/
def task : TaskRef := ⟨⟨"mission", .refl false⟩, ⟨"task", .refl false⟩⟩
def role : RoleId := ⟨"role", .refl false⟩
def actor : ActorId := ⟨"actor", .refl false⟩
def bay : ResourceId := ⟨"bay", .refl false⟩
def node : NodeId := ⟨"node", .refl false⟩
def group : ExecutionGroupId := ⟨"group", .refl false⟩
def context : CoordinationContextId := ⟨"context", .refl false⟩
def contextRole : ContextRoleId := ⟨"carrier", .refl false⟩

def roleRequirement : RoleRequirement :=
  ⟨role, some actor, [], [⟨.space, 1, .exclusive, none, Nat.one_pos⟩],
    List.nodup_singleton ResourceKind.space⟩

def requirement : TaskRequirement where
  taskRef := task
  roles := [roleRequirement]
  timing := ⟨0, none, none, none⟩
  roles_nonempty := by decide
  roles_distinct := by decide

def continuity (scope : ResourceBindingScope) : TaskContinuity :=
  ⟨context, OrdMap.ofList [(role, contextRole)], OrdMap.ofList [(role, scope)], none⟩

def plan (scope : ResourceBindingScope) : MissionPlan where
  missionId := task.missionId
  objective := "store"
  actors := [⟨actor, none⟩]
  tasks := [⟨"store", requirement, [], continuity scope, .executionReport,
      by cases scope <;> decide,
    by cases scope <;> decide⟩]
  contexts := [⟨context, [⟨contextRole, actor, [], ContextRole.no_envelope⟩], [], .independent⟩]
  valid := by cases scope <;> decide

def evidence : Evidence :=
  .granting 0 [(node, [⟨bay, .space, 1, .exclusive, none, Nat.one_pos⟩])]

def candidates : CandidateSet := ⟨task, OrdMap.ofList [(role, [node])], ∅, ∅, [], ∅⟩

def proposal : AssignmentProposal :=
  ⟨task, [⟨role, node, [bay]⟩], ∅, OrdMap.ofList [(role, roleRequirement)], ∅⟩

def committed : CommittedPlan := ⟨task, [⟨role, node, [bay]⟩], ∅, ∅, none⟩

def start : World := World.start [(task.missionId, "tenant")]

/-- The Task is bound, runs and fails. -/
def calls (scope : ResourceBindingScope) : List Call :=
  [.createMissionGroup group (plan scope), .readyTaskExecution group task,
    .propose evidence requirement candidates [⟨role, node, [bay]⟩],
    .commitForGroupWithState evidence group proposal,
    .bindTaskExecutionWithState evidence group committed, .activateTaskExecution group task 0,
    .failTaskExecution group task]

def failed (scope : ResourceBindingScope) : World := (calls scope).foldl World.step start

end FailedTask

/-- The failed Task of a Context-scoped Role gives nothing back and stays restorable. -/
theorem failed_context_task_stays_restorable : Restorable ((FailedTask.failed .context).step
      (.releaseTaskBindings FailedTask.group FailedTask.task [])).control
      FailedTask.group FailedTask.task := by
  have hrun : World.Run (fun w call => call.KeepsCheckpoint w.control) FailedTask.start
      (FailedTask.failed .context) :=
    Reaches.of_list (FailedTask.calls .context) .refl (by decide +kernel)
  have hreleases : ReleasesUnsuccessful (FailedTask.failed .context) FailedTask.group
      FailedTask.task [] := releasesUnsuccessful_iff.mp (by decide +kernel)
  exact released_tasks_stay_restorable (World.start_idle _) hrun hreleases (by decide +kernel) .refl

/-- The failed Task of a Task-scoped Role gives its bay back, and the checkpoint asks for the
Role. -/
theorem failed_task_release_breaks_checkpoint :
    ¬ ∀ (w₀ w₁ w : World) (id : ExecutionGroupId) (task : TaskRef) (resources : List ResourceId),
      w₀.Idle → World.Run (fun _ _ => True) w₀ w₁ → ReleasesUnsuccessful w₁ id task resources →
      World.Run (fun _ _ => True) (w₁.step (.releaseTaskBindings id task resources)) w →
      Restorable w.control id task := by
  intro h
  have hrun : World.Run (fun _ _ => True) FailedTask.start (FailedTask.failed .task) :=
    Reaches.of_list (FailedTask.calls .task) .refl (by decide +kernel)
  have hreleases : ReleasesUnsuccessful (FailedTask.failed .task) FailedTask.group
      FailedTask.task [FailedTask.bay] := releasesUnsuccessful_iff.mp (by decide +kernel)
  obtain ⟨-, -, -, -, -, hvalid⟩ := h _ _ _ _ _ _ (World.start_idle _) hrun hreleases .refl
  have hrefused : (validateGroupCheckpointAuthority ((FailedTask.failed .task).step
      (.releaseTaskBindings FailedTask.group FailedTask.task [FailedTask.bay])).control).isOk =
        false := by decide +kernel
  rw [hvalid] at hrefused
  cases hrefused

end RoboGuide.Control
