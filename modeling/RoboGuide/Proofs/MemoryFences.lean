import RoboGuide.NodeService.MemoryUse

/-!
# `RoboGuide.Proofs.MemoryFences`: a revoked use of Memory stays revoked

A history keeps, next to the tables, what was admitted and issued and which contexts were
revoked. `memory_use_authority` is about every history: grants of a lease are numbered
without gaps, a renewal follows a live granted interval, nothing is granted or issued after
a revocation, and no request is issued twice. The last holds although old commands are
removed: the head row remembers that their generation was used.
-/

namespace RoboGuide.NodeService

open Lib Fallible OrdMap MemoryJournal Option
open Bool hiding false_and true_and
open List hiding contains contains_insert
open Domain (saturatingSucc u64Max)

variable {id : MemoryUseCommandId} {row : JournalMemoryUseCommand}

/-! ### Histories -/

/-- What the Node is asked to do with Memory use; `reopen` is a restart from the journal. -/
inductive UseCall where
  | control (command : MemoryUseControl) (now : ReceiverClockObservation) (remainingBudgetMs : Nat)
  | effect (commandId : MemoryUseCommandId) (providerId request : String)
      (now : ReceiverClockObservation)
  | effectReceipt (commandId : MemoryUseCommandId) (providerId receipt : String)
  | receipt (receipt : MemoryUseReceipt)
  | prepareContext (preparation : MemoryPreparation) (now : ReceiverClockObservation)
      (validForMs : Nat) (configurationDigest : String)
  | revokeContext (preparationId digest : String)
  | reopen

/-- What happened to the outside: a command taken, an effect issued, a Context revoked. -/
inductive UseEvent where
  | admitted (command : MemoryUseControl)
  | issued (command : MemoryUseControl) (providerId : String)
  | contextRevoked (preparationId : String)
deriving DecidableEq

/-- The tables a call leaves. Opening the journal again does not touch them, nor does a call that
the database itself refuses. -/
def UseCall.run (x : MemoryRules) (j : MemoryJournal) : UseCall → MemoryJournal
  | .control command now remaining => state (admitMemoryUseControl x command now remaining j)
  | .effect id provider request now => state (prepareMemoryUseEffect x id provider request now j)
  | .effectReceipt id provider reply => state (recordMemoryUseEffectReceipt x id provider reply j)
  | .receipt r => state (recordMemoryUseReceipt x r j)
  | .prepareContext p now validFor digest => state (prepareMemoryContext x p now validFor digest j)
  | .revokeContext id digest => state (revokeMemoryContext x id digest j)
  | .reopen => j

def UseCall.events (x : MemoryRules) (j : MemoryJournal) : UseCall → List UseEvent
  | .control command now remaining =>
    match admitMemoryUseControl x command now remaining j with
    | .ok _ _ => if j.commands.contains command.commandId then [] else [.admitted command]
    | .error _ _ => []
  | .effect id provider request now =>
    match prepareMemoryUseEffect x id provider request now j with
    | .ok (true, _) _ => (j.commands.get? id).toList.map fun row => .issued row.command provider
    | _ => []
  | .revokeContext id digest =>
    match revokeMemoryContext x id digest j with
    | .ok _ _ => [.contextRevoked id]
    | .error _ _ => []
  | _ => []

structure UseHistory where
  journal : MemoryJournal
  log : List UseEvent

namespace UseHistory

def empty : UseHistory := ⟨⟨∅, ∅, ∅, ∅, ∅⟩, []⟩

def step (x : MemoryRules) (h : UseHistory) (call : UseCall) : UseHistory :=
  ⟨call.run x h.journal, h.log ++ call.events x h.journal⟩

end UseHistory

/-! ### The guarantees -/

def grantOf (lease : String) : UseEvent → Option Nat
  | .admitted c => if c.operation = .grant ∧ c.leaseId = lease then some c.generation else none
  | _ => none

def generations (lease : String) (log : List UseEvent) : List Nat := log.filterMap (grantOf lease)

/-- The later event must not follow the earlier one. -/
def UseEvent.excludes : UseEvent → UseEvent → Prop
  | .admitted r, .admitted g | .admitted r, .issued g _ =>
    r.operation = .revoke ∧ g.operation = .grant ∧ g.leaseId = r.leaseId
  | .contextRevoked id, .admitted g | .contextRevoked id, .issued g _ =>
    g.operation = .grant ∧ g.preparationId = id
  | .issued c p, .issued c' p' => c.commandId = c'.commandId ∧ p = p'
  | _, _ => False

/-- The lease of the context, or the context itself, was revoked. -/
def Revoked (x : MemoryRules) (log : List UseEvent) (preparationId : String) : Prop :=
  .contextRevoked preparationId ∈ log ∨
    ∃ r, .admitted r ∈ log ∧ r.operation = .revoke ∧ r.leaseId = x.leaseId preparationId

structure UseAuthority (x : MemoryRules) (h : UseHistory) : Prop where
  contiguous : ∀ lease, generations lease h.log = List.range' 1 (generations lease h.log).length
  ordered : h.log.Pairwise fun e e' => ¬ e.excludes e'
  fenced : ∀ id now, Revoked x h.log id → ∃ e, h.journal.currentMemoryUse x id now = .error e
  renewed : ∀ command now remaining,
    .admitted command ∈ (UseCall.control command now remaining).events x h.journal →
    command.operation = .grant → 1 < command.generation →
    ∃ previous, h.journal.commands.get? ⟨.grant, command.leaseId, command.generation - 1⟩ =
        some previous ∧ (previous.receipt.any fun r => r.status == .granted) = true ∧
      0 < previous.budget.remainingMs now

/-! ### What a call does -/

variable {x : MemoryRules} {j : MemoryJournal} {command : MemoryUseControl}
  {now : ReceiverClockObservation} {remaining : Nat} {budget : MemoryReceiverBudget}
  {c : MemoryUseControl}

/-- The identity and the generation of a command that passed validation. -/
structure ControlValid (x : MemoryRules) (c : MemoryUseControl) : Prop where
  lease : c.leaseId = x.leaseId c.preparationId
  identity : c.commandId = ⟨c.operation, c.leaseId, c.generation⟩
  bounded : c.generation < 2 ^ 63
  grant : c.operation = .grant → c.generation ≠ 0
  revoke : c.operation = .revoke → c.generation = 0

lemma controlValid_of_validate (h : c.validate x = .ok ()) : ControlValid x c := by
  simp only [MemoryUseControl.validate, bind_eq_ok, refuse_eq_ok, or_eq_false_iff,
    bne_eq_false_iff_eq, decide_eq_false_iff_not, not_le] at h
  obtain ⟨-, -, -, -, -, -, -, ⟨⟨⟨⟨⟨⟨-, hlease⟩, hidentity⟩, -⟩, -⟩, hbounded⟩, -⟩, hoperation⟩ := h
  refine ⟨hlease, hidentity, hbounded, fun hgrant => ?_, fun hrevoke => ?_⟩
  · simp only [hgrant, or_eq_false_iff, beq_eq_false_iff_ne] at hoperation
    exact hoperation.1.1
  · simp only [hrevoke, or_eq_false_iff, bne_eq_false_iff_eq] at hoperation
    exact hoperation.1

lemma readCommand_ok {found : Option JournalMemoryUseCommand}
    (h : j.readCommand x id = .ok found) : j.commands.get? id = found ∧ ∀ row, found = some row →
      ControlValid x row.command ∧ row.command.commandId = id := by
  unfold readCommand at h
  cases hrow : j.commands.get? id with
  | none =>
    rw [hrow] at h
    obtain rfl := Except.ok.inj h
    simp
  | some =>
    rw [hrow] at h
    simp only [bind_eq_ok, mapError_eq_ok, refuse_eq_ok, bne_eq_false_iff_eq, pure_eq_ok] at h
    obtain ⟨⟨⟩, hvalid, -, hid, rfl⟩ := h
    refine ⟨rfl, ?_⟩
    rintro _ ⟨⟩
    exact ⟨controlValid_of_validate hvalid, hid⟩

/-- The changes a call can make. -/
inductive UseStep (x : MemoryRules) (j : MemoryJournal) : UseCall → MemoryJournal →
    List UseEvent → Prop where
  | same (call : UseCall) : UseStep x j call j []
  | admitted {command : MemoryUseControl} {now : ReceiverClockObservation} {remaining : Nat}
      {budget : MemoryReceiverBudget} (valid : ControlValid x command)
      (new : j.commands.get? command.commandId = none)
      (received : j.receiveCommand x command now remaining = .ok budget) :
      UseStep x j (.control command now remaining) (j.withCommand command budget)
        [.admitted command]
  | issued {id : MemoryUseCommandId} {provider request : String} {now : ReceiverClockObservation}
      {row : JournalMemoryUseCommand} (found : j.commands.get? id = some row)
      (identity : row.command.commandId = id)
      (new : j.effects.get? (toLex (id, provider)) = none)
      (valid : j.validateEffect x row provider request now = .ok ()) :
      UseStep x j (.effect id provider request now)
        { j with effects := j.effects.insert (toLex (id, provider)) ⟨request, none⟩ }
        [.issued row.command provider]
  | effectRecorded {id : MemoryUseCommandId} {provider receipt : String}
      {effect : JournalMemoryUseEffect} :
      UseStep x j (.effectReceipt id provider receipt)
        { j with effects := j.effects.insert (toLex (id, provider)) effect } []
  | recorded {receipt : MemoryUseReceipt} {row : JournalMemoryUseCommand}
      (found : j.commands.get? receipt.commandId = some row) :
      UseStep x j (.receipt receipt)
        { j with commands :=
            j.commands.insert receipt.commandId ⟨row.command, row.budget, some receipt⟩ } []
  | prepared {call : UseCall} {preparations : OrdMap String JournalMemoryPreparation} :
      UseStep x j call { j with preparations } []
  | contextRevoked {id digest : String} {revocations : OrdMap String String}
      (kept : ∀ id', j.revocations.contains id' = true → revocations.contains id' = true)
      (added : revocations.contains id = true) :
      UseStep x j (.revokeContext id digest) { j with revocations } [.contextRevoked id]

lemma UseCall.useStep (x : MemoryRules) (j : MemoryJournal) (call : UseCall) :
    UseStep x j call (call.run x j) (call.events x j) := by
  cases call with
  | control command now remaining =>
    simp only [UseCall.run, UseCall.events, admitMemoryUseControl, run_get_bind, run_check_bind]
    cases hvalid : (command.validate x).mapError JournalError.invalidSpec with
    | error => exact .same _
    | ok =>
      cases hread : j.readCommand x command.commandId with
      | error => exact .same _
      | ok found =>
        obtain ⟨hrow, -⟩ := readCommand_ok hread
        cases found with
        | some =>
          -- a repeated command is answered from its row
          have hcontains : j.commands.contains command.commandId = true := by simp [contains, hrow]
          simp only [run_check_bind, run_pure, hcontains, if_true]
          split <;> exact .same _
        | none =>
          have hcontains : j.commands.contains command.commandId = false := by simp [contains, hrow]
          simp only [run_check_bind]
          cases hreceived : j.receiveCommand x command now remaining with
          | error => exact .same _
          | ok =>
            simp only [run_set_bind, run_pure, state_ok, hcontains]
            exact .admitted (controlValid_of_validate (mapError_eq_ok.mp hvalid)) hrow hreceived
  | effect id provider request now =>
    simp only [UseCall.run, UseCall.events, prepareMemoryUseEffect, run_get_bind, run_check_bind]
    cases hread : j.readCommand x id with
    | error => exact .same _
    | ok found =>
      obtain ⟨hrow, hvalid⟩ := readCommand_ok hread
      cases found with
      | none => exact .same _
      | some row =>
        simp only [okOr_some]
        cases heffect : j.effects.get? (toLex (id, provider)) with
        | some =>
          simp only [run_check_bind, run_pure]
          split <;> exact .same _
        | none =>
          simp only [run_check_bind]
          cases hissue : j.validateEffect x row provider request now with
          | error => exact .same _
          | ok =>
            simp only [run_set_bind, run_pure, state_ok, hrow, toList_some, map_cons, map_nil]
            exact .issued hrow (hvalid row rfl).2 heffect hissue
  | effectReceipt =>
    simp only [UseCall.run, UseCall.events, recordMemoryUseEffectReceipt, run_get_bind,
      run_check_bind]
    repeat' split
    all_goals first | exact .effectRecorded | exact .same _
  | receipt r =>
    simp only [UseCall.run, UseCall.events, recordMemoryUseReceipt, run_get_bind, run_check_bind]
    cases hread : j.readCommand x r.commandId with
    | error => exact .same _
    | ok found =>
      obtain ⟨hrow, -⟩ := readCommand_ok hread
      cases found with
      | none => exact .same _
      | some original =>
        simp only [okOr_some]
        cases original.receipt with
        | some =>
          simp only [run_check_bind, run_pure]
          repeat' split
          all_goals exact .same _
        | none =>
          simp only [run_set_bind, run_pure]
          repeat' split
          all_goals first | exact .recorded hrow | exact .same _
  | prepareContext p =>
    cases hread : j.readPreparation x p.preparationId with
    | error =>
      simp only [UseCall.run, UseCall.events, prepareMemoryContext, run_get_bind, run_check_bind,
        hread]
      repeat' split
      all_goals exact .same _
    | ok found =>
      simp only [UseCall.run, UseCall.events, prepareMemoryContext, run_get_bind, run_check_bind,
        hread]
      cases found with
      | some =>
        simp only [run_check_bind, run_pure]
        repeat' split
        all_goals exact .same _
      | none =>
        simp only [run_check_bind, run_set_bind, run_pure]
        repeat' split
        all_goals exact .prepared
  | revokeContext =>
    simp only [UseCall.run, UseCall.events, revokeMemoryContext, run_get_bind, run_check_bind,
      run_set]
    split
    · split
      · split
        · split
          · refine .contextRevoked (fun id' h => ?_) ?_
            · split
              · exact h
              · simp [contains_insert, h]
            · split
              · assumption
              · simp [contains_insert]
          · exact .same _
        · exact .same _
      · exact .same _
    · exact .same _
  | reopen => exact .same _

/-! ### A grant that is received -/

/-- What the journal says when a new grant is taken. -/
structure GrantReceived (j : MemoryJournal) (command : MemoryUseControl)
    (now : ReceiverClockObservation) : Prop where
  unrevoked : j.revocations.contains command.preparationId = false
  first : j.heads.get? command.leaseId = none → command.generation = 1
  renewal : ∀ head, j.heads.get? command.leaseId = some head →
    head.revoked = false ∧ command.generation = head.highestGeneration + 1 ∧
      ∃ previous, j.commands.get? ⟨.grant, command.leaseId, head.highestGeneration⟩ =
        some previous ∧
        (previous.receipt.any fun r => r.status == .granted) = true ∧
        0 < previous.budget.remainingMs now

lemma receiveCommand_grant (hvalid : ControlValid x command) (hgrant : command.operation = .grant)
    (h : j.receiveCommand x command now remaining = .ok budget) : GrantReceived j command now := by
  simp only [receiveCommand, hgrant, MemoryJournal.validateGrant, bind_eq_ok,
    okOr_eq_ok, refuse_eq_ok, or_eq_false_iff] at h
  obtain ⟨-, -, _, ⟨-, -, _, -, _, -, -, -, -, ⟨⟨hunrevoked, -⟩, -⟩, hhead⟩, -⟩ := h
  refine ⟨hunrevoked, fun hnone => ?_, fun head hsome => ?_⟩
  · rw [hnone] at hhead
    simp only [refuse_eq_ok, or_eq_false_iff, bne_eq_false_iff_eq] at hhead
    exact hhead.1
  · rw [hsome] at hhead
    simp only [validateRenewal, bind_eq_ok, okOr_eq_ok, refuse_eq_ok, or_eq_false_iff,
      bne_eq_false_iff_eq, beq_eq_false_iff_ne, not_eq_eq_eq_not, Bool.not_false] at hhead
    obtain ⟨-, ⟨hrevoked, -⟩, _, hread, previous, rfl, ⟨⟨⟨hnext, hlive⟩, hgranted⟩, -⟩, -⟩ := hhead
    -- the generation is below `2 ^ 63`, so the counter did not saturate
    have hnext' : command.generation = head.highestGeneration + 1 := by
      have hbounded := hvalid.bounded
      simp only [saturatingSucc, u64Max] at hnext
      omega
    exact ⟨hrevoked, hnext', previous, (readCommand_ok hread).1, hgranted, Nat.pos_of_ne_zero hlive⟩

/-! ### The invariant -/

/-- The generation of the grant was admitted. -/
def Used (j : MemoryJournal) (id : MemoryUseCommandId) : Prop :=
  ∃ head, j.heads.get? id.leaseId = some head ∧ id.generation ≤ head.highestGeneration

/-- The journal remembers what the log has seen. -/
structure UseInv (x : MemoryRules) (j : MemoryJournal) (log : List UseEvent) : Prop where
  fresh : ∀ lease, j.heads.get? lease = none → ∀ c, .admitted c ∈ log → c.leaseId ≠ lease
  counted : ∀ lease head, j.heads.get? lease = some head →
    generations lease log = List.range' 1 head.highestGeneration
  revoked : ∀ r, .admitted r ∈ log → r.operation = .revoke →
    ∃ head, j.heads.get? r.leaseId = some head ∧ head.revoked = true
  contexts : ∀ id, .contextRevoked id ∈ log → j.revocations.contains id = true
  rows : ∀ id row, j.commands.get? id = some row →
    ControlValid x row.command ∧ row.command.commandId = id ∧ (id.operation = .grant → Used j id)
  issued : ∀ c p, .issued c p ∈ log →
    (∃ row, j.commands.get? c.commandId = some row) ∧
      j.effects.contains (toLex (c.commandId, p)) = true ∨
    j.commands.get? c.commandId = none ∧ c.commandId.operation = .grant ∧ Used j c.commandId
  ordered : log.Pairwise fun e e' => ¬ e.excludes e'

variable {log : List UseEvent}

lemma generations_concat (lease : String) (e : UseEvent) :
    generations lease (log ++ [e]) = generations lease log ++ (grantOf lease e).toList := by
  rw [generations, filterMap_append]
  cases h : grantOf lease e <;> simp [generations, h]

lemma pairwise_concat {e : UseEvent} (h : log.Pairwise fun e e' => ¬ e.excludes e')
    (hnew : ∀ e' ∈ log, ¬ e'.excludes e) : (log ++ [e]).Pairwise fun e e' => ¬ e.excludes e' := by
  rw [pairwise_append]
  refine ⟨h, pairwise_singleton _ _, fun e' he' y hy => ?_⟩
  rw [List.mem_singleton.mp hy]
  exact hnew e' he'

namespace UseInv

lemma empty : UseInv x ⟨∅, ∅, ∅, ∅, ∅⟩ [] where
  fresh _ _ _ h := nomatch h
  counted _ _ h := nomatch h
  revoked _ h := nomatch h
  contexts _ h := nomatch h
  rows _ _ h := nomatch h
  issued _ _ h := nomatch h
  ordered := .nil

section

variable (h : UseInv x j log)
include h

lemma generations_of_fresh {lease : String}
    (hnone : j.heads.get? lease = none) : generations lease log = [] := by
  rw [generations, filterMap_eq_nil_iff]
  intro e he
  cases e with
  | admitted c => simp [grantOf, h.fresh lease hnone c he]
  | issued | contextRevoked => rfl

lemma grant_allowed
    (hreceived : GrantReceived j command now) : ∀ e ∈ log, ¬ e.excludes (.admitted command) := by
  intro e he hexcludes
  cases e with
  | admitted r =>
    obtain ⟨hrevoke, -, hlease⟩ := hexcludes
    obtain ⟨head, hhead, hrevoked⟩ := h.revoked r he hrevoke
    have hlive := (hreceived.renewal head (hlease ▸ hhead)).1
    rw [hrevoked] at hlive
    cases hlive
  | issued => exact hexcludes
  | contextRevoked id =>
    have hcontext := h.contexts id he
    rw [← hexcludes.2, hreceived.unrevoked] at hcontext
    cases hcontext

lemma recorded {receipt : MemoryUseReceipt} (hfound : j.commands.get? id = some row) :
    UseInv x { j with commands :=
      j.commands.insert id ⟨row.command, row.budget, some receipt⟩ } log where
  fresh := h.fresh
  counted := h.counted
  revoked := h.revoked
  contexts := h.contexts
  rows id' row' hrow := by
    rcases insert_cases hrow with ⟨rfl, rfl⟩ | ⟨-, hrow⟩
    exacts [h.rows _ row hfound, h.rows _ _ hrow]
  issued c p hissued := by
    by_cases hid : c.commandId = id
    · subst hid
      rcases h.issued c p hissued with ⟨-, heffect⟩ | ⟨hnone, -⟩
      · exact .inl ⟨⟨_, get?_insert_self ..⟩, heffect⟩
      · rw [hfound] at hnone
        cases hnone
    · rw [get?_insert_of_ne hid]
      exact h.issued c p hissued
  ordered := h.ordered

lemma issuedAnew {provider request : String} (hfound : j.commands.get? id = some row)
    (hid : row.command.commandId = id) (hnew : j.effects.get? (toLex (id, provider)) = none)
    (hvalid : j.validateEffect x row provider request now = .ok ()) :
    UseInv x { j with effects := j.effects.insert (toLex (id, provider)) ⟨request, none⟩ }
      (log ++ [.issued row.command provider]) where
  fresh lease hnone c hc := h.fresh lease hnone c (by simpa using hc)
  counted lease head hhead := by
    rw [generations_concat]
    simpa [grantOf] using h.counted lease head hhead
  revoked r hr := h.revoked r (by simpa using hr)
  contexts id' hid' := h.contexts id' (by simpa using hid')
  rows := h.rows
  issued c p hissued := by
    rcases List.mem_append.mp hissued with hold | hlast
    · exact (h.issued c p hold).imp_left (And.imp_right fun heffect => by
        simp [contains_insert, heffect])
    · obtain ⟨rfl, rfl⟩ : c = row.command ∧ p = provider := by simpa using hlast
      rw [hid]
      exact .inl ⟨⟨row, hfound⟩, by simp [contains]⟩
  ordered := by
    refine pairwise_concat h.ordered fun e he hexcludes => ?_
    -- a grant is issued under a live head and an unrevoked context
    have hgrant : row.command.operation = .grant →
        ∃ head, j.heads.get? row.command.leaseId = some head ∧ head.revoked = false ∧
          j.revocations.contains row.command.preparationId = false := by
      intro hgrant
      simp only [validateEffect, hgrant, bind_eq_ok, okOr_eq_ok, refuse_eq_ok,
        or_eq_false_iff] at hvalid
      obtain ⟨-, -, _, -, _, -, -, -, head, hhead, -, ⟨hrevoked, hcontext⟩, -⟩ := hvalid
      exact ⟨head, hhead, hrevoked, hcontext⟩
    cases e with
    | admitted r =>
      obtain ⟨hrevoke, hrow, hlease⟩ := hexcludes
      obtain ⟨_, hhead, hrevoked⟩ := h.revoked r he hrevoke
      obtain ⟨_, hhead', hlive, -⟩ := hgrant hrow
      rw [hlease, hhead] at hhead'
      rw [← Option.some.inj hhead', hrevoked] at hlive
      cases hlive
    | issued c p =>
      obtain ⟨hcommand, rfl⟩ := hexcludes
      rw [hid] at hcommand
      rcases h.issued c p he with ⟨-, hold⟩ | ⟨hnone, -⟩
      · rw [hcommand, contains, hnew] at hold
        cases hold
      · rw [hcommand, hfound] at hnone
        cases hnone
    | contextRevoked id' =>
      obtain ⟨-, -, -, hcontext⟩ := hgrant hexcludes.1
      rw [hexcludes.2, h.contexts id' he] at hcontext
      cases hcontext

end

/-! #### A new command -/

lemma grant_of_prunes {old : MemoryUseControl} (hold : ControlValid x old)
    (h : prunes command old = true) : old.operation = .grant := by
  simp only [prunes, and_eq_true, bne_iff_ne] at h
  cases hop : old.operation with
  | grant => rfl
  | revoke => exact absurd (hold.revoke hop) h.1.2

section

variable (h : UseInv x j log) (hvalid : ControlValid x command)
  (hreceived : j.receiveCommand x command now remaining = .ok budget)
include h hvalid hreceived

lemma counted_headAfter : generations command.leaseId (log ++ [.admitted command]) =
      range' 1 (j.headAfter command).highestGeneration := by
  rw [generations_concat, headAfter]
  cases hop : command.operation with
  | revoke =>
    simp only [grantOf, hop, reduceCtorEq, false_and, if_false, toList_none, append_nil]
    cases hhead : j.heads.get? command.leaseId with
    | none => simp [h.generations_of_fresh hhead, hvalid.revoke hop]
    | some => simpa using h.counted _ _ hhead
  | grant =>
    simp only [grantOf, hop, true_and, if_true, toList_some]
    have hgrant := receiveCommand_grant hvalid hop hreceived
    cases hhead : j.heads.get? command.leaseId with
    | none => simp [h.generations_of_fresh hhead, hgrant.first hhead]
    | some head =>
      obtain ⟨-, hnext, -⟩ := hgrant.renewal head hhead
      simp only [h.counted _ _ hhead, hnext]
      rw [range'_1_concat, Nat.add_comm 1]

omit h in
lemma used_withCommand (hused : Used j id) : Used (j.withCommand command budget) id := by
  obtain ⟨head, hhead, hle⟩ := hused
  by_cases hlease : id.leaseId = command.leaseId
  · refine ⟨j.headAfter command, by rw [hlease]; exact get?_insert_self .., ?_⟩
    rw [hlease] at hhead
    rw [headAfter, hhead]
    cases hop : command.operation with
    | revoke => exact hle
    | grant =>
      obtain ⟨-, hnext, -⟩ := (receiveCommand_grant hvalid hop hreceived).renewal head hhead
      simp only [hnext]
      omega
  · exact ⟨head, (get?_insert_of_ne hlease).trans hhead, hle⟩

omit h in
/-- A generation that was admitted is not admitted again. -/
lemma used_ne (hgrant : id.operation = .grant) (hused : Used j id) : id ≠ command.commandId := by
  rintro rfl
  obtain ⟨head, hhead, hle⟩ := hused
  rw [hvalid.identity] at hgrant hhead hle
  -- the new generation lies above the head's
  obtain ⟨-, hnext, -⟩ := (receiveCommand_grant hvalid hgrant hreceived).renewal head hhead
  simp only [hnext] at hle
  omega

lemma rows_withCommand (hrow : (j.withCommand command budget).commands.get? id = some row) :
    ControlValid x row.command ∧ row.command.commandId = id ∧
      (id.operation = .grant → Used (j.withCommand command budget) id) := by
  simp only [withCommand, get?_eq_some_retain, get?_insert] at hrow
  obtain ⟨hrow, -⟩ := hrow
  split at hrow
  · next hid =>
    cases hrow
    refine ⟨hvalid, hid.symm, fun hgrant => ?_⟩
    rw [hid, hvalid.identity] at hgrant ⊢
    refine ⟨j.headAfter command, get?_insert_self .., ?_⟩
    -- the head of a grant counts up to its generation
    rw [headAfter]
    cases j.heads.get? command.leaseId with
    | none => exact le_rfl
    | some =>
      dsimp only at hgrant
      simp [hgrant]
  · obtain ⟨hold, hid, hused⟩ := h.rows id row hrow
    exact ⟨hold, hid, fun hgrant => used_withCommand hvalid hreceived (hused hgrant)⟩

lemma issued_withCommand {p : String} (hissued : .issued c p ∈ log) :
    (∃ row, (j.withCommand command budget).commands.get? c.commandId = some row) ∧
        (j.withCommand command budget).effects.contains (toLex (c.commandId, p)) = true ∨
      (j.withCommand command budget).commands.get? c.commandId = none ∧
        c.commandId.operation = .grant ∧ Used (j.withCommand command budget) c.commandId := by
  rcases h.issued c p hissued with ⟨⟨row, hrow⟩, heffect⟩ | ⟨hnone, hgrant, hused⟩
  · cases hkept : (j.withCommand command budget).commands.get? c.commandId with
    | some row' =>
      refine .inl ⟨⟨row', rfl⟩, ?_⟩
      simp only [withCommand] at hkept
      obtain ⟨effect, heffect⟩ := contains_eq_true_iff.mp heffect
      rw [contains_eq_true_iff]
      refine ⟨effect, (get?_eq_some_retain ..).mpr ⟨heffect, ?_⟩⟩
      simp [contains, hkept]
    | none =>
      -- only grants are pruned
      obtain ⟨hold, hid, hused⟩ := h.rows _ _ hrow
      have hgrant : c.commandId.operation = .grant := by
        simp only [withCommand, get?_retain, get?_insert] at hkept
        split at hkept
        · next heq =>
          have hpruned : prunes command command = true := by simpa using hkept
          rw [heq, hvalid.identity]
          exact grant_of_prunes hvalid hpruned
        · have hpruned : prunes command row.command = true := by simpa [hrow] using hkept
          rw [← hid, hold.identity]
          exact grant_of_prunes hold hpruned
      exact .inr ⟨rfl, hgrant, used_withCommand hvalid hreceived (hused hgrant)⟩
  · have hne := used_ne hvalid hreceived hgrant hused
    refine .inr ⟨?_, hgrant, used_withCommand hvalid hreceived hused⟩
    simp [withCommand, get?_retain, get?_insert_of_ne hne, hnone]

lemma admittedAnew : UseInv x (j.withCommand command budget) (log ++ [.admitted command]) where
  fresh lease hnone c hc := by
    simp only [withCommand, get?_insert] at hnone
    split at hnone
    · cases hnone
    · next hne =>
      rcases List.mem_append.mp hc with hold | hlast
      · exact h.fresh lease hnone c hold
      · obtain rfl : c = command := by simpa using hlast
        exact fun heq => hne heq.symm
  counted lease head hhead := by
    simp only [withCommand, get?_insert] at hhead
    split at hhead
    · next heq =>
      rw [heq, ← Option.some.inj hhead]
      exact counted_headAfter h hvalid hreceived
    · next hne =>
      rw [generations_concat, ← h.counted lease head hhead]
      simp [grantOf, Ne.symm hne]
  revoked r hr hrevoke := by
    rcases List.mem_append.mp hr with hold | hlast
    · obtain ⟨head, hhead, hrevoked⟩ := h.revoked r hold hrevoke
      by_cases hlease : r.leaseId = command.leaseId
      · rw [hlease] at hhead
        refine ⟨j.headAfter command, by rw [hlease]; exact get?_insert_self .., ?_⟩
        rw [headAfter, hhead]
        cases command.operation with
        | revoke => rfl
        | grant => exact hrevoked
      · exact ⟨head, (get?_insert_of_ne hlease).trans hhead, hrevoked⟩
    · obtain rfl : r = command := by simpa using hlast
      refine ⟨j.headAfter r, get?_insert_self .., ?_⟩
      rw [headAfter]
      cases j.heads.get? r.leaseId <;> simp [hrevoke]
  contexts id hid := h.contexts id (by simpa using hid)
  rows _ _ hrow := rows_withCommand h hvalid hreceived hrow
  issued c p hissued := issued_withCommand h hvalid hreceived (by simpa using hissued)
  ordered := by
    refine pairwise_concat h.ordered fun e he hexcludes => ?_
    have hgrant : command.operation = .grant := by
      cases e with
      | admitted => exact hexcludes.2.1
      | issued => exact hexcludes.elim
      | contextRevoked => exact hexcludes.1
    exact h.grant_allowed (receiveCommand_grant hvalid hgrant hreceived) e he hexcludes

end

lemma step {call : UseCall} {j' : MemoryJournal} {events : List UseEvent} (h : UseInv x j log)
    (hstep : UseStep x j call j' events) : UseInv x j' (log ++ events) := by
  cases hstep with
  | same => simpa using h
  | admitted valid _ received => exact h.admittedAnew valid received
  | issued found identity new valid => exact h.issuedAnew found identity new valid
  | recorded found => simpa using h.recorded found
  | prepared =>
    rw [append_nil]
    exact ⟨h.fresh, h.counted, h.revoked, h.contexts, h.rows, h.issued, h.ordered⟩
  | effectRecorded =>
    rw [append_nil]
    refine ⟨h.fresh, h.counted, h.revoked, h.contexts, h.rows, fun c p hissued => ?_, h.ordered⟩
    refine (h.issued c p hissued).imp_left (And.imp_right fun heffect => ?_)
    simp [contains_insert, heffect]
  | @contextRevoked id _ _ kept added =>
    refine ⟨fun lease hnone c hc => h.fresh lease hnone c (by simpa using hc),
      fun lease head hhead => ?_, fun r hr => h.revoked r (by simpa using hr), fun id' hid' => ?_,
      h.rows, fun c p hc => h.issued c p (by simpa using hc),
      pairwise_concat h.ordered fun e _ hexcludes => ?_⟩
    · rw [generations_concat]
      simpa [grantOf] using h.counted lease head hhead
    · rcases List.mem_append.mp hid' with hold | hlast
      · exact kept id' (h.contexts id' hold)
      · obtain rfl : id' = id := by simpa using hlast
        exact added
    · cases e <;> exact hexcludes

lemma run (calls : List UseCall) : let h := calls.foldl (UseHistory.step x) .empty
    UseInv x h.journal h.log :=
  foldlRecOn (motive := fun h : UseHistory => UseInv x h.journal h.log) calls _ empty
    fun _ h call _ => h.step (call.useStep x _)

lemma fenced (h : UseInv x j log) {id : String} (hrevoked : Revoked x log id) :
    ∃ e, j.currentMemoryUse x id now = .error e := by
  cases hresult : j.currentMemoryUse x id now with
  | error e => exact ⟨e, rfl⟩
  | ok =>
    simp only [currentMemoryUse, bind_eq_ok, okOr_eq_ok, refuse_eq_ok, or_eq_false_iff] at hresult
    obtain ⟨_, hhead, -, ⟨⟨hlive, hcontext⟩, -⟩, -⟩ := hresult
    rcases hrevoked with hrevoked | ⟨r, hr, hrevoke, hlease⟩
    · rw [h.contexts id hrevoked] at hcontext
      cases hcontext
    · obtain ⟨_, hhead', hrevoked⟩ := h.revoked r hr hrevoke
      rw [hlease, hhead] at hhead'
      rw [Option.some.inj hhead', hrevoked] at hlive
      cases hlive

end UseInv

/-- After every sequence of calls and restarts, the generations of a lease have no gap, no revoked
lease or Context is used again, no effect is issued twice, and a renewal extends a live grant. -/
theorem memory_use_authority (x : MemoryRules) (calls : List UseCall) :
    UseAuthority x (calls.foldl (UseHistory.step x) .empty) := by
  have hinv := UseInv.run (x := x) calls
  dsimp only at hinv
  generalize calls.foldl (UseHistory.step x) .empty = h at hinv
  refine ⟨fun lease => ?_, hinv.ordered, fun _ _ => hinv.fenced, ?_⟩
  · cases hhead : h.journal.heads.get? lease with
    | none => simp [hinv.generations_of_fresh hhead]
    | some head => simp [hinv.counted lease head hhead]
  · intro command now remaining hadmitted hgrant hlater
    have hstep := (UseCall.control command now remaining).useStep x h.journal
    generalize (UseCall.control command now remaining).run x h.journal = j' at hstep
    generalize (UseCall.control command now remaining).events x h.journal = events
        at hstep hadmitted
    cases hstep with
    | same | prepared => cases hadmitted
    | admitted valid _ received =>
      have hreceived := receiveCommand_grant valid hgrant received
      cases hhead : h.journal.heads.get? command.leaseId with
      | none => exact absurd (hreceived.first hhead) (by omega)
      | some head =>
        obtain ⟨-, hnext, hprevious⟩ := hreceived.renewal head hhead
        rw [hnext, Nat.add_sub_cancel]
        exact hprevious

end RoboGuide.NodeService
