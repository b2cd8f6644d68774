import RoboGuide.Control.Admission
import RoboGuide.Lib.Rebuild

/-!
# `RoboGuide.Proofs.QuotaRuns`: the quota ledger over whole runs

Every operation keeps each configured ceiling, keeps the limits and claims acceptable one by one,
and changes nothing when it is refused (`Kept`). `validate` asks for one thing more that no
operation checks: a resource claimed as a whole has no other claim. `ledger_run` says that a run
stays valid exactly when none of its steps enters such a claim.
-/

namespace RoboGuide.Control

open Domain Lib Fallible List QuotaClaim QuotaLedger OrdMap

variable {l l' : QuotaLedger} {id : ClaimId} {claim old : QuotaClaim} {limit : QuotaLimit}
  {limits limits' : List QuotaLimit} {tenant : String} {kind : ResourceKind}

/-! ### Use -/

/-- What a claim adds to the use of a category by a tenant. -/
def QuotaClaim.charge (tenant : String) (kind : ResourceKind) (c : QuotaClaim) : Nat :=
  if c.tenantId = tenant ∧ c.kind = kind then c.units else 0

namespace QuotaLedger

lemma used_eq : l.used tenant kind = (l.claims.values.map (·.charge tenant kind)).sum := by
  unfold used
  induction l.claims.values with
  | nil => rfl
  | cons c cs ih =>
    rw [filter_cons, map_cons, sum_cons, ← ih, charge]
    by_cases h : c.tenantId = tenant ∧ c.kind = kind <;> simp [h]

variable (claim tenant kind) in
lemma used_insert (h : l.claims.get? id = none) :
    used { l with claims := l.claims.insert id claim } tenant kind =
      claim.charge tenant kind + l.used tenant kind := by
  rw [used_eq, used_eq, ((perm_values_insert claim h).map _).sum_eq, map_cons, sum_cons]

variable (claim tenant kind) in
lemma used_replace (h : l.claims.get? id = some old) :
    used { l with claims := l.claims.insert id claim } tenant kind + old.charge tenant kind =
      l.used tenant kind + claim.charge tenant kind := by
  -- both ledgers add one claim to the one without it
  have hrest : (l.claims.erase id).get? id = none := get?_erase_self _ _
  have hold : l.claims = (l.claims.erase id).insert id old := by
    ext1 k
    rw [get?_insert, get?_erase]
    split
    · next hk => rw [hk, h]
    · rfl
  have hl := used_insert (l := { l with claims := l.claims.erase id }) old tenant kind hrest
  have hl' := used_insert (l := { l with claims := l.claims.erase id }) claim tenant kind hrest
  simp only [← hold] at hl hl'
  change l.used tenant kind = _ at hl
  rw [hold, insert_insert]
  omega

lemma used_retain_le (p : ClaimId → QuotaClaim → Bool) :
    used { l with claims := l.claims.retain p } tenant kind ≤ l.used tenant kind := by
  rw [used_eq, used_eq]
  exact ((filter_sublist.map _).map _).sum_le_sum fun _ _ => Nat.zero_le _

/-! ### Limits -/

lemma limitFor_mem (h : l.limitFor tenant kind = some limit) :
    limit ∈ l.limits ∧ limit.tenantId = tenant ∧ limit.kind = kind := by
  refine ⟨mem_of_find?_eq_some h, ?_⟩
  simpa using find?_some h

lemma checkLimit_eq_ok {used requested : Nat} : l.checkLimit tenant kind used requested = .ok () ↔
      ∀ limit, l.limitFor tenant kind = some limit → used + requested ≤ limit.maxUnits := by
  unfold checkLimit
  cases l.limitFor tenant kind <;> simp

/-- Limits that `setLimit` accepts, in their order and not below the use. -/
structure LimitsKept (l : QuotaLedger) (limits : List QuotaLimit) : Prop where
  sorted : limits.Pairwise fun a b => a.key < b.key
  valid : ∀ limit ∈ limits, validateText limit.tenantId "tenant_id" = .ok () ∧
    (limit.maxUnits == 0 ||
      decide (ResourceQuotaRegistry.maxLimitUnits < limit.maxUnits)) = false
  within : ∀ limit ∈ limits, l.used limit.tenantId limit.kind ≤ limit.maxUnits

namespace LimitsKept

lemma ne (h : LimitsKept l limits) : limits.Pairwise fun a b => a.key ≠ b.key :=
  h.sorted.imp fun hlt => ne_of_lt hlt

lemma limitFor (h : LimitsKept l l.limits) (hmem : limit ∈ l.limits) :
    l.limitFor limit.tenantId limit.kind = some limit := by
  cases hfor : l.limitFor limit.tenantId limit.kind with
  | none => simpa using find?_eq_none.mp hfor limit hmem
  | some other =>
    obtain ⟨hother, htenant, hkind⟩ := limitFor_mem hfor
    have hkey : other.key = limit.key := by simp only [QuotaLimit.key, htenant, hkind]
    exact congrArg some (inj_on_of_nodup_map (pairwise_map.mpr h.ne) hother hmem hkey)

lemma replace (h : LimitsKept l limits) (hset : l.setLimit limits limit = .ok limits') :
    LimitsKept l limits' := by
  simp only [setLimit, bind_eq_ok, refuse_eq_ok, pure_eq_ok, decide_eq_false_iff_not,
    Nat.not_lt] at hset
  obtain ⟨_, htext, _, hbound, _, hused, rfl⟩ := hset
  have hkept : ∀ {after : List QuotaLimit}, (∀ x ∈ after, x = limit ∨ x ∈ limits) →
      (after.Pairwise fun a b => a.key < b.key) → LimitsKept l after := by
    refine fun hmem hsorted => ⟨hsorted, fun x hx => ?_, fun x hx => ?_⟩
    · rcases hmem x hx with rfl | hx
      exacts [⟨htext, hbound⟩, h.valid x hx]
    · rcases hmem x hx with rfl | hx
      exacts [hused, h.within x hx]
  split
  · -- the replaced limit keeps its place
    refine hkept (fun x hx => ?_) (pairwise_map.mpr (h.sorted.imp fun {a b} hlt => ?_))
    · obtain ⟨old, hold, rfl⟩ := mem_map.mp hx
      split
      exacts [.inl rfl, .inr hold]
    · have hkey : ∀ old : QuotaLimit,
          (if old.key = limit.key then limit else old).key = old.key := by
        intro old
        split
        · next he => exact he.symm
        · rfl
      rwa [hkey, hkey]
  · next hnew =>
    have hperm := perm_insertionSort (fun a b : QuotaLimit => a.key ≤ b.key)
      (limits ++ [limit])
    refine hkept (fun x hx => by simpa [or_comm] using hperm.mem_iff.mp hx) ?_
    have : Std.Total fun a b : QuotaLimit => a.key ≤ b.key := ⟨fun _ _ => le_total _ _⟩
    have : IsTrans QuotaLimit fun a b => a.key ≤ b.key := ⟨fun _ _ _ => le_trans⟩
    have hne : (limits ++ [limit]).Pairwise fun a b => a.key ≠ b.key := by
      refine pairwise_append.mpr ⟨h.ne, pairwise_singleton _ _, ?_⟩
      simpa using hnew
    exact ((pairwise_insertionSort _ _).and
      (hne.perm hperm.symm fun hab => hab.symm)).imp fun hab => lt_of_le_of_ne hab.1 hab.2

/-- An accepted demand leaves the ceiling of its own tenant and category standing. -/
lemma room (h : LimitsKept l l.limits) {used requested : Nat}
    (hlimit : l.checkLimit tenant kind used requested = .ok ()) (hmem : limit ∈ l.limits)
    (hm : tenant = limit.tenantId ∧ kind = limit.kind) : used + requested ≤ limit.maxUnits :=
  checkLimit_eq_ok.mp hlimit limit (by rw [hm.1, hm.2, h.limitFor hmem])

end LimitsKept

/-- Limits that are kept are accepted again by an empty ledger. -/
lemma replaceLimits_kept (h : LimitsKept l limits) : new.replaceLimits limits = .ok limits := by
  suffices hrun : ∀ xs pre, limits = pre ++ xs → xs.foldlM new.setLimit pre = .ok limits from
    hrun limits [] rfl
  intro xs
  induction xs with
  | nil => intro pre hpre; simp [hpre, pure, Except.pure]
  | cons x xs ih =>
    intro pre hpre
    have hx : x ∈ limits := by simp [hpre]
    have hsorted := h.sorted
    rw [hpre, append_cons, pairwise_append] at hsorted
    have hlt := (pairwise_append.mp hsorted.1).2.2
    have hset : new.setLimit pre x = .ok (pre ++ [x]) := by
      have hnew : (pre.any fun old => old.key == x.key) = false := by
        simpa using fun y hy => ne_of_lt (hlt y hy x (mem_singleton_self x))
      have hsame : (pre ++ [x]).insertionSort (fun a b => a.key ≤ b.key) = pre ++ [x] :=
        (hsorted.1.imp fun hab => le_of_lt hab).insertionSort_eq
      simp only [setLimit, bind_eq_ok, refuse_eq_ok, pure_eq_ok, hnew, hsame]
      exact ⟨(), (h.valid x hx).1, (), (h.valid x hx).2, (),
        decide_eq_false (Nat.not_lt_zero x.maxUnits), rfl⟩
    rw [foldlM_cons, hset]
    exact ih _ (by simp [hpre])

/-! ### The invariant -/

/-- Limits and claims are acceptable one by one, and every ceiling is kept. -/
structure Kept (l : QuotaLedger) : Prop where
  limits : LimitsKept l l.limits
  claims : ∀ id claim, l.claims.get? id = some claim → validateClaim id claim = .ok ()

namespace Kept

lemma empty : Kept new := ⟨⟨.nil, nofun, nofun⟩, nofun⟩

variable (h : Kept l)
include h

lemma identified : l.Identified :=
  fun id claim hget => validateClaim_identified (h.claims id claim hget)

lemma insert (hvalid : validateClaim id claim = .ok ()) (hwithin : ∀ limit ∈ l.limits,
      used { l with claims := l.claims.insert id claim } limit.tenantId limit.kind ≤
        limit.maxUnits) : Kept { l with claims := l.claims.insert id claim } := by
  refine ⟨⟨h.limits.sorted, h.limits.valid, hwithin⟩, fun id' claim' hget => ?_⟩
  rcases insert_cases hget with ⟨rfl, rfl⟩ | ⟨-, hget⟩
  exacts [hvalid, h.claims id' claim' hget]

/-- Entering a claim checks the ceiling of its own tenant and category; it counts for no other. -/
lemma tracked (hvalid : validateClaim id claim = .ok ())
    (ht : Tracked l id claim l') : Kept l' := by
  cases ht with
  | kept => exact h
  | @raised old hget same units hlimit =>
    refine h.insert hvalid fun limit hmem => ?_
    have hsum := used_replace claim limit.tenantId limit.kind hget
    have hwithin := h.limits.within limit hmem
    have htenant : old.tenantId = claim.tenantId := by rw [← same]
    have hkind : old.kind = claim.kind := by rw [← same]
    rw [charge, charge, htenant, hkind] at hsum
    by_cases hm : claim.tenantId = limit.tenantId ∧ claim.kind = limit.kind
    · rw [if_pos hm, if_pos hm] at hsum
      have hroom := h.limits.room hlimit hmem hm
      rw [hm.1, hm.2] at hroom
      omega
    · rw [if_neg hm, if_neg hm] at hsum
      omega
  | fresh hget hlimit =>
    refine h.insert hvalid fun limit hmem => ?_
    have hwithin := h.limits.within limit hmem
    rw [used_insert _ _ _ hget, charge]
    by_cases hm : claim.tenantId = limit.tenantId ∧ claim.kind = limit.kind
    · rw [if_pos hm]
      have hroom := h.limits.room hlimit hmem hm
      rw [hm.1, hm.2] at hroom
      omega
    · rwa [if_neg hm, Nat.zero_add]

lemma retain (p : ClaimId → QuotaClaim → Bool) : Kept { l with claims := l.claims.retain p } := by
  refine ⟨⟨h.limits.sorted, h.limits.valid, fun limit hmem =>
    (used_retain_le p).trans (h.limits.within limit hmem)⟩, fun id claim hget => ?_⟩
  have hmem := mem_entries_iff.mpr hget
  exact h.claims id claim (mem_entries_iff.mp (mem_of_mem_filter hmem))

lemma withLimits (hlimits : LimitsKept l limits) : Kept { l with limits := limits } :=
  ⟨⟨hlimits.sorted, hlimits.valid, hlimits.within⟩, h.claims⟩

end Kept

/-! ### Validation -/

/-- A resource with several claims is claimed only by allocations. -/
def Unmixed (l : QuotaLedger) : Prop :=
  ∀ id claim id' claim', l.claims.get? id = some claim → l.claims.get? id' = some claim' →
    id ≠ id' → claim.resourceId.isSome → claim'.resourceId = claim.resourceId →
    claim.allocationId.isSome

/-- The claims before an entry, entered into an empty ledger, leave room for it. -/
lemma Kept.track_entry (h : Kept l) {earlier later : List (ClaimId × QuotaClaim)}
    (hsplit : l.claims.entries = earlier ++ (id, claim) :: later) :
    ∃ l', track ⟨l.limits, ofList earlier⟩ id claim = .ok l' := by
  have hsorted := l.claims.sorted
  rw [hsplit, pairwise_append] at hsorted
  have hof : ofList earlier = ⟨earlier, hsorted.1⟩ := ofList_entries ⟨earlier, _⟩
  have hget : (ofList earlier).get? id = none := by
    rw [hof, Option.eq_none_iff_forall_not_mem]
    intro c hc
    have hmem := mem_entries_iff.mpr hc
    exact lt_irrefl id (hsorted.2.2 (id, c) hmem (id, claim) mem_cons_self)
  have hvalid : validateClaim id claim = .ok () :=
    h.claims id claim (mem_entries_iff.mp (by simp [hsplit]))
  have hroom : (⟨l.limits, ofList earlier⟩ : QuotaLedger).checkLimit claim.tenantId
      claim.kind (used ⟨l.limits, ofList earlier⟩ claim.tenantId claim.kind)
      claim.units = .ok () := by
    refine checkLimit_eq_ok.mpr fun limit hfor => ?_
    obtain ⟨hmem, htenant, hkind⟩ := limitFor_mem hfor
    have hwithin := h.limits.within limit hmem
    rw [htenant, hkind] at hwithin
    refine le_trans ?_ hwithin
    rw [used_eq, used_eq, hof]
    simp only [values, hsplit, map_append, map_cons, sum_append,
      sum_cons, charge, and_self, if_true]
    omega
  refine ⟨⟨l.limits, (ofList earlier).insert id claim⟩, ?_⟩
  simp only [track, hget, bind_eq_ok, pure_eq_ok]
  exact ⟨(), hvalid, (), hroom, trivial⟩

lemma checkClaimedOnce_eq_ok {earlier : List (ClaimId × QuotaClaim)} :
    checkClaimedOnce earlier claim = .ok () ↔ (claim.resourceId.isSome → ∀ e,
      (earlier.reverse.find? fun e => e.2.resourceId == claim.resourceId) = some e →
        e.2.allocationId.isSome ∧ claim.allocationId.isSome) := by
  unfold checkClaimedOnce
  cases claim.resourceId.isSome <;>
    cases earlier.reverse.find? fun e => e.2.resourceId == claim.resourceId <;>
    simp [Option.isSome_iff_ne_none]

lemma Kept.validate_iff (h : Kept l) : l.validate = .ok () ↔ l.Unmixed := by
  have hvalidate : l.validate = .ok () ↔ ∀ earlier e later,
      l.claims.entries = earlier ++ e :: later → checkClaimedOnce earlier e.2 = .ok () := by
    simp only [validate, bind_eq_ok, refuse_eq_ok, replaceLimits_kept h.limits, Except.ok.injEq,
      exists_eq_left', h.limits.sorted, decide_true, Bool.not_true, exists_const, true_and,
      checkAgainstEarlier_eq_ok, nil_append]
    refine forall₄_congr fun earlier e later hsplit => ⟨?_, fun hcheck => ⟨(), hcheck, ?_⟩⟩
    · rintro ⟨_, hcheck, -⟩
      exact hcheck
    · obtain ⟨l', htrack⟩ := h.track_entry hsplit
      exact ⟨l', htrack, rfl⟩
  rw [hvalidate]
  constructor
  · intro honce id claim id' claim' hget hget' hne hsome hres
    by_contra hwhole
    obtain ⟨r, hr⟩ := Option.isSome_iff_exists.mp hsome
    have hnone : claim.allocationId = none := by simpa using hwhole
    have hid : id = resourceClaimId r := by
      simpa [identifiedBy, hnone, hr] using h.identified id claim hget
    -- the other claim is one of an allocation, and so comes first
    have hlt : id' < id := by
      have hid' := h.identified id' claim' hget'
      cases ha : claim'.allocationId with
      | none => simp [identifiedBy, ha, hres, hr, ← hid, hne.symm] at hid'
      | some a =>
        obtain ⟨-, rfl⟩ : _ ∧ id' = .allocation a := by simpa [identifiedBy, ha] using hid'
        rw [hid]
        exact Prod.Lex.left _ _ Bool.false_lt_true
    obtain ⟨earlier, later, hsplit⟩ := append_of_mem (mem_entries_iff.mpr hget)
    have hsorted := l.claims.sorted
    have hmem := mem_entries_iff.mpr hget'
    rw [hsplit, pairwise_append] at hsorted
    rw [hsplit, mem_append, mem_cons] at hmem
    obtain hmem | heq | hmem := hmem
    · cases hfind : earlier.reverse.find? fun e => e.2.resourceId == claim.resourceId with
      | none => simpa [hres] using find?_eq_none.mp hfind (id', claim') (by simpa using hmem)
      | some e => exact hwhole (checkClaimedOnce_eq_ok.mp (honce _ _ _ hsplit) hsome e hfind).2
    · exact hne (congrArg Prod.fst heq).symm
    · exact lt_asymm hlt ((pairwise_cons.mp hsorted.2.1).1 _ hmem)
  · rintro hunmixed earlier ⟨id, claim⟩ later hsplit
    refine checkClaimedOnce_eq_ok.mpr fun hsome e hfind => ?_
    have hmem : e ∈ earlier := by simpa using mem_of_find?_eq_some hfind
    have hres : e.2.resourceId = claim.resourceId := by simpa using find?_some hfind
    have hsorted := l.claims.sorted
    rw [hsplit, pairwise_append] at hsorted
    have hne : e.1 ≠ id := ne_of_lt (hsorted.2.2 e hmem (id, claim) mem_cons_self)
    have hget : l.claims.get? id = some claim := mem_entries_iff.mp (by simp [hsplit])
    have hgetE : l.claims.get? e.1 = some e.2 := mem_entries_iff.mp (by simp [hsplit, hmem])
    exact ⟨hunmixed _ _ _ _ hgetE hget hne (by rwa [hres]) hres.symm,
      hunmixed _ _ _ _ hget hgetE hne.symm hsome hres⟩

end QuotaLedger

/-! ### Runs -/

inductive QuotaCall where
  | setLimit (limit : QuotaLimit)
  | replaceLimits (limits : List QuotaLimit)
  | reserve (id : ClaimId) (claim : QuotaClaim)
  | track (id : ClaimId) (claim : QuotaClaim)
  | trackResource (id : ClaimId) (claim : QuotaClaim)
  | release (id : ClaimId)
  | releaseResource (resource : ResourceId)
  | releaseAllocation (id : AllocationId)

namespace QuotaCall

open QuotaLedger (Kept LimitsKept)

variable {call : QuotaCall}

def run (l : QuotaLedger) : QuotaCall → Except QuotaError QuotaLedger
  | .setLimit limit => do
    let limits ← l.setLimit l.limits limit
    pure { l with limits := limits }
  | .replaceLimits limits => do
    let limits ← l.replaceLimits limits
    pure { l with limits := limits }
  | .reserve id claim => l.reserve id claim
  | .track id claim => l.track id claim
  | .trackResource id claim => l.trackResource id claim
  | .release id => do
    let (l, _) ← l.release id
    pure l
  | .releaseResource resource => .ok (l.releaseResource resource)
  | .releaseAllocation id => .ok (l.releaseAllocation id)

/-- The source assigns the ledger after its last check. -/
def step (l : QuotaLedger) (call : QuotaCall) : QuotaLedger :=
  match call.run l with
  | .ok l' => l'
  | .error _ => l

/-- The claim a call enters. -/
def entered : QuotaCall → Option (ClaimId × QuotaClaim)
  | .reserve id claim | .track id claim | .trackResource id claim => some (id, claim)
  | _ => none

/-- Where the call is accepted, it adds a claim to a claimed resource only for one allocation
beside others. -/
def Unmixed (l : QuotaLedger) (call : QuotaCall) : Prop :=
  ∀ id claim, call.entered = some (id, claim) → (∃ l', call.run l = .ok l') →
    ∀ id' claim', l.claims.get? id' = some claim' → id' ≠ id → claim.resourceId.isSome →
      claim'.resourceId = claim.resourceId →
      claim.allocationId.isSome ∧ claim'.allocationId.isSome

/-- What an accepted call does. -/
inductive Effect (l : QuotaLedger) (call : QuotaCall) : QuotaLedger → Prop where
  | entered {id : ClaimId} {claim : QuotaClaim} {l' : QuotaLedger}
      (enters : call.entered = some (id, claim)) (valid : validateClaim id claim = .ok ())
      (tracked : Tracked l id claim l') : Effect l call l'
  | limited {limits : List QuotaLimit} (enters : call.entered = none)
      (limited : LimitsKept l limits) : Effect l call { l with limits := limits }
  | released (enters : call.entered = none) (p : ClaimId → QuotaClaim → Bool) :
      Effect l call { l with claims := l.claims.retain p }

lemma effect_run (h : Kept l) (hrun : call.run l = .ok l') : Effect l call l' := by
  have htrack : ∀ {id claim}, call.entered = some (id, claim) → l.track id claim = .ok l' →
      Effect l call l' := by
    intro id claim henters ht
    obtain ⟨hvalid, ht⟩ := track_tracked ht
    exact .entered henters hvalid ht
  cases call with
  | setLimit =>
    simp only [run, bind_eq_ok, pure_eq_ok] at hrun
    obtain ⟨limits, hset, rfl⟩ := hrun
    exact .limited rfl (h.limits.replace hset)
  | replaceLimits limits =>
    simp only [run, bind_eq_ok, pure_eq_ok] at hrun
    obtain ⟨_, hset, rfl⟩ := hrun
    exact .limited rfl (foldlM_invariant (P := LimitsKept l) (fun _ _ _ _ hc => hc.replace)
      ⟨.nil, by simp, by simp⟩ hset)
  | reserve =>
    simp only [run, QuotaLedger.reserve, bind_eq_ok] at hrun
    obtain ⟨_, -, hrun⟩ := hrun
    split at hrun
    · exact htrack rfl hrun
    · obtain ⟨_, -, hrun⟩ := bind_eq_ok.mp hrun
      exact htrack rfl hrun
  | track => exact htrack rfl hrun
  | trackResource =>
    obtain ⟨hvalid, ht⟩ := trackResource_tracked h.identified hrun
    exact .entered rfl hvalid ht
  | release id =>
    have hl : { l with claims := l.claims.erase id } = l' := by
      cases id with
      | allocation => exact Except.ok.inj hrun
      | named =>
        simp only [run, QuotaLedger.release, bind_eq_ok, pure_eq_ok] at hrun
        obtain ⟨_, ⟨_, -, rfl⟩, rfl⟩ := hrun
        rfl
    rw [← hl]
    exact .released rfl _
  | releaseResource | releaseAllocation =>
    cases hrun
    exact .released rfl _

lemma Effect.kept (h : Kept l) (he : Effect l call l') : Kept l' := by
  cases he with
  | entered _ valid tracked => exact h.tracked valid tracked
  | limited _ limited => exact h.withLimits limited
  | released _ p => exact h.retain p

/-- An accepted call leaves no mixed claims exactly when it does not mix them. -/
lemma Effect.unmixed_iff (he : Effect l call l') (hrun : call.run l = .ok l')
    (h : l.Unmixed) : l'.Unmixed ↔ call.Unmixed l := by
  cases he with
  | @entered id claim _ enters valid tracked =>
    obtain ⟨stored, hfor, rfl⟩ := tracked.claims
    constructor
    · intro hl' _ _ hsame _ id' claim' hget hne hsome hres
      obtain ⟨rfl, rfl⟩ := Prod.mk.inj (Option.some.inj (enters.symm.trans hsame))
      have hself : (l.claims.insert id stored).get? id = some stored := get?_insert_self ..
      have hother : (l.claims.insert id stored).get? id' = some claim' := by
        rw [get?_insert, if_neg hne, hget]
      rw [← hfor.resource] at hsome hres
      rw [← hfor.allocation]
      exact ⟨hl' _ _ _ _ hself hother hne.symm hsome hres,
        hl' _ _ _ _ hother hself hne (by rwa [hres]) hres.symm⟩
    · intro hcall i c j d hc hd hne hsome hres
      have hcall := hcall id claim enters ⟨_, hrun⟩
      rcases insert_cases hc with ⟨rfl, rfl⟩ | ⟨hi, hold⟩
      · rw [get?_insert, if_neg hne.symm] at hd
        rw [hfor.resource] at hsome hres
        rw [hfor.allocation]
        exact (hcall j d hd hne.symm hsome hres).1
      rcases insert_cases hd with ⟨rfl, rfl⟩ | ⟨-, hd⟩
      · rw [hfor.resource] at hres
        exact (hcall i c hold hi (by rwa [hres]) hres.symm).2
      · exact h i c j d hold hd hne hsome hres
  | limited enters => exact iff_of_true h (by simp [QuotaCall.Unmixed, enters])
  | released enters p =>
    have hold : ∀ i c, (l.claims.retain p).get? i = some c → l.claims.get? i = some c :=
      fun i c hget => mem_entries_iff.mp
        (mem_of_mem_filter (mem_entries_iff.mpr hget))
    exact iff_of_true (fun i c j d hc hd => h i c j d (hold i c hc) (hold j d hd))
      (by simp [QuotaCall.Unmixed, enters])

/-- The ledger after the first `n` calls. -/
def ledgerAt (calls : Nat → QuotaCall) (n : Nat) : QuotaLedger :=
  stateAfter step .new calls n

lemma kept_ledgerAt (calls : Nat → QuotaCall) (n : Nat) : Kept (ledgerAt calls n) := by
  induction n with
  | zero => exact .empty
  | succ n ih =>
    show Kept (step (ledgerAt calls n) (calls n))
    unfold step
    split
    · next hrun => exact (effect_run ih hrun).kept ih
    · exact ih

lemma unmixed_succ (calls : Nat → QuotaCall) (n : Nat) (h : (ledgerAt calls n).Unmixed) :
    (ledgerAt calls (n + 1)).Unmixed ↔ (calls n).Unmixed (ledgerAt calls n) := by
  show (step (ledgerAt calls n) (calls n)).Unmixed ↔ _
  unfold step
  split
  · next hrun => exact (effect_run (kept_ledgerAt calls n) hrun).unmixed_iff hrun h
  · next hrun =>
    refine iff_of_true h fun _ _ _ hok => ?_
    obtain ⟨l', hl'⟩ := hok
    rw [hrun] at hl'
    cases hl'

end QuotaCall

open QuotaCall in
/-- A run of the ledger stays valid exactly when no step mixes claims on a resource. Every run
keeps each ceiling, is unchanged by a refused call, and keeps the larger demand for a resource. -/
theorem ledger_run (calls : Nat → QuotaCall) :
    ((∀ n, (ledgerAt calls n).validate = .ok ()) ↔
      ∀ n, (calls n).Unmixed (ledgerAt calls n)) ∧
    ∀ n, (∀ tenant kind limit, (ledgerAt calls n).limitFor tenant kind = some limit →
        (ledgerAt calls n).used tenant kind ≤ limit.maxUnits) ∧
      (∀ err, (calls n).run (ledgerAt calls n) = .error err →
        ledgerAt calls (n + 1) = ledgerAt calls n) ∧
      ∀ id claim old l', calls n = .trackResource id claim →
        (calls n).run (ledgerAt calls n) = .ok l' →
        (ledgerAt calls n).claims.get? id = some old →
        (ledgerAt calls (n + 1)).claims.get? id =
          some { old with units := max old.units claim.units } := by
  have hkept := kept_ledgerAt calls
  have hstep : ∀ n, ledgerAt calls (n + 1) = step (ledgerAt calls n) (calls n) := fun _ => rfl
  refine ⟨?_, fun n => ⟨fun tenant kind limit hfor => ?_, fun err hrun => ?_,
    fun id claim old l' hcall hrun hget => ?_⟩⟩
  · simp only [(hkept _).validate_iff]
    constructor
    · intro h n
      exact (unmixed_succ calls n (h n)).mp (h (n + 1))
    · intro h n
      induction n with
      | zero => exact fun _ _ _ _ hget => nomatch hget
      | succ n ih => exact (unmixed_succ calls n ih).mpr (h n)
  · obtain ⟨hmem, rfl, rfl⟩ := limitFor_mem hfor
    exact (hkept n).limits.within limit hmem
  · rw [hstep, step, hrun]
  · rw [hstep, step, hrun]
    rw [hcall] at hrun
    cases (trackResource_tracked (hkept n).identified hrun).2 with
    | kept hold _ units =>
      cases hold.symm.trans hget
      rw [Nat.max_eq_left units]
      exact hget
    | raised hold same units =>
      cases hold.symm.trans hget
      rw [Nat.max_eq_right (Nat.le_of_lt units), same]
      exact get?_insert_self ..
    | fresh hnone => cases hnone.symm.trans hget

def gpu : ResourceId := ⟨"gpu", .refl false⟩

/-- A tenant reserves units of a resource for an allocation, then the resource as a whole. -/
def mixedClaims : Nat → QuotaCall
  | 0 => .setLimit ⟨"tenant", .compute, 8⟩
  | 1 => .reserve (.allocation ⟨[1], []⟩) ⟨"tenant", .compute, 2, some gpu, some ⟨[1], []⟩⟩
  | _ => .reserve (resourceClaimId gpu) ⟨"tenant", .compute, 2, some gpu, none⟩

/-- Both claims are accepted, and the ledger no longer validates. -/
theorem mixed_claims_invalid : (QuotaCall.ledgerAt mixedClaims 3).claims.entries.length = 2 ∧
    (QuotaCall.ledgerAt mixedClaims 3).validate =
      .error (.invalid "duplicate resource-backed quota claim") := by
  decide +kernel

end RoboGuide.Control
