import RoboGuide.Domain.Execution
import RoboGuide.Lib.Fallible

/-!
# `RoboGuide.Control.Quota`: tenant quota accounting

`core/control/src/quota.rs`: a ledger of logical claims per tenant and resource category.
A claim is charged when Control commits a resource and retained until the resource is
released. The source keeps the claims in a vector sorted by claim identity without
duplicates; here they are a map with that key.
-/

namespace RoboGuide.Control

open Domain Lib
open Fallible (refuse okOr checkAgainstEarlier)

/-! ### Claims -/

inductive ClaimId where
  | allocation (id : AllocationId)
  | named (text : String)

namespace ClaimId

/-- Allocation identities sort before named ones (`"allocation:…"`, `"control-resource:…"`). -/
def key : ClaimId → Bool ×ₗ AllocationId ×ₗ String
  | .allocation id => toLex (false, toLex (id, ""))
  | .named text => toLex (true, toLex (⟨[], []⟩, text))

lemma key_injective : Function.Injective key := by
  intro a b h
  have h' := congrArg ofLex h
  cases a <;> cases b <;> simp_all [key]

instance : LinearOrder ClaimId := LinearOrder.lift' key key_injective

end ClaimId

structure QuotaClaim where
  tenantId : String
  kind : ResourceKind
  units : Nat
  resourceId : Option ResourceId
  allocationId : Option AllocationId
deriving DecidableEq

/-- One configured ceiling. -/
structure QuotaLimit where
  tenantId : String
  kind : ResourceKind
  maxUnits : Nat
deriving DecidableEq

namespace QuotaLimit

/-- Limits are kept by tenant and category. -/
def key (l : QuotaLimit) : String ×ₗ Nat := toLex (l.tenantId, l.kind.rank)

end QuotaLimit

/-- `ResourceQuotaRegistry` (`core/domain/src/resource_quota.rs`): one revision of the policy. -/
structure ResourceQuotaRegistry where
  registryId : String
  revision : Nat
  limits : List QuotaLimit
deriving DecidableEq

namespace ResourceQuotaRegistry

/-- The largest ceiling. -/
def maxLimitUnits : Nat := 1000000000

/-- One limit of `validate`: bounded, new, and after the limits before it. -/
def validateLimit (earlier : List QuotaLimit) (l : QuotaLimit) : Except String Unit := do
  refuse (isBlank l.tenantId || decide (128 < l.tenantId.utf8ByteSize) || l.maxUnits == 0 ||
      decide (maxLimitUnits < l.maxUnits) || earlier.any fun old => old.key == l.key)
    "resource quota limit is invalid or duplicated"
  refuse (earlier.getLast?.any fun old => decide (l.key ≤ old.key))
    "resource quota limits are not in canonical order"

def validate (r : ResourceQuotaRegistry) : Except String Unit := do
  refuse (isBlank r.registryId || decide (128 < r.registryId.utf8ByteSize) || r.revision == 0 ||
      decide (4096 < r.limits.length))
    "resource quota registry identity or bounds are invalid"
  checkAgainstEarlier validateLimit [] r.limits

def validatesSuccessor (r next : ResourceQuotaRegistry) : Except String Unit := do
  next.validate
  refuse (r.registryId != next.registryId) "resource quota registry successor conflicts"
  let revision ← okOr (checkedSucc r.revision) "quota revision exhausted"
  refuse (next.revision != revision) "resource quota registry successor conflicts"

end ResourceQuotaRegistry

inductive QuotaError where
  | limitMissing
  | claimConflict
  | exceeded (limit used requested : Nat)
  | invalid (reason : String)
deriving DecidableEq

instance : ToString QuotaError where
  toString
    | .limitMissing => "quota limit is not configured"
    | .claimConflict => "quota claim identity conflicts"
    | .exceeded limit used requested =>
      s!"quota exceeded: limit={limit}, used={used}, requested={requested}"
    | .invalid reason => s!"invalid quota: {reason}"

def resourceClaimId (resource : ResourceId) : ClaimId :=
  .named s!"control-resource:{resource}"

def validateText (value name : String) : Except QuotaError Unit :=
  refuse (isBlank value || decide (256 < value.utf8ByteSize) || value.toList.any isControl)
    (.invalid s!"{name} is empty or unbounded")

/-- One demand is bounded by the `u32` capacity declaration. -/
def maxResourceDemandUnits : Nat := 2 ^ 32 - 1

/-- A claim on a quantitative allocation is identified by it, one on a whole resource by
the resource. -/
def QuotaClaim.identifiedBy (claim : QuotaClaim) (id : ClaimId) : Bool :=
  match claim.allocationId with
  | some a => claim.resourceId.isSome && claim.kind == .compute && id == .allocation a
  | none => claim.resourceId.all fun r => id == resourceClaimId r

/-- An allocation identity always has the shape the source tests. -/
def validateClaim (id : ClaimId) (claim : QuotaClaim) : Except QuotaError Unit := do
  match id with
  | .allocation _ => pure ()
  | .named text => validateText text "claim_id"
  validateText claim.tenantId "tenant_id"
  refuse (claim.units == 0 || decide (maxResourceDemandUnits < claim.units))
    (.invalid "claim units are outside their bound")
  refuse (!claim.identifiedBy id)
    (.invalid "resource quota claim identity does not match its reservation")

/-! ### The ledger -/

structure QuotaLedger where
  limits : List QuotaLimit
  claims : OrdMap ClaimId QuotaClaim
deriving DecidableEq

namespace QuotaLedger

def new : QuotaLedger := ⟨[], ∅⟩

def used (l : QuotaLedger) (tenant : String) (kind : ResourceKind) : Nat :=
  ((l.claims.values.filter fun c => c.tenantId == tenant && c.kind == kind).map (·.units)).sum

/-- The configured ceiling of a tenant and category. -/
def limitFor (l : QuotaLedger) (tenant : String) (kind : ResourceKind) : Option QuotaLimit :=
  l.limits.find? fun limit => limit.tenantId == tenant && limit.kind == kind

def hasLimit (l : QuotaLedger) (tenant : String) (kind : ResourceKind) : Bool :=
  (l.limitFor tenant kind).isSome

/-- A configured limit leaves room for `requested` units over `used`. -/
def checkLimit (l : QuotaLedger) (tenant : String) (kind : ResourceKind) (used requested : Nat) :
    Except QuotaError Unit :=
  match l.limitFor tenant kind with
  | some limit =>
    refuse (decide (limit.maxUnits < used + requested))
      (.exceeded limit.maxUnits used requested)
  | none => .ok ()

/-- A repeated claim is accepted unchanged, a new one is charged. -/
def track (l : QuotaLedger) (id : ClaimId) (claim : QuotaClaim) :
    Except QuotaError QuotaLedger := do
  validateClaim id claim
  match l.claims.get? id with
  | some existing =>
    refuse (existing != claim) .claimConflict
    pure l
  | none =>
    l.checkLimit claim.tenantId claim.kind (l.used claim.tenantId claim.kind) claim.units
    pure { l with claims := l.claims.insert id claim }

/-- A new claim needs a configured limit. -/
def reserve (l : QuotaLedger) (id : ClaimId) (claim : QuotaClaim) :
    Except QuotaError QuotaLedger := do
  validateClaim id claim
  if l.claims.contains id then
    l.track id claim
  else
    refuse (!l.hasLimit claim.tenantId claim.kind) .limitMissing
    l.track id claim

/-- While a resource stays held its claim keeps the largest demand. -/
def trackResource (l : QuotaLedger) (id : ClaimId) (claim : QuotaClaim) :
    Except QuotaError QuotaLedger := do
  refuse claim.resourceId.isNone
    (.invalid "resource claim lacks its exact reservation identity")
  validateClaim id claim
  match claim.allocationId, l.claims.get? id with
  | none, some existing =>
    refuse (existing.tenantId != claim.tenantId || existing.kind != claim.kind ||
      existing.resourceId != claim.resourceId) .claimConflict
    if claim.units ≤ existing.units then
      pure l
    else
      l.checkLimit claim.tenantId claim.kind
        (l.used claim.tenantId claim.kind - existing.units) claim.units
      pure { l with claims := l.claims.insert id { existing with units := claim.units } }
  | _, _ => l.track id claim

def setLimit (l : QuotaLedger) (limits : List QuotaLimit) (limit : QuotaLimit) :
    Except QuotaError (List QuotaLimit) := do
  validateText limit.tenantId "tenant_id"
  refuse (limit.maxUnits == 0 || decide (ResourceQuotaRegistry.maxLimitUnits < limit.maxUnits))
    (.invalid "limit is outside its bound")
  refuse (decide (limit.maxUnits < l.used limit.tenantId limit.kind))
    (.exceeded limit.maxUnits (l.used limit.tenantId limit.kind) 0)
  pure (if limits.any fun old => old.key == limit.key
    then limits.map fun old => if old.key = limit.key then limit else old
    else (limits ++ [limit]).insertionSort fun a b => a.key ≤ b.key)

/-- The retained claims must stay under every new ceiling. -/
def replaceLimits (l : QuotaLedger) (limits : List QuotaLimit) :
    Except QuotaError (List QuotaLimit) :=
  limits.foldlM l.setLimit []

/-- Only claims without an allocation belong to a whole resource. -/
def releaseResource (l : QuotaLedger) (resource : ResourceId) : QuotaLedger :=
  { l with claims := l.claims.retain fun _ c =>
      c.allocationId.isSome || c.resourceId != some resource }

def releaseAllocation (l : QuotaLedger) (id : AllocationId) : QuotaLedger :=
  { l with claims := l.claims.retain fun _ c => c.allocationId != some id }

/-- An unknown claim counts as released; says whether there was one. -/
def release (l : QuotaLedger) (id : ClaimId) : Except QuotaError (QuotaLedger × Bool) := do
  match id with
  | .allocation _ => pure ()
  | .named text => validateText text "claim_id"
  pure ({ l with claims := l.claims.erase id }, l.claims.contains id)

/-- A resource is claimed again only by an allocation, after an allocation: the last claim on it
decides. -/
def checkClaimedOnce (earlier : List (ClaimId × QuotaClaim)) (claim : QuotaClaim) :
    Except QuotaError Unit :=
  refuse (claim.resourceId.isSome &&
      (earlier.reverse.find? fun e => e.2.resourceId == claim.resourceId).any fun e =>
        e.2.allocationId.isNone || claim.allocationId.isNone)
    (.invalid "duplicate resource-backed quota claim")

/-- The limits and then the claims are entered into an empty ledger. The claims are strictly
sorted, being the entries of a map. -/
def validate (l : QuotaLedger) : Except QuotaError Unit := do
  refuse (!decide (l.limits.Pairwise fun a b => a.key < b.key))
    (.invalid "checkpointed quota entries are duplicated or not canonical")
  let limits ← new.replaceLimits l.limits
  checkAgainstEarlier (fun earlier (id, claim) => do
    checkClaimedOnce earlier claim
    let _ ← track ⟨limits, OrdMap.ofList earlier⟩ id claim) [] l.claims.entries

end QuotaLedger

end RoboGuide.Control
