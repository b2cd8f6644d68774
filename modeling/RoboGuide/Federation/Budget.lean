import RoboGuide.Domain.Identity
import RoboGuide.Lib.Fallible

/-!
# `RoboGuide.Federation.Budget`: budgets of one kernel

`application/plan_revision/time.rs`: a budget is anchored at the kernel sample it was issued
at. Another boot, another time namespace or a clock that went back leave nothing of it.
-/

namespace RoboGuide.Federation

open Domain
open Lib.Fallible (refuse)

/-- A boot identity as Linux prints it. -/
def validBootId (id : String) : Bool :=
  id.length == 36 && id.toList.all fun c =>
    c.isDigit || ('a' ≤ c && c ≤ 'f') || ('A' ≤ c && c ≤ 'F') || c == '-'

/-- What `observe` reads from the running kernel. -/
@[ext] structure KernelTime where
  bootId : String
  namespaceDevice : Nat
  namespaceInode : Nat
  elapsedMs : Nat
  resolutionMs : Nat
  /-- `observe` refuses any other spelling. -/
  boot_valid : validBootId bootId = true
  /-- No inode of the kernel's namespaces is zero. -/
  inode_pos : 0 < namespaceInode
  /-- One, two, or more decimals of `/proc/uptime`. -/
  resolution_valid : resolutionMs = 1 ∨ resolutionMs = 10 ∨ resolutionMs = 100
  /-- The kernel counts nanoseconds in 63 bits. -/
  elapsed_le : elapsedMs ≤ 9223372036854

instance : DecidableEq KernelTime := fun _ _ => decidable_of_iff' _ KernelTime.ext_iff

structure OriginalBudget where
  issued : KernelTime
  durationMs : Nat
deriving DecidableEq

namespace OriginalBudget

def new (now : KernelTime) (durationMs : Nat) : Except String OriginalBudget := do
  refuse (durationMs == 0 || decide (3600000 < durationMs)) "invalid original revision budget"
  pure ⟨now, durationMs⟩

def hasSameStart (a b : OriginalBudget) : Bool := a.issued == b.issued

def isWithin (child parent : OriginalBudget) : Bool :=
  child.issued.bootId == parent.issued.bootId &&
    child.issued.namespaceDevice == parent.issued.namespaceDevice &&
    child.issued.namespaceInode == parent.issued.namespaceInode &&
    decide (parent.issued.elapsedMs ≤ child.issued.elapsedMs) &&
    (checkedAdd child.issued.elapsedMs child.durationMs).any fun stop =>
      (checkedAdd parent.issued.elapsedMs parent.durationMs).any fun bound => decide (stop ≤ bound)

def validate (b : OriginalBudget) : Except String Unit :=
  refuse (b.durationMs == 0 || decide (3600000 < b.durationMs) ||
      !validBootId b.issued.bootId || b.issued.namespaceInode == 0 ||
      !(b.issued.resolutionMs == 1 || b.issued.resolutionMs == 10 ||
        b.issued.resolutionMs == 100))
    "invalid retained original kernel budget"

def remaining (b : OriginalBudget) (now : KernelTime) : Nat :=
  if b.durationMs == 0 || decide (3600000 < b.durationMs) || b.issued.bootId != now.bootId ||
      b.issued.namespaceDevice != now.namespaceDevice ||
      b.issued.namespaceInode != now.namespaceInode ||
      decide (now.elapsedMs < b.issued.elapsedMs) ||
      !(decide (1 ≤ b.issued.resolutionMs) && decide (b.issued.resolutionMs ≤ 100)) ||
      !(decide (1 ≤ now.resolutionMs) && decide (now.resolutionMs ≤ 100)) then 0
  else b.durationMs - (now.elapsedMs - b.issued.elapsedMs) -
    max b.issued.resolutionMs now.resolutionMs

/-! ### Specifications -/

open Lib.Fallible

variable {b : OriginalBudget} {now : KernelTime} {durationMs : Nat}

lemma new_eq_ok (h : new now durationMs = .ok b) :
    b = ⟨now, durationMs⟩ ∧ 0 < durationMs ∧ durationMs ≤ 3600000 := by
  simp only [new, bind_eq_ok, refuse_eq_ok, Bool.or_eq_false_iff, beq_eq_false_iff_ne,
    decide_eq_false_iff_not, pure_eq_ok] at h
  obtain ⟨_, ⟨hpos, hle⟩, rfl⟩ := h
  exact ⟨rfl, Nat.pos_of_ne_zero hpos, Nat.le_of_not_lt hle⟩

lemma validate_ok (hpos : 0 < b.durationMs) (hle : b.durationMs ≤ 3600000) :
    b.validate = .ok () := by
  have hboot := b.issued.boot_valid
  have hinode := b.issued.inode_pos
  have hresolution := b.issued.resolution_valid
  simp only [validate, refuse_eq_ok, hboot, Bool.not_true, Bool.or_false, Bool.or_eq_false_iff,
    beq_eq_false_iff_ne, decide_eq_false_iff_not, Bool.not_eq_false', Bool.or_eq_true, beq_iff_eq]
  omega

lemma remaining_within (h : 0 < b.remaining now) :
    b.issued.bootId = now.bootId ∧ b.issued.namespaceDevice = now.namespaceDevice ∧
      b.issued.namespaceInode = now.namespaceInode ∧ b.issued.elapsedMs ≤ now.elapsedMs ∧
      now.elapsedMs + b.remaining now ≤ b.issued.elapsedMs + b.durationMs := by
  unfold remaining at h ⊢
  split at h
  · omega
  · next hguard =>
    rw [if_neg hguard]
    simp only [Bool.or_eq_true, not_or, bne_iff_ne, not_not,
        decide_eq_true_eq, Nat.not_lt] at hguard
    obtain ⟨⟨⟨⟨⟨⟨⟨_, _⟩, hboot⟩, hdevice⟩, hinode⟩, helapsed⟩, _⟩, _⟩ := hguard
    exact ⟨hboot, hdevice, hinode, helapsed, by omega⟩

lemma isWithin_of_remaining (hb : b.durationMs ≤ 3600000) (hpos : 0 < durationMs)
    (hle : durationMs ≤ b.remaining now) :
    (⟨now, durationMs⟩ : OriginalBudget).isWithin b = true := by
  have hremains : 0 < b.remaining now := by omega
  obtain ⟨hboot, hdevice, hinode, _, _⟩ := remaining_within hremains
  have hnow := now.elapsed_le
  have hissued := b.issued.elapsed_le
  have hfits : now.elapsedMs + durationMs ≤ u64Max := by
    unfold u64Max
    omega
  have hbound : b.issued.elapsedMs + b.durationMs ≤ u64Max := by
    unfold u64Max
    omega
  simp only [isWithin, checkedAdd, if_pos hfits, if_pos hbound, hboot, hdevice, hinode,
    BEq.rfl, Option.any_some, Bool.and_eq_true, decide_eq_true_eq, true_and]
  omega

end OriginalBudget

end RoboGuide.Federation
