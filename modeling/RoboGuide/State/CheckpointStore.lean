import RoboGuide.Lib.OrdMap

/-!
# `RoboGuide.State.CheckpointStore`: the scan of a checkpoint delta

`encode_delta` of `core/state/src/checkpoint_store.rs` looks for blocks of the previous bytes
in the middle of the next ones. The hash it looks up is rolled from offset to offset.
-/

namespace RoboGuide.State

open RoboGuide.Lib List

def block : Nat := 1024

def prime : UInt64 := 257

def fingerprint (bytes : List UInt8) : UInt64 :=
  bytes.foldl (fun hash byte => hash * prime + (byte.toUInt64 + 1)) 0

/-- The fold that computes `power`, over `n` factors. -/
def power (n : Nat) : UInt64 := (range n).foldl (fun power _ => power * prime) 1

/-- What decides the scan; the pieces it writes are left out. -/
structure Scan where
  offset : Nat
  hash : Option UInt64

section

variable (previous : List UInt8) (index : OrdMap Nat (List Nat)) (middle : List UInt8)

/-- `middle.get(offset..)`, of which `get(..BLOCK)`. -/
def window (offset : Nat) : Option (List UInt8) :=
  if offset + block ≤ middle.length then some ((middle.drop offset).take block) else none

def Scan.found (s : Scan) : Option Nat :=
  ((s.hash.bind fun hash => index.get? hash.toNat).getD []).find? fun candidate =>
    (previous.drop candidate).take block == (middle.drop s.offset).take block

/-- One iteration of the loop, which stops at the end of `middle`. -/
def Scan.step (s : Scan) : Scan :=
  match middle[s.offset]?, s.found previous index middle with
  | none, _ => s
  | _, some _ => ⟨s.offset + block, (window middle (s.offset + block)).map fingerprint⟩
  | some first, none =>
    ⟨s.offset + 1, s.hash.bind fun hash => middle[s.offset + block]?.map fun byte =>
      (hash - (first.toUInt64 + 1) * power (block - 1)) * prime + (byte.toUInt64 + 1)⟩

/-- The scan after `n` iterations. -/
def scanned (n : Nat) : Scan :=
  (Scan.step previous index middle)^[n] ⟨0, (window middle 0).map fingerprint⟩

end

end RoboGuide.State
