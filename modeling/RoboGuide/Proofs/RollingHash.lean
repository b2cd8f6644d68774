import RoboGuide.State.CheckpointStore

/-!
# `RoboGuide.Proofs.RollingHash`: the rolled hash is the hash of the window

The scan of a delta computes the fingerprint of a whole window only after a match. Between two
matches it takes the oldest byte out and the next one in, in wrapping arithmetic.
-/

namespace RoboGuide.State

open RoboGuide.Lib List

/-! ### The rolling update -/

lemma fingerprint_snoc (bytes : List UInt8) (byte : UInt8) :
    fingerprint (bytes ++ [byte]) = fingerprint bytes * prime + (byte.toUInt64 + 1) := by
  simp [fingerprint]

/-- The first byte has met the factors of all the others. -/
lemma fingerprint_cons (first : UInt8) (bytes : List UInt8) : fingerprint (first :: bytes) =
    (first.toUInt64 + 1) * power bytes.length + fingerprint bytes := by
  induction bytes using reverseRecOn with
  | nil => simp [fingerprint, power]
  | append_singleton bytes byte ih =>
    have hpower : power (bytes.length + 1) = power bytes.length * prime := by
      simp [power, range_succ]
    rw [← cons_append, fingerprint_snoc, ih, fingerprint_snoc, length_append, length_singleton,
      hpower]
    grind

variable {previous middle : List UInt8} {index : OrdMap Nat (List Nat)}

lemma window_slides {offset : Nat} {first byte : UInt8} (hfirst : middle[offset]? = some first)
    (hbyte : middle[offset + block]? = some byte) :
    ∃ bytes, bytes.length = block - 1 ∧ window middle offset = some (first :: bytes) ∧
      window middle (offset + 1) = some (bytes ++ [byte]) := by
  obtain ⟨hlt, rfl⟩ := List.getElem?_eq_some_iff.mp hfirst
  obtain ⟨hend, -⟩ := List.getElem?_eq_some_iff.mp hbyte
  have hlast : (middle.drop (offset + 1))[block - 1]? = some byte := by
    rw [getElem?_drop, ← hbyte]
    rfl
  refine ⟨(middle.drop (offset + 1)).take (block - 1), ?_, ?_, ?_⟩
  · rw [length_take, length_drop]
    omega
  · rw [window, if_pos (by omega), drop_eq_getElem_cons hlt]
    rfl
  · rw [window, if_pos (by omega), show block = block - 1 + 1 from rfl, take_add_one, hlast]
    rfl

/-! ### The scan -/

lemma Scan.step_hash {s : Scan} (h : s.hash = (window middle s.offset).map fingerprint) :
    (s.step previous index middle).hash =
      (window middle (s.step previous index middle).offset).map fingerprint := by
  rw [step]
  split
  · exact h
  · rfl
  · next first hfirst _ =>
    cases hbyte : middle[s.offset + block]? with
    | none =>
      -- no whole block is left behind the first byte
      have hend := getElem?_eq_none_iff.mp hbyte
      rw [window, if_neg (by dsimp only; omega)]
      simp
    | some byte =>
      obtain ⟨bytes, hlength, hhere, hnext⟩ := window_slides hfirst hbyte
      have hroll : (fingerprint (first :: bytes) - (first.toUInt64 + 1) * power bytes.length) *
          prime + (byte.toUInt64 + 1) = fingerprint (bytes ++ [byte]) := by
        rw [fingerprint_cons, fingerprint_snoc]
        grind
      rw [h, hhere, hnext, ← hlength]
      exact congrArg some hroll

/-- After every iteration, of either kind, the carried hash is there exactly when a whole
block remains at the offset, and is then the fingerprint of that block. -/
theorem rolling_hash_exact (previous middle : List UInt8) (index : OrdMap Nat (List Nat))
    (n : Nat) :
    let s := scanned previous index middle n
    (s.hash.isSome ↔ s.offset + block ≤ middle.length) ∧
      ∀ hash ∈ s.hash, hash = fingerprint ((middle.drop s.offset).take block) := by
  have hs : (scanned previous index middle n).hash =
      (window middle (scanned previous index middle n).offset).map fingerprint := by
    induction n with
    | zero => rfl
    | succ n ih =>
      rw [scanned, Function.iterate_succ_apply']
      exact Scan.step_hash ih
  dsimp only
  rw [hs, window]
  split <;> simp [*]

end RoboGuide.State
