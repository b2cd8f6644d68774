import Mathlib

/-!
# `RoboGuide.Lib.Netstring`: texts that name their length

A text that follows its length and a colon can be read back from whatever it is joined with: the
length has no colon in it, and says where the text ends.
-/

namespace RoboGuide.Lib

lemma append_cons_inj {α : Type} {p q s t : List α} {c : α} (hp : c ∉ p) (hq : c ∉ q)
    (h : p ++ c :: s = q ++ c :: t) : p = q ∧ s = t := by
  -- the longer of the two would hold the separator
  rcases List.append_eq_append_iff.mp h with ⟨d, rfl, hd⟩ | ⟨d, rfl, hd⟩
  all_goals
    cases d with
    | nil | cons => simp_all

variable {a b x y : String}

lemma append_inj_of_size (h : a ++ x = b ++ y)
    (hsize : a.utf8ByteSize = b.utf8ByteSize) : a = b ∧ x = y := by
  have hdata := congrArg (·.toByteArray.data) h
  simp only [String.toByteArray_append, ByteArray.data_append] at hdata
  obtain ⟨ha, hx⟩ := Array.append_inj hdata hsize
  exact ⟨String.toByteArray_inj.mp (ByteArray.ext ha), String.toByteArray_inj.mp (ByteArray.ext hx)⟩

lemma eq_of_repr_eq {m n : Nat} (h : m.repr = n.repr) : m = n := by
  have hdigits := congrArg (fun s : String => Nat.ofDigitChars 10 s.toList 0) h
  simpa [Nat.toList_repr, Nat.ofDigitChars_toDigits] using hdigits

lemma colon_notMem_repr (n : Nat) : ':' ∉ n.repr.toList := by
  intro hmem
  rw [Nat.toList_repr] at hmem
  have hdigit := Nat.isDigit_of_mem_toDigits (by omega) (by omega) hmem
  exact absurd hdigit (by decide)

lemma netstring_inj
    (h : a.utf8ByteSize.repr ++ (":" ++ (a ++ x)) = b.utf8ByteSize.repr ++ (":" ++ (b ++ y))) :
    a = b ∧ x = y := by
  have hlist := congrArg String.toList h
  simp only [String.toList_append] at hlist
  obtain ⟨hsize, hrest⟩ := append_cons_inj (colon_notMem_repr _) (colon_notMem_repr _) hlist
  refine append_inj_of_size ?_ (eq_of_repr_eq (String.toList_inj.mp hsize))
  exact String.toList_inj.mp (by simpa using hrest)

end RoboGuide.Lib
