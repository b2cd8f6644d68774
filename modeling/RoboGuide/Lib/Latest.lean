import Mathlib

/-!
# `RoboGuide.Lib.Latest`: the latest entry of a history

A history is a list that only grows at its end. `latest?` is `iter().rev().find(..)`, and
`updateLatest` is an update through `iter_mut().rev().find(..)`.
-/

namespace RoboGuide.Lib

variable {α : Type}

/-- The last element that passes the test. -/
def latest? (p : α → Bool) (xs : List α) : Option α := xs.reverse.find? p

/-- Changes the last element that passes the test. -/
def updateLatest (p : α → Bool) (f : α → α) : List α → List α
  | [] => []
  | x :: xs => if p x && !xs.any p then f x :: xs else x :: updateLatest p f xs

variable {p : α → Bool} {f : α → α} {xs : List α} {x : α}

lemma updateLatest_split (l r : List α) (hx : p x = true) (hr : ∀ y ∈ r, p y = false) :
    updateLatest p f (l ++ x :: r) = l ++ f x :: r := by
  induction l with
  | nil =>
    have hany : r.any p = false := by simpa using hr
    simp [updateLatest, hx, hany]
  | cons y l ih => simp [updateLatest, hx, ih]

lemma latest?_split (h : latest? p xs = some x) :
    ∃ l r, xs = l ++ x :: r ∧ p x = true ∧ (∀ y ∈ r, p y = false) ∧
      updateLatest p f xs = l ++ f x :: r := by
  obtain ⟨hx, as, bs, hrev, has⟩ := List.find?_eq_some_iff_append.mp h
  have hxs : xs = bs.reverse ++ x :: as.reverse := by
    rw [← List.reverse_reverse xs, hrev]
    simp
  have hr : ∀ y ∈ as.reverse, p y = false := by
    intro y hy
    simpa using has y (List.mem_reverse.mp hy)
  refine ⟨bs.reverse, as.reverse, hxs, hx, hr, ?_⟩
  rw [hxs]
  exact updateLatest_split bs.reverse as.reverse hx hr

lemma mem_of_latest? (h : latest? p xs = some x) : x ∈ xs ∧ p x = true :=
  ⟨List.mem_reverse.mp (List.mem_of_find?_eq_some h), List.find?_some h⟩

end RoboGuide.Lib
