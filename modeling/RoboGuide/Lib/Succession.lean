import RoboGuide.Lib.OrdMap
import RoboGuide.Lib.Fallible

/-!
# `RoboGuide.Lib.Succession`: a history of numbered generations

Generations are kept in a map by their number. Reading a history back checks every
generation against the one before it and returns the last. A generation that passes against
the last one, with a number above all others, can be added (`checkSuccession_insert`).
-/

namespace RoboGuide.Lib

open Fallible

variable {ε V : Type}

/-- The loop over a history: each generation against the one before; the last one. -/
def checkSuccession (check : Option V → Nat → V → Except ε Unit) :
    Option V → List (Nat × V) → Except ε (Option V)
  | previous, [] => .ok previous
  | previous, (number, v) :: rest => do
    check previous number v
    checkSuccession check (some v) rest

variable {check : Option V → Nat → V → Except ε Unit}

lemma checkSuccession_append (previous : Option V) (xs ys : List (Nat × V)) :
    checkSuccession check previous (xs ++ ys) =
      checkSuccession check previous xs >>= fun last => checkSuccession check last ys := by
  induction xs generalizing previous with
  | nil => rfl
  | cons x xs ih =>
    obtain ⟨_, v⟩ := x
    simp only [List.cons_append, checkSuccession, bind_assoc, ih]

lemma checkSuccession_last {number : V → Nat}
    (hnumber : ∀ previous n v, check previous n v = .ok () → n = number v)
    {previous last : Option V} {xs : List (Nat × V)}
    (h : checkSuccession check previous xs = .ok last) : xs = [] ∧ last = previous ∨
      ∃ front v, xs = front ++ [(number v, v)] ∧ last = some v := by
  induction xs generalizing previous with
  | nil => exact .inl ⟨rfl, (Except.ok.inj h).symm⟩
  | cons x xs ih =>
    obtain ⟨n, v⟩ := x
    rw [checkSuccession, bind_eq_ok] at h
    obtain ⟨⟨⟩, hcheck, hrest⟩ := h
    obtain rfl := hnumber previous n v hcheck
    refine .inr ?_
    rcases ih hrest with ⟨rfl, rfl⟩ | ⟨front, last, rfl, rfl⟩
    · exact ⟨[], v, rfl, rfl⟩
    · exact ⟨_ :: front, last, rfl, rfl⟩

variable {m : OrdMap Nat V} {last : Option V} {number : V → Nat} {n : Nat}

lemma checkSuccession_fresh (hnumber : ∀ previous n v, check previous n v = .ok () → n = number v)
    (h : checkSuccession check none m.entries = .ok last)
    (hlast : ∀ v, last = some v → number v < n) : ∀ e ∈ m.entries, e.1 < n := by
  intro e he
  rcases checkSuccession_last hnumber h with ⟨hnil, -⟩ | ⟨_, v, hentries, rfl⟩
  · rw [hnil] at he
    cases he
  have hv : number v < n := hlast v rfl
  -- the map is sorted, so the last number bounds the others
  have hsorted := m.sorted
  rw [hentries] at hsorted he
  rcases List.mem_append.mp he with hfront | hend
  · have hlt : e.1 < number v := (List.pairwise_append.mp hsorted).2.2 e hfront _ List.mem_cons_self
    omega
  · rw [List.mem_singleton.mp hend]
    exact hv

lemma checkSuccession_insert (h : checkSuccession check none m.entries = .ok last)
    {v : V} (hfresh : ∀ e ∈ m.entries, e.1 < n) (hcheck : check last n v = .ok ()) :
    checkSuccession check none (m.insert n v).entries = .ok (some v) := by
  rw [OrdMap.entries_insert_of_lt v hfresh, checkSuccession_append, h]
  show checkSuccession check last [(n, v)] = _
  rw [checkSuccession, hcheck]
  rfl

end RoboGuide.Lib
