import Mathlib

/-!
# `RoboGuide.Lib.Transition`: runs of a labelled transition function

A system takes one labelled step after another; which labels may be taken in a state is a
parameter, so that one induction serves every assumption on the environment.
`Reaches.invariant` is that induction.
-/

namespace RoboGuide.Lib

open List

variable {S L : Type} {step : S → L → S} {ls : List L} {P : S → Prop}

/-- `s'` is reached from `s` by steps whose labels are allowed where they are taken. -/
inductive Reaches (step : S → L → S) (allowed : S → L → Prop) (s : S) : S → Prop where
  | refl : Reaches step allowed s s
  | tail {s' : S} (l : L) : Reaches step allowed s s' → allowed s' l →
      Reaches step allowed s (step s' l)

namespace Reaches

variable {allowed : S → L → Prop} {s s' : S}

lemma invariant (h : Reaches step allowed s s') (hstart : P s)
    (hstep : ∀ t l, P t → allowed t l → P (step t l)) : P s' := by
  induction h with
  | refl => exact hstart
  | tail l _ hl ih => exact hstep _ l ih hl

/-- A run under a stronger assumption is a run. -/
lemma mono {allowed' : S → L → Prop} (h : Reaches step allowed s s')
    (himp : ∀ t l, allowed t l → allowed' t l) : Reaches step allowed' s s' := by
  induction h with
  | refl => exact .refl
  | tail l _ hl ih => exact .tail l ih (himp _ l hl)

def AllowedAlong (step : S → L → S) (allowed : S → L → Prop) : S → List L → Prop
  | _, [] => True
  | s, l :: ls => allowed s l ∧ AllowedAlong step allowed (step s l) ls

instance AllowedAlong.decidable (step : S → L → S) (allowed : S → L → Prop)
    [∀ s l, Decidable (allowed s l)] : ∀ s ls, Decidable (AllowedAlong step allowed s ls)
  | _, [] => isTrue trivial
  | s, l :: ls =>
    have := AllowedAlong.decidable step allowed (step s l) ls
    inferInstanceAs (Decidable (_ ∧ _))

lemma of_list (ls : List L) {s s₀ : S} (h₀ : Reaches step allowed s₀ s)
    (h : AllowedAlong step allowed s ls) : Reaches step allowed s₀ (ls.foldl step s) := by
  induction ls generalizing s with
  | nil => exact h₀
  | cons l ls ih => exact ih (.tail l h₀ h.1) h.2

end Reaches

/-! ### Outputs -/

def outputs {O : Type} (step : S → L → S) (out : S → L → Option O) : S → List L → List O
  | _, [] => []
  | s, l :: ls => (out s l).toList ++ outputs step out (step s l) ls

lemma outputs_increasing {allowed : S → L → Prop} {out : S → L → Option Nat}
    (floor : S → Nat) (hP : ∀ s l, P s → allowed s l → P (step s l))
    (hfloor : ∀ s l, P s → allowed s l → floor s ≤ floor (step s l))
    (hout : ∀ s l n, P s → allowed s l → out s l = some n → floor s < n ∧ n ≤ floor (step s l))
    {s : S} (hs : P s) (h : Reaches.AllowedAlong step allowed s ls) :
    (∀ n ∈ outputs step out s ls, floor s < n) ∧ (outputs step out s ls).Pairwise (· < ·) := by
  induction ls generalizing s with
  | nil => simp [outputs]
  | cons l ls ih =>
    obtain ⟨habove, hpairwise⟩ := ih (hP s l hs h.1) h.2
    have hle := hfloor s l hs h.1
    cases ho : out s l with
    | none =>
      simp only [outputs, ho, Option.toList_none, nil_append]
      exact ⟨fun n hn => Nat.lt_of_le_of_lt hle (habove n hn), hpairwise⟩
    | some q =>
      obtain ⟨hlt, hq⟩ := hout s l q hs h.1 ho
      simp only [outputs, ho, Option.toList_some, singleton_append, mem_cons, pairwise_cons]
      refine ⟨?_, fun n hn => Nat.lt_of_le_of_lt hq (habove n hn), hpairwise⟩
      rintro n (rfl | hn)
      · exact hlt
      · exact Nat.lt_of_le_of_lt hle (habove n hn)

/-! ### Trajectories -/

/-- The state after the first `n` labels of a sequence. -/
def stateAfter (step : S → L → S) (s : S) (labels : Nat → L) : Nat → S
  | 0 => s
  | n + 1 => step (stateAfter step s labels n) (labels n)

lemma reaches_stateAfter (step : S → L → S) (s : S) (labels : Nat → L) {i j : Nat}
    (h : i ≤ j) : Reaches step (fun _ _ => True) (stateAfter step s labels i)
      (stateAfter step s labels j) := by
  induction h with
  | refl => exact .refl
  | step _ ih => exact .tail _ ih trivial

/-! ### Runs over a list -/

lemma foldl_keeps {s : S}
    (hstep : ∀ s, ∀ l ∈ ls, P s → P (step s l)) (hs : P s) : P (ls.foldl step s) := by
  induction ls generalizing s with
  | nil => exact hs
  | cons l ls ih =>
    exact ih (fun s l' hl' => hstep s l' (mem_cons_of_mem _ hl'))
      (hstep s l mem_cons_self hs)

lemma foldl_view {V : Type} (view : S → V)
    (hstep : ∀ s l, view (step s l) = view s) (ls : List L) (s : S) :
    view (ls.foldl step s) = view s :=
  foldl_keeps (P := fun s' => view s' = view s) (fun s' l _ h => (hstep s' l).trans h) rfl

/-- What a view once shows it still shows after the run. -/
lemma foldl_settles {V : Type} (view : S → Option V)
    (hstep : ∀ s, ∀ l ∈ ls, ∀ v, view s = some v → view (step s l) = some v) (s : S) :
    view s = none ∨ view (ls.foldl step s) = view s := by
  cases hv : view s with
  | none => exact .inl rfl
  | some v => exact .inr (foldl_keeps (P := (view · = some v)) (fun s l hl => hstep s l hl v) hv)

end RoboGuide.Lib
