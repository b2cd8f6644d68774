import Mathlib

/-!
# `RoboGuide.Lib.Acyclic`: relations without cycles
-/

namespace RoboGuide.Lib

open Relation List

variable {α : Type} {R : α → α → Prop}

/-- No element reaches itself. -/
def Acyclic (R : α → α → Prop) : Prop := ∀ a, ¬ TransGen R a a

lemma Acyclic.mono {R' : α → α → Prop} (h : Acyclic R) (hle : ∀ a b, R' a b → R a b) :
    Acyclic R' :=
  fun a hcycle => h a (TransGen.mono (fun _ _ => hle _ _) _ _ hcycle)

/-- A finite part of an acyclic relation has an element without successor in it. -/
lemma Acyclic.exists_sink (h : Acyclic R) (xs : List α) (hne : xs ≠ []) :
    ∃ a ∈ xs, ∀ b ∈ xs, ¬ R a b := by
  have : IsStrictOrder α fun a b => TransGen R b a :=
    { irrefl := h, trans := fun _ _ _ hab hbc => hbc.trans hab }
  have hwf := Set.wellFoundedOn_iff.mp (xs.finite_toSet.wellFoundedOn
    (r := fun a b => TransGen R b a))
  obtain ⟨a, ha, hmin⟩ := hwf.has_min { x | x ∈ xs } (exists_mem_of_ne_nil xs hne)
  exact ⟨a, ha, fun b hb hab => hmin b hb ⟨.single hab, hb, ha⟩⟩

end RoboGuide.Lib
