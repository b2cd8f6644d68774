import Mathlib

/-!
# `RoboGuide.Lib.History`: what a log that only grows says about order

A machine that records what happened appends to a list. Two statements about the order of
entries are kept by appending: every entry of one sort has an earlier one of another sort
(`Preceded`), and after a marked entry with nothing of one sort before it, nothing of another
sort comes (`Bars`).
-/

namespace RoboGuide.Lib.History

open List

variable {α : Type} {M P P' Q : α → Prop} {log : List α} {x : α}

lemma split_concat {y : α} {l₁ l₂ : List α} (h : log ++ [x] = l₁ ++ y :: l₂) :
    (l₂ = [] ∧ log = l₁ ∧ x = y) ∨ ∃ l₃, l₂ = l₃ ++ [x] ∧ log = l₁ ++ y :: l₃ := by
  rcases eq_nil_or_concat l₂ with rfl | ⟨l₃, z, rfl⟩
  · obtain ⟨hlog, hx⟩ := append_inj' h rfl
    exact .inl ⟨rfl, hlog, List.singleton_inj.mp hx⟩
  · rw [concat_eq_append, ← cons_append, ← append_assoc] at h
    obtain ⟨hlog, hx⟩ := append_inj' h rfl
    rw [concat_eq_append, List.singleton_inj.mp hx]
    exact .inr ⟨l₃, rfl, hlog⟩

/-- Every entry with `P` comes after one with `Q`. -/
def Preceded (P Q : α → Prop) (log : List α) : Prop :=
  ∀ l₁ x l₂, log = l₁ ++ x :: l₂ → P x → ∃ y ∈ l₁, Q y

lemma Preceded.nil : Preceded P Q [] := by
  intro l₁ x l₂ h
  simp at h

lemma Preceded.concat (h : Preceded P Q log) (hx : P x → ∃ y ∈ log, Q y) :
    Preceded P Q (log ++ [x]) := by
  intro l₁ y l₂ hsplit hy
  rcases split_concat hsplit with ⟨-, rfl, rfl⟩ | ⟨l₃, -, hlog⟩
  · exact hx hy
  · exact h l₁ y l₃ hlog hy

/-- After an entry with `M` that has none with `P` before it, there is none with `P'`. -/
def Bars (M P P' : α → Prop) (log : List α) : Prop :=
  ∀ l₁ m l₂, log = l₁ ++ m :: l₂ → M m → (∀ x ∈ l₁, ¬ P x) → ∀ x ∈ l₂, ¬ P' x

lemma Bars.nil : Bars M P P' [] := by
  intro l₁ x l₂ h
  simp at h

/-- An entry with `P` may be appended after a mark only if there is one already. -/
lemma Bars.concat (h : Bars M P P log) (hdisjoint : ∀ y, M y → ¬ P y)
    (hx : P x → (∃ m ∈ log, M m) → ∃ y ∈ log, P y) : Bars M P P (log ++ [x]) := by
  intro l₁ m l₂ hsplit hm hbefore z hz hPz
  rcases split_concat hsplit with ⟨rfl, -, -⟩ | ⟨l₃, rfl, rfl⟩
  · simp at hz
  · have hafter := h l₁ m l₃ rfl hm hbefore
    rcases List.mem_append.mp hz with hz | hz
    · exact hafter z hz hPz
    · rw [List.mem_singleton.mp hz] at hPz
      obtain ⟨y, hy, hPy⟩ := hx hPz ⟨m, by simp, hm⟩
      simp only [mem_append, mem_cons] at hy
      rcases hy with hy | rfl | hy
      · exact hbefore y hy hPy
      · exact hdisjoint y hm hPy
      · exact hafter y hy hPy

/-- What needs an entry with `P` before it is barred with it. -/
lemma Bars.of_preceded (h : Bars M P P log) (hdisjoint : ∀ y, M y → ¬ P y)
    (hpreceded : Preceded P' P log) : Bars M P P' log := by
  intro l₁ m l₂ hsplit hm hbefore x hx hPx
  obtain ⟨l₃, l₄, rfl⟩ := append_of_mem hx
  have hassoc : log = (l₁ ++ m :: l₃) ++ x :: l₄ := by simpa using hsplit
  obtain ⟨y, hy, hPy⟩ := hpreceded _ x l₄ hassoc hPx
  have hafter := h l₁ m (l₃ ++ x :: l₄) hsplit hm hbefore
  simp only [mem_append, mem_cons] at hy
  rcases hy with hy | rfl | hy
  · exact hbefore y hy hPy
  · exact hdisjoint y hm hPy
  · exact hafter y (mem_append_left _ hy) hPy

end RoboGuide.Lib.History
