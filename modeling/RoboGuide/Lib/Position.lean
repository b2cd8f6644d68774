import Mathlib

/-!
# `RoboGuide.Lib.Position`: the first element with a property

A list split at the first element that satisfies a predicate: what removing it by index
leaves, and when it was the only one.
-/

namespace RoboGuide.Lib

open List

variable {α : Type} {p : α → Bool} {l : List α} {a : α}

lemma split_at_find? (h : l.find? p = some a) :
    ∃ l₁ l₂, l = l₁ ++ a :: l₂ ∧ p a = true ∧ (∀ b ∈ l₁, p b = false) ∧
      l.findIdx p = l₁.length ∧ l.eraseIdx (l.findIdx p) = l₁ ++ l₂ := by
  obtain ⟨hp, l₁, l₂, rfl, hl₁⟩ := List.find?_eq_some_iff_append.mp h
  have hbefore : ∀ b ∈ l₁, p b = false := by simpa using hl₁
  have hidx : (l₁ ++ a :: l₂).findIdx p = l₁.length := by
    rw [findIdx_append, findIdx_eq_length_of_false hbefore]
    simp [findIdx_cons, hp]
  refine ⟨l₁, l₂, rfl, hp, hbefore, hidx, ?_⟩
  rw [hidx, eraseIdx_append_of_length_le (Nat.le_refl _)]
  simp

lemma countP_eq_one_iff_erased (h : l.find? p = some a) :
    l.countP p = 1 ↔ ∀ b ∈ l.eraseIdx (l.findIdx p), p b = false := by
  obtain ⟨l₁, l₂, hl, hp, -, -, herase⟩ := split_at_find? h
  rw [herase, hl, countP_append, countP_cons, if_pos hp]
  have hcount : l₁.countP p + (l₂.countP p + 1) = 1 ↔ l₁.countP p = 0 ∧ l₂.countP p = 0 := by omega
  rw [hcount, countP_eq_zero, countP_eq_zero]
  simp only [Bool.not_eq_true, mem_append]
  constructor
  · rintro ⟨h₁, h₂⟩ b (hb | hb)
    · exact h₁ b hb
    · exact h₂ b hb
  · intro hall
    exact ⟨fun b hb => hall b (.inl hb), fun b hb => hall b (.inr hb)⟩

/-- If only one element satisfies `p`, every element that does is the one found. -/
lemma eq_of_countP_eq_one (h : l.find? p = some a) (hone : l.countP p = 1) {b : α}
    (hb : b ∈ l) (hpb : p b = true) : b = a := by
  have herased := (countP_eq_one_iff_erased h).mp hone
  obtain ⟨l₁, l₂, hl, -, hbefore, -, herase⟩ := split_at_find? h
  rw [herase] at herased
  rw [hl] at hb
  rcases List.mem_append.mp hb with hb | hb
  · rw [hbefore b hb] at hpb
    cases hpb
  · rcases List.mem_cons.mp hb with rfl | hb
    · rfl
    · rw [herased b (mem_append_right _ hb)] at hpb
      cases hpb

lemma eraseIdx_findIdx_key {β : Type} [DecidableEq β] {f : α → β} {k : β}
    (hnodup : (l.map f).Nodup) (h : l.find? (fun a => f a == k) = some a) :
    l.eraseIdx (l.findIdx fun a => f a == k) = l.filter fun a => f a != k := by
  obtain ⟨l₁, l₂, hl, ha, hbefore, -, herase⟩ := split_at_find? h
  have hkey : f a = k := eq_of_beq ha
  rw [hl, map_append, map_cons, nodup_append, nodup_cons] at hnodup
  obtain ⟨-, ⟨hafter, -⟩, -⟩ := hnodup
  have h₁ : l₁.filter (fun a => f a != k) = l₁ :=
    List.filter_eq_self.mpr fun b hb => by simpa [bne] using hbefore b hb
  have h₂ : l₂.filter (fun a => f a != k) = l₂ := by
    refine List.filter_eq_self.mpr fun b hb => ?_
    simp only [bne_iff_ne]
    rintro rfl
    exact hafter (hkey ▸ mem_map_of_mem hb)
  rw [herase, hl, filter_append, filter_cons, h₁, h₂]
  simp [hkey]

end RoboGuide.Lib
