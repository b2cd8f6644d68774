import RoboGuide.Lib.Fallible
import RoboGuide.Lib.OrdMap

/-!
# `RoboGuide.Lib.Rebuild`: reading a map back from a list

A map that a format cannot hold is written as the list of its entries. Reading it back
checks every element, refuses a key that occurs twice, and yields the map again
(`collect_entries`).
-/

namespace RoboGuide.Lib

open List

variable {ε α K V : Type} [LinearOrder K] {val : α → V} {duplicate : ε} {map : OrdMap K V}

namespace OrdMap

lemma values_map_key {key : V → K} {m : OrdMap K V} (h : ∀ k v, m.get? k = some v → key v = k) :
    m.values.map (fun v => (key v, v)) = m.entries := by
  rw [values, map_map]
  refine (map_congr_left fun e he => ?_).trans (map_id _)
  have hk := h e.1 e.2 (mem_entries_iff.mp he)
  simp [hk]

lemma ofList_entries (m : OrdMap K V) : ofList m.entries = m := by
  refine ext_get? fun k => ?_
  have hnodup : (m.entries.map (·.1)).Nodup := m.nodup_keys
  refine Option.ext fun v => ?_
  rw [get?_ofList hnodup, mem_entries_iff]

end OrdMap

def collect (key : α → K) (val : α → V) (valid : α → Except ε Unit) (duplicate : ε) :
    OrdMap K V → List α → Except ε (OrdMap K V)
  | map, [] => .ok map
  | map, x :: xs => do
    valid x
    Fallible.refuse (map.contains (key x)) duplicate
    collect key val valid duplicate (map.insert (key x) (val x)) xs

section

variable {key : α → K} {valid : α → Except ε Unit} {acc : OrdMap K V} {xs : List α}

/-- What was read, and that every element passed. -/
lemma collect_eq_ok (h : collect key val valid duplicate acc xs = .ok map) :
    map = xs.foldl (fun m x => m.insert (key x) (val x)) acc ∧ ∀ x ∈ xs, valid x = .ok () := by
  induction xs generalizing acc with
  | nil =>
    obtain rfl : acc = map := by simpa [collect] using h
    exact ⟨rfl, by simp⟩
  | cons x xs ih =>
    simp only [collect, Fallible.bind_eq_ok, Fallible.refuse_eq_ok] at h
    obtain ⟨_, hx, _, _, h⟩ := h
    obtain ⟨hmap, hxs⟩ := ih h
    refine ⟨hmap, fun y hy => ?_⟩
    rcases List.mem_cons.mp hy with rfl | hy
    · exact hx
    · exact hxs y hy

lemma collect_ok (hvalid : ∀ x ∈ xs, valid x = .ok ())
    (hnodup : (xs.map key).Nodup) (hfresh : ∀ x ∈ xs, acc.contains (key x) = false) :
    collect key val valid duplicate acc xs =
      .ok (xs.foldl (fun m x => m.insert (key x) (val x)) acc) := by
  induction xs generalizing acc with
  | nil => rfl
  | cons x xs ih =>
    rw [map_cons, nodup_cons] at hnodup
    rw [collect, hvalid x mem_cons_self, hfresh x mem_cons_self]
    refine ih (fun y hy => hvalid y (mem_cons_of_mem _ hy)) hnodup.2 fun y hy => ?_
    have hne : key x ≠ key y := fun he => hnodup.1 (he ▸ mem_map_of_mem hy)
    rw [contains_insert, hfresh y (mem_cons_of_mem _ hy)]
    simp [hne.symm]

end

variable {key : α → K}

lemma foldl_insert_eq {xs : List α} (h : xs.map (fun x => (key x, val x)) = map.entries) :
    xs.foldl (fun m x => m.insert (key x) (val x)) ∅ = map := by
  rw [← OrdMap.ofList_entries map, ← h, OrdMap.ofList, foldl_map]

variable {valid : α → Except ε Unit}

lemma collect_entries {xs : List α} (h : xs.map (fun x => (key x, val x)) = map.entries)
    (hvalid : ∀ x ∈ xs, valid x = .ok ()) : collect key val valid duplicate ∅ xs = .ok map := by
  have hnodup : (xs.map key).Nodup := by
    have hkeys : xs.map key = map.keys := by
      rw [OrdMap.keys, ← h, map_map]
      rfl
    exact hkeys ▸ map.nodup_keys
  rw [collect_ok hvalid hnodup fun _ _ => rfl, foldl_insert_eq h]

lemma eq_of_collect_entries
    {read : OrdMap K V} {xs : List α} (h : xs.map (fun x => (key x, val x)) = map.entries)
    (hread : collect key val valid duplicate ∅ xs = .ok read) : read = map :=
  (collect_eq_ok hread).1.trans (foldl_insert_eq h)

end RoboGuide.Lib
