import Mathlib

/-!
# `RoboGuide.Lib.OrdMap`: ordered finite maps

A finite map kept as an association list sorted by key. The sortedness proof is a field,
so a map never holds two entries for one key, iteration is in key order, and two maps with
the same lookups are equal (`OrdMap.ext_get?`). Every operation is structurally recursive,
so closed terms evaluate in the kernel.

`get?_insert`, `get?_erase`, `get?_retain` and `get?_mapValues` are the whole interface a
proof needs: membership in `entries`, `keys` and `values` is read back through
`mem_entries_iff`.
-/

namespace RoboGuide.Lib

open List Option

/-- A finite map from `K` to `V`, as its entries in strictly increasing key order. -/
structure OrdMap (K V : Type) [LinearOrder K] where
  /-- The entries, smallest key first. -/
  entries : List (K × V)
  /-- Keys strictly increase. -/
  sorted : entries.Pairwise fun a b => a.1 < b.1

namespace OrdMap

variable {K V W : Type} [LinearOrder K]

instance [DecidableEq V] : DecidableEq (OrdMap K V) := fun a b =>
  match a, b with
  | ⟨x, _⟩, ⟨y, _⟩ =>
    if h : x = y then isTrue (by subst h; rfl) else isFalse (fun e => h (congrArg entries e))

def empty : OrdMap K V := ⟨[], List.Pairwise.nil⟩

instance : EmptyCollection (OrdMap K V) := ⟨empty⟩

instance : Inhabited (OrdMap K V) := ⟨empty⟩

/-- First entry of an association list under `k`. -/
def lookup (k : K) : List (K × V) → Option V
  | [] => none
  | (k', v) :: rest => if k = k' then some v else lookup k rest

variable (m : OrdMap K V) {k k' : K} {v : V} {l : List (K × V)} {m' : OrdMap K W}

/-- The value stored under `k`. -/
def get? (k : K) : Option V := lookup k m.entries

/-- Whether `k` has an entry. -/
def contains (k : K) : Bool := (m.get? k).isSome

/-- Put `(k, v)` at its place, replacing an entry under the same key. -/
def insertEntry (k : K) (v : V) : List (K × V) → List (K × V)
  | [] => [(k, v)]
  | (k', v') :: rest =>
    if k = k' then (k, v) :: rest
    else if k < k' then (k, v) :: (k', v') :: rest
    else (k', v') :: insertEntry k v rest

lemma mem_insertEntry {e : K × V} (h : e ∈ insertEntry k v l) : e = (k, v) ∨ e ∈ l := by
  induction l with
  | nil => exact .inl (by simpa [insertEntry] using h)
  | cons hd rest ih =>
    simp only [insertEntry] at h
    split at h
    · rcases List.mem_cons.mp h with rfl | h
      · exact .inl rfl
      · exact .inr (mem_cons_of_mem _ h)
    · split at h
      · exact List.mem_cons.mp h
      · rcases List.mem_cons.mp h with rfl | h
        · exact .inr mem_cons_self
        · exact (ih h).imp_right (mem_cons_of_mem _)

lemma sorted_insertEntry (k : K) (v : V)
    (h : l.Pairwise fun a b => a.1 < b.1) : (insertEntry k v l).Pairwise fun a b => a.1 < b.1 := by
  induction l with
  | nil => simp [insertEntry]
  | cons hd rest ih =>
    obtain ⟨k', v'⟩ := hd
    rw [pairwise_cons] at h
    simp only [insertEntry]
    split
    · next hk => subst hk; exact List.pairwise_cons.mpr h
    · next hne =>
      split
      · next hlt =>
        refine List.pairwise_cons.mpr ⟨fun e he => ?_, List.pairwise_cons.mpr h⟩
        rcases List.mem_cons.mp he with rfl | he
        · exact hlt
        · exact lt_trans hlt (h.1 e he)
      · next hge =>
        refine List.pairwise_cons.mpr ⟨fun e he => ?_, ih h.2⟩
        rcases mem_insertEntry he with rfl | he
        · exact lt_of_le_of_ne (not_lt.mp hge) (Ne.symm hne)
        · exact h.1 e he

/-- Store `v` under `k`. -/
def insert (k : K) (v : V) : OrdMap K V :=
  ⟨insertEntry k v m.entries, sorted_insertEntry k v m.sorted⟩

/-- Keep the entries that satisfy `p`. -/
def retain (p : K → V → Bool) : OrdMap K V :=
  ⟨m.entries.filter fun e => p e.1 e.2, m.sorted.filter _⟩

/-- Drop the entry under `k`. -/
def erase (k : K) : OrdMap K V := m.retain fun k' _ => k' ≠ k

/-- Rewrite every value, keeping its key. -/
def mapValues (f : K → V → W) : OrdMap K W :=
  ⟨m.entries.map fun e => (e.1, f e.1 e.2), by
    rw [List.pairwise_map]; exact m.sorted⟩

/-- Rewrite the value under `k`, if there is one. -/
def modify (k : K) (f : V → V) : OrdMap K V :=
  m.mapValues fun k' v => if k' = k then f v else v

def keys : List K := m.entries.map (·.1)

def values : List V := m.entries.map (·.2)

/-- The map holding the pairs of a list, later pairs winning. -/
def ofList (l : List (K × V)) : OrdMap K V := l.foldl (fun m e => m.insert e.1 e.2) ∅

/-! ### Lookups -/

lemma lookup_eq_some_iff
    (hs : l.Pairwise fun a b => a.1 < b.1) : lookup k l = some v ↔ (k, v) ∈ l := by
  induction l with
  | nil => simp [lookup]
  | cons e l ih =>
    obtain ⟨k', v'⟩ := e
    rw [pairwise_cons] at hs
    by_cases hk : k = k'
    · subst hk
      have hnot : (k, v) ∉ l := fun hm => lt_irrefl k (hs.1 _ hm)
      simp [lookup, hnot, eq_comm]
    · simp [lookup, hk, ih hs.2]

lemma mem_entries_iff {m : OrdMap K V} : (k, v) ∈ m.entries ↔ m.get? k = some v :=
  (lookup_eq_some_iff m.sorted).symm

@[simp] lemma get?_empty (k : K) : (∅ : OrdMap K V).get? k = none := rfl

lemma lookup_insertEntry (k k' : K) (v : V) (l : List (K × V)) :
    lookup k' (insertEntry k v l) = if k' = k then some v else lookup k' l := by
  induction l with
  | nil => simp [insertEntry, lookup]
  | cons e l ih =>
    obtain ⟨a, b⟩ := e
    simp only [insertEntry]
    split
    · next h => subst h; by_cases h' : k' = k <;> simp [lookup, h']
    · split
      · simp [lookup]
      · by_cases h' : k' = a
        · subst h'
          next hne _ => simp [lookup, Ne.symm hne]
        · simp [lookup, h', ih]

lemma get?_insert (k k' : K) (v : V) :
    (m.insert k v).get? k' = if k' = k then some v else m.get? k' :=
  lookup_insertEntry k k' v m.entries

@[simp] lemma get?_insert_self (k : K) (v : V) :
    (m.insert k v).get? k = some v := by simp [get?_insert]

lemma get?_insert_of_ne {m : OrdMap K V} (h : k' ≠ k) :
    (m.insert k v).get? k' = m.get? k' := by simp [get?_insert, h]

lemma insert_cases {m : OrdMap K V} {v' : V}
    (h : (m.insert k v).get? k' = some v') : k' = k ∧ v = v' ∨ k' ≠ k ∧ m.get? k' = some v' := by
  rw [get?_insert] at h
  split at h
  · next hk => exact .inl ⟨hk, Option.some.inj h⟩
  · next hk => exact .inr ⟨hk, h⟩

lemma get?_eq_some_retain (p : K → V → Bool) (k : K) (v : V) :
    (m.retain p).get? k = some v ↔ m.get? k = some v ∧ p k v = true := by
  rw [← mem_entries_iff, ← mem_entries_iff]
  simp [retain, mem_filter]

lemma get?_retain (p : K → V → Bool) (k : K) : (m.retain p).get? k = (m.get? k).filter (p k) := by
  apply ext
  intro v
  rw [get?_eq_some_retain, filter_eq_some_iff]

/-- What is kept under a key is found under it. -/
lemma get?_retain_of_kept {p : K → V → Bool} (h : ∀ v, m.get? k = some v → p k v = true) :
    (m.retain p).get? k = m.get? k := by
  rw [get?_retain]
  cases hget : m.get? k with
  | none => rfl
  | some v => rw [filter_some, if_pos (h v hget)]

lemma get?_erase (k k' : K) : (m.erase k).get? k' = if k' = k then none else m.get? k' := by
  unfold erase
  rw [get?_retain]
  by_cases h : k' = k
  · subst h; cases m.get? k' <;> simp
  · cases m.get? k' <;> simp [h]

@[simp] lemma get?_erase_self (k : K) : (m.erase k).get? k = none := by simp [get?_erase]

lemma get?_erase_of_ne (h : k' ≠ k) : (m.erase k).get? k' = m.get? k' := by simp [get?_erase, h]

lemma lookup_map (f : K → V → W) (k : K) (l : List (K × V)) :
    lookup k (l.map fun e => (e.1, f e.1 e.2)) = (lookup k l).map (f k) := by
  induction l with
  | nil => rfl
  | cons e l ih =>
    by_cases h : k = e.1
    · subst h; simp [lookup]
    · simp [lookup, h, ih]

lemma get?_mapValues (f : K → V → W) (k : K) :
    (m.mapValues f).get? k = (m.get? k).map (f k) := lookup_map f k m.entries

lemma get?_modify (k k' : K) (f : V → V) :
    (m.modify k f).get? k' = if k' = k then (m.get? k').map f else m.get? k' := by
  rw [modify, get?_mapValues]
  by_cases h : k' = k <;> simp [h]

/-! ### Extensionality, keys and values -/

lemma entries_eq_of_lookup {l' : List (K × V)} (hs : l.Pairwise fun a b => a.1 < b.1)
    (hs' : l'.Pairwise fun a b => a.1 < b.1) (h : ∀ k, lookup k l = lookup k l') : l = l' := by
  have nd : l.Nodup := hs.imp fun hab hEq => by subst hEq; exact lt_irrefl _ hab
  have nd' : l'.Nodup := hs'.imp fun hab hEq => by subst hEq; exact lt_irrefl _ hab
  have hperm : l.Perm l' := by
    refine (perm_ext_iff_of_nodup nd nd').mpr fun ⟨k, v⟩ => ?_
    rw [← lookup_eq_some_iff hs, ← lookup_eq_some_iff hs', h]
  exact hperm.eq_of_pairwise (fun _ _ _ _ hab hba => absurd hab (lt_asymm hba)) hs hs'

lemma forall_get?_iff {m : OrdMap K V} {P : K → V → Prop} :
    (∀ k v, m.get? k = some v → P k v) ↔ ∀ e ∈ m.entries, P e.1 e.2 := by
  constructor
  · rintro h ⟨k, v⟩ he
    exact h k v (mem_entries_iff.mp he)
  · intro h k v hv
    exact h (k, v) (mem_entries_iff.mpr hv)

@[ext] lemma ext_get? {m m' : OrdMap K V} (h : ∀ k, m.get? k = m'.get? k) : m = m' := by
  obtain ⟨l, hs⟩ := m
  obtain ⟨l', hs'⟩ := m'
  have : l = l' := entries_eq_of_lookup hs hs' h
  subst this
  rfl

/-- The last value stored under a key wins. -/
@[simp] lemma insert_insert (k : K) (v v' : V) : (m.insert k v).insert k v' = m.insert k v' := by
  ext1 k'
  by_cases h : k' = k <;> simp [get?_insert, h]

lemma insertEntry_of_lt (v : V) (h : ∀ e ∈ l, e.1 < k) : insertEntry k v l = l ++ [(k, v)] := by
  induction l with
  | nil => rfl
  | cons hd rest ih =>
    obtain ⟨k', v'⟩ := hd
    have hlt : k' < k := h _ mem_cons_self
    rw [insertEntry, if_neg hlt.ne', if_neg hlt.le.not_gt,
      ih fun e he => h e (mem_cons_of_mem _ he)]
    rfl

/-- A key above all others goes to the end. -/
lemma entries_insert_of_lt {m : OrdMap K V} (v : V) (h : ∀ e ∈ m.entries, e.1 < k) :
    (m.insert k v).entries = m.entries ++ [(k, v)] :=
  insertEntry_of_lt v h

lemma insert_eq_self {m : OrdMap K V} (h : m.get? k = some v) : m.insert k v = m := by
  ext1 k'
  rw [get?_insert]
  split
  · next hk => rw [hk, h]
  · rfl

lemma modify_insert_self (k : K) (v : V) (f : V → V) :
    (m.insert k v).modify k f = m.insert k (f v) := by
  ext1 k'
  by_cases hk : k' = k <;> simp [get?_modify, get?_insert, hk]

lemma mem_keys_iff {m : OrdMap K V} : k ∈ m.keys ↔ ∃ v, m.get? k = some v := by
  simp [keys, ← mem_entries_iff]

lemma mem_values_iff {m : OrdMap K V} : v ∈ m.values ↔ ∃ k, m.get? k = some v := by
  simp [values, ← mem_entries_iff]

lemma contains_eq_true_iff {m : OrdMap K V} :
    m.contains k = true ↔ ∃ v, m.get? k = some v := isSome_iff_exists

lemma contains_insert (k k' : K) (v : V) :
    (m.insert k v).contains k' = (decide (k' = k) || m.contains k') := by
  by_cases hk : k' = k <;> simp [contains, get?_insert, hk]

lemma mapValues_insert (k : K) (v : V) (f : K → V → W) :
    (m.insert k v).mapValues f = (m.mapValues f).insert k (f k v) := by
  ext1 k'
  rw [get?_mapValues, get?_insert, get?_insert, get?_mapValues]
  split
  · next hk => rw [hk, map_some]
  · rfl

lemma mapValues_mapValues {X : Type} (m : OrdMap K V) (f : K → V → W) (g : K → W → X) :
    (m.mapValues f).mapValues g = m.mapValues fun k v => g k (f k v) := by
  ext1 k
  rw [get?_mapValues, get?_mapValues, get?_mapValues, Option.map_map]
  rfl

lemma mapValues_congr {m : OrdMap K V} {f g : K → V → W}
    (h : ∀ k v, m.get? k = some v → f k v = g k v) : m.mapValues f = m.mapValues g := by
  ext1 k
  rw [get?_mapValues, get?_mapValues]
  cases hv : m.get? k with
  | none => rfl
  | some v => rw [map_some, map_some, h k v hv]

lemma values_mapValues (f : K → V → W) :
    (m.mapValues f).values = m.entries.map fun e => f e.1 e.2 := by
  simp [values, mapValues]

lemma perm_insertEntry (v : V) (h : lookup k l = none) :
    (insertEntry k v l).Perm ((k, v) :: l) := by
  induction l with
  | nil => exact .refl _
  | cons hd rest ih =>
    obtain ⟨k', v'⟩ := hd
    by_cases hk : k = k'
    · simp [lookup, hk] at h
    · rw [lookup, if_neg hk] at h
      rw [insertEntry, if_neg hk]
      split
      · exact .refl _
      · exact ((ih h).cons (k', v')).trans (.swap _ _ _)

lemma perm_values_insert {m : OrdMap K V} (v : V) (h : m.get? k = none) :
    (m.insert k v).values.Perm (v :: m.values) :=
  (perm_insertEntry v h).map _

lemma countP_values_modify (k : K) {f : V → V} {p : V → Bool}
    (h : ∀ v, p (f v) = p v) : (m.modify k f).values.countP p = m.values.countP p := by
  rw [modify, values_mapValues, values, countP_map, countP_map]
  refine countP_congr fun e _ => ?_
  show p (if e.1 = k then f e.2 else e.2) = true ↔ p e.2 = true
  split
  · rw [h]
  · exact Iff.rfl

lemma mem_of_get?_ofList (h : (ofList l).get? k = some v) : (k, v) ∈ l := by
  suffices hgen : ∀ m : OrdMap K V,
      (l.foldl (fun m e => m.insert e.1 e.2) m).get? k = some v → m.get? k = some v ∨ (k, v) ∈ l by
    exact (hgen ∅ h).resolve_left (by simp)
  clear h
  induction l with
  | nil => exact fun m h => .inl h
  | cons e l ih =>
    intro m h
    rcases ih _ h with hold | hmem
    · rw [get?_insert] at hold
      split at hold
      · next hk =>
        cases hold
        exact .inr (List.mem_cons.mpr (.inl (by rw [hk])))
      · exact .inl hold
    · exact .inr (mem_cons_of_mem _ hmem)

lemma get?_ofList_isSome (h : k ∈ l.map (·.1)) : ∃ v, (ofList l).get? k = some v := by
  suffices hgen : ∀ m : OrdMap K V, (∃ v, m.get? k = some v) ∨ k ∈ l.map (·.1) →
      ∃ v, (l.foldl (fun m e => m.insert e.1 e.2) m).get? k = some v by
    exact hgen ∅ (.inr h)
  clear h
  induction l with
  | nil =>
    intro m h
    exact h.resolve_right (by simp)
  | cons e l ih =>
    intro m h
    refine ih _ ?_
    by_cases hk : k = e.1
    · exact .inl ⟨e.2, by rw [get?_insert, if_pos hk]⟩
    · rcases h with ⟨v, hv⟩ | hmem
      · exact .inl ⟨v, by rw [get?_insert, if_neg hk, hv]⟩
      · rw [map_cons, mem_cons] at hmem
        exact .inr (hmem.resolve_left hk)

lemma get?_ofList (hnodup : (l.map (·.1)).Nodup) : (ofList l).get? k = some v ↔ (k, v) ∈ l := by
  refine ⟨mem_of_get?_ofList, fun h => ?_⟩
  obtain ⟨v', hv'⟩ := get?_ofList_isSome (mem_map_of_mem h)
  have hmem := mem_of_get?_ofList hv'
  rw [nodup_map_iff_inj_on (List.Nodup.of_map _ hnodup)] at hnodup
  obtain ⟨-, rfl⟩ := Prod.mk.inj (hnodup _ hmem _ h rfl)
  exact hv'

lemma nodup_keys : m.keys.Nodup :=
  List.Pairwise.map _ (fun _ _ hab => ne_of_lt hab) m.sorted

lemma mem_keys_iff_contains (k : K) : k ∈ m.keys ↔ m.contains k = true := by
  rw [mem_keys_iff, contains_eq_true_iff]

lemma contains_of_length_eq {m : OrdMap K V}
    (hsub : ∀ k, m.contains k = true → m'.contains k = true)
    (hlength : m.keys.length = m'.keys.length) (hk : m'.contains k = true) :
    m.contains k = true := by
  simp only [← mem_keys_iff_contains] at hsub hk ⊢
  have hperm := (subperm_of_subset m.nodup_keys hsub).perm_of_length_le hlength.ge
  exact hperm.mem_iff.mpr hk

lemma sorted_keys : m.keys.Pairwise (· < ·) :=
  List.pairwise_map.mpr m.sorted

lemma keys_eq_of_contains {m : OrdMap K V}
    (h : ∀ k, m.contains k = m'.contains k) : m.keys = m'.keys := by
  have hmem : ∀ k, k ∈ m.keys ↔ k ∈ m'.keys := fun k => by
    rw [mem_keys_iff_contains, mem_keys_iff_contains, h]
  have hperm : m.keys.Perm m'.keys :=
    (perm_ext_iff_of_nodup m.nodup_keys m'.nodup_keys).mpr hmem
  exact hperm.eq_of_pairwise (fun a b _ _ hab hba => absurd hba (lt_asymm hab))
    m.sorted_keys m'.sorted_keys

end OrdMap

export OrdMap (mem_entries_iff mem_keys_iff mem_values_iff contains_eq_true_iff contains_insert
  get?_insert get?_insert_self get?_insert_of_ne insert_cases insert_eq_self get?_eq_some_retain
  get?_erase get?_mapValues get?_modify)

/-- A finite set, as an ordered map to `Unit`. -/
abbrev OrdSet (K : Type) [LinearOrder K] := OrdMap K Unit

def OrdSet.ofList {K : Type} [LinearOrder K] (l : List K) : OrdSet K :=
  l.foldl (fun s k => s.insert k ()) ∅

lemma OrdSet.contains_foldl_insert {K : Type} [LinearOrder K] (k : K) (l : List K)
    (s : OrdSet K) :
    (l.foldl (fun s k => s.insert k ()) s).contains k = true ↔ s.contains k = true ∨ k ∈ l := by
  induction l generalizing s with
  | nil => simp
  | cons a l ih =>
    rw [foldl_cons, ih]
    by_cases h : k = a <;> simp [OrdMap.contains, OrdMap.get?_insert, h]

lemma OrdSet.contains_ofList {K : Type} [LinearOrder K] (k : K) (l : List K) :
    (OrdSet.ofList l).contains k = true ↔ k ∈ l := by
  rw [OrdSet.ofList, OrdSet.contains_foldl_insert]
  simp [OrdMap.contains]

lemma OrdSet.ofList_eq_iff {K : Type} [LinearOrder K] {l l' : List K} :
    OrdSet.ofList l = OrdSet.ofList l' ↔ ∀ k, k ∈ l ↔ k ∈ l' := by
  constructor
  · intro h k
    rw [← OrdSet.contains_ofList, h, OrdSet.contains_ofList]
  · intro h
    ext k : 1
    have hcontains : (OrdSet.ofList l).contains k = (OrdSet.ofList l').contains k := by
      rw [Bool.eq_iff_iff, OrdSet.contains_ofList, OrdSet.contains_ofList]
      exact h k
    -- Values carry no information.
    unfold OrdMap.contains at hcontains
    cases hk : (OrdSet.ofList l).get? k <;> cases hk' : (OrdSet.ofList l').get? k <;>
      simp [hk, hk'] at hcontains ⊢

lemma keys_map_unit {K : Type} [LinearOrder K] (s : OrdSet K) :
    s.keys.map (fun k => (k, ())) = s.entries := by
  rw [OrdMap.keys, List.map_map]
  exact List.map_id _

lemma entries_isEmpty_iff {K V : Type} [LinearOrder K] {map : OrdMap K V} :
    map.entries.isEmpty = true ↔ map = ∅ := by
  rw [List.isEmpty_iff]
  constructor
  · intro h
    cases map
    cases h
    rfl
  · rintro rfl
    rfl

/-- An insertion that keeps what is there. -/
lemma contains_firstInsert {K V : Type} [LinearOrder K] (m : OrdMap K V) (d d' : K) (v : V) :
    (if m.contains d then m else m.insert d v).contains d' = (m.contains d' || d' == d) := by
  split
  · next hd =>
    by_cases hsame : d' = d
    · subst hsame
      rw [hd]
      rfl
    · simp [hsame]
  · rw [contains_insert]
    by_cases hsame : d' = d <;> simp [hsame]

lemma get?_firstInsert {K V : Type} [LinearOrder K] {m : OrdMap K V} {d d' : K} {v w : V}
    (h : (if m.contains d then m else m.insert d v).get? d' = some w) :
    m.get? d' = some w ∨ (d' = d ∧ w = v) := by
  split at h
  · exact .inl h
  · rcases insert_cases h with ⟨hsame, hvalue⟩ | ⟨-, h⟩
    exacts [.inr ⟨hsame, hvalue.symm⟩, .inl h]

lemma nodup_of_length_ofList {K : Type} [LinearOrder K] {l : List K}
    (h : (OrdSet.ofList l).keys.length = l.length) : l.Nodup := by
  have hsub : (OrdSet.ofList l).keys ⊆ l := by
    intro k hk
    exact (OrdSet.contains_ofList k l).mp ((OrdMap.mem_keys_iff_contains _ _).mp hk)
  have hsubperm := List.subperm_of_subset (OrdSet.ofList l).nodup_keys hsub
  exact (hsubperm.perm_of_length_le (Nat.le_of_eq h.symm)).nodup (OrdSet.ofList l).nodup_keys

lemma insertionSort_eq_iff {α : Type} [LinearOrder α] (l l' : List α) :
    l.insertionSort (· ≤ ·) = l'.insertionSort (· ≤ ·) ↔ l.Perm l' := by
  constructor
  · intro h
    have hl : (l.insertionSort (· ≤ ·)).Perm l := List.perm_insertionSort _ l
    rw [h] at hl
    exact hl.symm.trans (List.perm_insertionSort _ l')
  · intro h
    have hperm : (l.insertionSort (· ≤ ·)).Perm (l'.insertionSort (· ≤ ·)) :=
      (List.perm_insertionSort _ l).trans (h.trans (List.perm_insertionSort _ l').symm)
    exact hperm.eq_of_pairwise (fun a b _ _ hab hba => le_antisymm hab hba)
      (List.pairwise_insertionSort _ l) (List.pairwise_insertionSort _ l')

end RoboGuide.Lib
