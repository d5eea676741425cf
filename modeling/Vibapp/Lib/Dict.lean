import Mathlib.Data.List.Nodup
import Mathlib.Data.List.Count

/-!
# Insertion-ordered dictionaries

A Python `dict`: entries in insertion order, each key once. Assigning to a present key keeps
its place, assigning to a new key appends. The one fact every caller uses is `get?_set`; the
rest says how the operations act on the entries as a list, which is what the bounds on the
number of rows and the sums over `values()` need.
-/

namespace Vibapp

universe u v w

variable {κ : Type u} {ν : Type v} {μ : Type w}

/-- Entries in insertion order, with pairwise distinct keys. -/
structure Dict (κ : Type u) (ν : Type v) where
  entries : List (κ × ν)
  nodup : (entries.map Prod.fst).Nodup

namespace Dict

@[ext] theorem ext {d e : Dict κ ν} (h : d.entries = e.entries) : d = e := by
  cases d; cases e; cases h; rfl

instance [DecidableEq κ] [DecidableEq ν] : DecidableEq (Dict κ ν) := fun d e =>
  decidable_of_iff (d.entries = e.entries) ⟨ext, fun h => h ▸ rfl⟩

/-- `d.keys()`, in insertion order. -/
def keys (d : Dict κ ν) : List κ := d.entries.map Prod.fst

/-- `d.values()`, in insertion order. -/
def values (d : Dict κ ν) : List ν := d.entries.map Prod.snd

/-- `len(d)`. -/
def size (d : Dict κ ν) : Nat := d.entries.length

theorem size_eq_length_keys (d : Dict κ ν) : d.size = d.keys.length := by
  simp [size, keys]

/-- `{k: f(k, v) for k, v in d.items()}`: every value replaced, no key added or moved. -/
def mapVals (f : κ → ν → μ) (d : Dict κ ν) : Dict κ μ :=
  ⟨d.entries.map fun p => (p.1, f p.1 p.2), by
    rw [List.map_map]
    exact d.nodup⟩

@[simp] theorem size_mapVals (f : κ → ν → μ) (d : Dict κ ν) : (d.mapVals f).size = d.size := by
  simp [size, mapVals]

@[simp] theorem keys_mapVals (f : κ → ν → μ) (d : Dict κ ν) : (d.mapVals f).keys = d.keys := by
  simp [keys, mapVals, List.map_map, Function.comp_def]

theorem mapVals_mapVals {ξ : Type*} (f : κ → ν → μ) (g : κ → μ → ξ) (d : Dict κ ν) :
    (d.mapVals f).mapVals g = d.mapVals fun k v => g k (f k v) := by
  refine ext ?_
  simp [mapVals]

theorem values_mapVals (f : ν → μ) (d : Dict κ ν) : (d.mapVals fun _ => f).values = d.values.map f := by
  simp [values, mapVals]

/-- `{}`. -/
def empty : Dict κ ν := ⟨[], List.nodup_nil⟩

instance : EmptyCollection (Dict κ ν) := ⟨empty⟩

variable [DecidableEq κ]

/-- `d.get(k)`. -/
def get? (d : Dict κ ν) (k : κ) : Option ν := d.entries.lookup k

/-- `k in d`. -/
def contains (d : Dict κ ν) (k : κ) : Bool := (d.get? k).isSome

/-- Overwrite the first entry under `k`, or append one. -/
def setEntries (k : κ) (v : ν) : List (κ × ν) → List (κ × ν)
  | [] => [(k, v)]
  | p :: rest => if p.1 = k then (k, v) :: rest else p :: setEntries k v rest

theorem map_fst_setEntries (k : κ) (v : ν) (l : List (κ × ν)) :
    (setEntries k v l).map Prod.fst =
      if k ∈ l.map Prod.fst then l.map Prod.fst else l.map Prod.fst ++ [k] := by
  induction l with
  | nil => simp [setEntries]
  | cons p rest ih =>
    by_cases hp : p.1 = k
    · simp [setEntries, hp]
    · rw [setEntries, if_neg hp, List.map_cons, ih]
      by_cases hk : k ∈ rest.map Prod.fst
      · rw [if_pos hk, if_pos (by simp only [List.map_cons, List.mem_cons]; exact Or.inr hk)]
        rfl
      · rw [if_neg hk, if_neg]
        · rfl
        · simp only [List.map_cons, List.mem_cons, not_or]
          exact ⟨Ne.symm hp, hk⟩

theorem nodup_setEntries (k : κ) (v : ν) {l : List (κ × ν)} (h : (l.map Prod.fst).Nodup) :
    ((setEntries k v l).map Prod.fst).Nodup := by
  rw [map_fst_setEntries]
  split
  · exact h
  · rename_i hk
    exact List.nodup_append.2 ⟨h, List.nodup_singleton k, fun a ha b hb hab =>
      hk (by rw [List.mem_singleton.1 hb] at hab; exact hab ▸ ha)⟩

/-- `d[k] = v`. -/
def set (d : Dict κ ν) (k : κ) (v : ν) : Dict κ ν :=
  ⟨setEntries k v d.entries, nodup_setEntries k v d.nodup⟩

/-! ## Lookup -/

theorem lookup_cons_of_ne {k a : κ} (h : k ≠ a) (b : ν) (rest : List (κ × ν)) :
    ((a, b) :: rest).lookup k = rest.lookup k := by
  rw [List.lookup_cons, beq_false_of_ne h]

theorem lookup_setEntries (k k' : κ) (v : ν) (l : List (κ × ν)) :
    (setEntries k v l).lookup k' = if k' = k then some v else l.lookup k' := by
  induction l with
  | nil =>
    by_cases h : k' = k
    · simp [setEntries, h]
    · rw [setEntries, lookup_cons_of_ne h, if_neg h]
  | cons p rest ih =>
    obtain ⟨a, b⟩ := p
    by_cases ha : a = k
    · subst ha
      by_cases h : k' = a
      · simp [setEntries, h]
      · rw [setEntries, if_pos rfl, lookup_cons_of_ne h, lookup_cons_of_ne h, if_neg h]
    · rw [setEntries, if_neg ha]
      by_cases h : k' = a
      · subst h
        simp [ha]
      · rw [lookup_cons_of_ne h, lookup_cons_of_ne h, ih]

theorem get?_set (d : Dict κ ν) (k k' : κ) (v : ν) :
    (d.set k v).get? k' = if k' = k then some v else d.get? k' :=
  lookup_setEntries k k' v d.entries

@[simp] theorem get?_set_self (d : Dict κ ν) (k : κ) (v : ν) : (d.set k v).get? k = some v := by
  rw [get?_set, if_pos rfl]

theorem get?_set_ne (d : Dict κ ν) {k k' : κ} (h : k' ≠ k) (v : ν) :
    (d.set k v).get? k' = d.get? k' := by
  rw [get?_set, if_neg h]

@[simp] theorem get?_empty (k : κ) : (∅ : Dict κ ν).get? k = none := rfl

@[simp] theorem get?_mapVals (f : κ → ν → μ) (d : Dict κ ν) (k : κ) :
    (d.mapVals f).get? k = (d.get? k).map (f k) := by
  show (d.entries.map fun p => (p.1, f p.1 p.2)).lookup k = (d.entries.lookup k).map (f k)
  induction d.entries with
  | nil => rfl
  | cons p rest ih =>
    obtain ⟨a, b⟩ := p
    by_cases h : k = a
    · subst h; simp
    · rw [List.map_cons, lookup_cons_of_ne h, lookup_cons_of_ne h, ih]

theorem lookup_eq_some_of_mem {l : List (κ × ν)} (h : (l.map Prod.fst).Nodup) {k : κ} {v : ν}
    (hm : (k, v) ∈ l) : l.lookup k = some v := by
  induction l with
  | nil => simp at hm
  | cons p rest ih =>
    obtain ⟨a, b⟩ := p
    simp only [List.map_cons, List.nodup_cons] at h
    rcases List.mem_cons.1 hm with hm | hm
    · cases hm; simp
    · have hne : k ≠ a := fun he => h.1 (he ▸ List.mem_map.2 ⟨(k, v), hm, rfl⟩)
      rw [lookup_cons_of_ne hne, ih h.2 hm]

theorem mem_entries_iff {d : Dict κ ν} {k : κ} {v : ν} :
    (k, v) ∈ d.entries ↔ d.get? k = some v := by
  refine ⟨lookup_eq_some_of_mem d.nodup, fun h => ?_⟩
  obtain ⟨l₁, l₂, hl, -⟩ := List.lookup_eq_some_iff.1 h
  rw [hl]
  exact List.mem_append_right _ List.mem_cons_self

theorem mem_keys_iff {d : Dict κ ν} {k : κ} : k ∈ d.keys ↔ ∃ v, d.get? k = some v := by
  constructor
  · intro h
    obtain ⟨p, hp, rfl⟩ := List.mem_map.1 h
    exact ⟨p.2, mem_entries_iff.1 hp⟩
  · rintro ⟨v, hv⟩
    exact List.mem_map.2 ⟨(k, v), mem_entries_iff.2 hv, rfl⟩

theorem not_mem_keys_iff {d : Dict κ ν} {k : κ} : k ∉ d.keys ↔ d.get? k = none := by
  rw [mem_keys_iff]
  cases d.get? k <;> simp

theorem mem_values_iff {d : Dict κ ν} {v : ν} : v ∈ d.values ↔ ∃ k, d.get? k = some v := by
  constructor
  · intro h
    obtain ⟨p, hp, rfl⟩ := List.mem_map.1 h
    exact ⟨p.1, mem_entries_iff.1 hp⟩
  · rintro ⟨k, hk⟩
    exact List.mem_map.2 ⟨(k, v), mem_entries_iff.2 hk, rfl⟩

@[simp] theorem contains_eq_true_iff {d : Dict κ ν} {k : κ} :
    d.contains k = true ↔ ∃ v, d.get? k = some v := by
  rw [contains, Option.isSome_iff_exists]

@[simp] theorem contains_eq_false_iff {d : Dict κ ν} {k : κ} :
    d.contains k = false ↔ d.get? k = none := by
  rw [contains, Option.isSome_eq_false_iff, Option.isNone_iff_eq_none]

/-! ## Properties of all entries -/

/-- Every entry satisfies `P`. -/
def All (P : κ → ν → Prop) (d : Dict κ ν) : Prop := ∀ ⦃k v⦄, d.get? k = some v → P k v

section

variable {P : κ → ν → Prop} {d : Dict κ ν}

theorem all_empty : (∅ : Dict κ ν).All P := fun _ _ h => absurd h (by simp)

theorem All.set (h : d.All P) {k : κ} {v : ν} (hv : P k v) : (d.set k v).All P := by
  intro k' v' h'
  rw [get?_set] at h'
  split at h'
  · rename_i hk
    cases h'
    exact hk ▸ hv
  · exact h h'

theorem All.mapVals {f : κ → ν → ν} (h : d.All P) (hf : ∀ k v, P k v → P k (f k v)) :
    (d.mapVals f).All P := by
  intro k v' h'
  rw [get?_mapVals, Option.map_eq_some_iff] at h'
  obtain ⟨v, hv, rfl⟩ := h'
  exact hf k v (h hv)

theorem All.mono {Q : κ → ν → Prop} (h : d.All P) (hPQ : ∀ k v, P k v → Q k v) : d.All Q :=
  fun k v hv => hPQ k v (h hv)

end

/-! ## Growth -/

/-- No key goes away, and every value changes along `R`. -/
def Le (R : ν → ν → Prop) (d d' : Dict κ ν) : Prop :=
  ∀ ⦃k v⦄, d.get? k = some v → ∃ v', d'.get? k = some v' ∧ R v v'

section

variable {R : ν → ν → Prop} {d : Dict κ ν}

theorem Le.refl (hR : ∀ v, R v v) (d : Dict κ ν) : d.Le R d := fun _ v h => ⟨v, h, hR v⟩

theorem Le.trans (hR : ∀ {u v w}, R u v → R v w → R u w) {d₁ d₂ d₃ : Dict κ ν} (h₁ : d₁.Le R d₂)
    (h₂ : d₂.Le R d₃) : d₁.Le R d₃ := fun k v hv => by
  obtain ⟨v', hv', hR₁⟩ := h₁ hv
  obtain ⟨v'', hv'', hR₂⟩ := h₂ hv'
  exact ⟨v'', hv'', hR hR₁ hR₂⟩

theorem le_set (hR : ∀ v, R v v) {k : κ} {v : ν} (h : ∀ v₀, d.get? k = some v₀ → R v₀ v) :
    d.Le R (d.set k v) := by
  intro k' v' h'
  rw [get?_set]
  split
  · rename_i hk
    exact ⟨v, rfl, h v' (hk ▸ h')⟩
  · exact ⟨v', h', hR v'⟩

theorem le_set_of_new (hR : ∀ v, R v v) {k : κ} (h : d.get? k = none) (v : ν) :
    d.Le R (d.set k v) :=
  le_set hR fun _ h₀ => absurd (h.symm.trans h₀) (by simp)

theorem le_set_of_some (hR : ∀ v, R v v) {k : κ} {v₀ v : ν} (h : d.get? k = some v₀) (hv : R v₀ v) :
    d.Le R (d.set k v) :=
  le_set hR fun _ h₀ => Option.some.inj (h.symm.trans h₀) ▸ hv

theorem le_mapVals {f : κ → ν → ν} (hf : ∀ k v, R v (f k v)) : d.Le R (d.mapVals f) := by
  intro k v h
  exact ⟨f k v, by rw [get?_mapVals, h]; rfl, hf k v⟩

end

/-! ## Entries -/

theorem entries_set_of_new {d : Dict κ ν} {k : κ} (h : d.get? k = none) (v : ν) :
    (d.set k v).entries = d.entries ++ [(k, v)] := by
  have hk : k ∉ d.entries.map Prod.fst := not_mem_keys_iff.2 h
  show setEntries k v d.entries = _
  generalize d.entries = l at hk
  induction l with
  | nil => rfl
  | cons p rest ih =>
    simp only [List.map_cons, List.mem_cons, not_or] at hk
    rw [setEntries, if_neg (Ne.symm hk.1), ih hk.2, List.cons_append]

theorem values_set_of_new {d : Dict κ ν} {k : κ} (h : d.get? k = none) (v : ν) :
    (d.set k v).values = d.values ++ [v] := by
  simp [values, entries_set_of_new h]

theorem keys_set (d : Dict κ ν) (k : κ) (v : ν) :
    (d.set k v).keys = if k ∈ d.keys then d.keys else d.keys ++ [k] :=
  map_fst_setEntries k v d.entries

theorem size_set (d : Dict κ ν) (k : κ) (v : ν) :
    (d.set k v).size = if d.contains k then d.size else d.size + 1 := by
  rw [size_eq_length_keys, keys_set, size_eq_length_keys d]
  by_cases hk : k ∈ d.keys
  · rw [if_pos hk, if_pos (contains_eq_true_iff.2 (mem_keys_iff.1 hk))]
  · rw [if_neg hk, if_neg (by rw [Bool.not_eq_true, contains_eq_false_iff]; exact not_mem_keys_iff.1 hk)]
    simp

/-- Overwriting a present entry replaces it in place. -/
theorem entries_set_of_mem {d : Dict κ ν} {k : κ} {v₀ : ν} (h : d.get? k = some v₀) :
    ∃ l₁ l₂, d.entries = l₁ ++ (k, v₀) :: l₂ ∧ ∀ v, (d.set k v).entries = l₁ ++ (k, v) :: l₂ := by
  obtain ⟨l₁, l₂, hl, hne⟩ := List.lookup_eq_some_iff.1 h
  refine ⟨l₁, l₂, hl, fun v => ?_⟩
  show setEntries k v d.entries = _
  rw [hl]
  clear hl
  induction l₁ with
  | nil => simp [setEntries]
  | cons p rest ih =>
    have hp : p.1 ≠ k := fun he => by simpa [he] using hne p List.mem_cons_self
    rw [List.cons_append, setEntries, if_neg hp, ih fun q hq => hne q (List.mem_cons_of_mem _ hq),
      List.cons_append]

/-- Assigning the value that is there changes nothing. -/
theorem set_eq_self {d : Dict κ ν} {k : κ} {v : ν} (h : d.get? k = some v) : d.set k v = d := by
  obtain ⟨l₁, l₂, hl, hset⟩ := entries_set_of_mem h
  exact ext (by rw [hset, hl])

/-- Of two assignments to a key the second one counts. -/
@[simp] theorem set_set (d : Dict κ ν) (k : κ) (v w : ν) : (d.set k v).set k w = d.set k w := by
  refine ext ?_
  show setEntries k w (setEntries k v d.entries) = setEntries k w d.entries
  induction d.entries with
  | nil => simp [setEntries]
  | cons p rest ih =>
    by_cases hp : p.1 = k
    · simp [setEntries, hp]
    · simp only [setEntries, if_neg hp, ih]

theorem mapVals_set (f : κ → ν → μ) (d : Dict κ ν) (k : κ) (v : ν) :
    (d.set k v).mapVals f = (d.mapVals f).set k (f k v) := by
  refine ext ?_
  show (setEntries k v d.entries).map _ = setEntries k (f k v) (d.entries.map _)
  induction d.entries with
  | nil => rfl
  | cons p rest ih =>
    by_cases hp : p.1 = k
    · simp [setEntries, hp]
    · simp only [setEntries, if_neg hp, List.map_cons, ih]

/-- Overwriting an entry by one the predicate treats alike keeps the filtered values' image. -/
theorem filterMap_values_set {d : Dict κ ν} {k : κ} {v₀ v : ν} (h : d.get? k = some v₀)
    {α : Type*} (f : ν → Option α) (hf : f v = f v₀) :
    (d.set k v).values.filterMap f = d.values.filterMap f := by
  obtain ⟨l₁, l₂, hl, hset⟩ := entries_set_of_mem h
  simp [values, hset v, hl, List.filterMap_append, List.filterMap_cons, hf]

/-! ## Removal -/

/-- `d.pop(k, None)`. -/
def erase (d : Dict κ ν) (k : κ) : Dict κ ν where
  entries := d.entries.filter fun p => p.1 ≠ k
  nodup := d.nodup.sublist (List.filter_sublist.map Prod.fst)

theorem lookup_filter_ne (k k' : κ) (l : List (κ × ν)) :
    (l.filter fun p => p.1 ≠ k).lookup k' = if k' = k then none else l.lookup k' := by
  induction l with
  | nil => simp
  | cons p rest ih =>
    obtain ⟨a, b⟩ := p
    by_cases ha : a = k
    · rw [List.filter_cons_of_neg (by simp [ha]), ih]
      by_cases hk : k' = k
      · rw [if_pos hk, if_pos hk]
      · rw [if_neg hk, if_neg hk, lookup_cons_of_ne (by rw [ha]; exact hk)]
    · rw [List.filter_cons_of_pos (by simp [ha])]
      by_cases hk' : k' = a
      · have hk : k' ≠ k := by rw [hk']; exact ha
        rw [hk', List.lookup_cons_self, List.lookup_cons_self, if_neg ha]
      · rw [lookup_cons_of_ne hk', lookup_cons_of_ne hk', ih]

theorem get?_erase (d : Dict κ ν) (k k' : κ) :
    (d.erase k).get? k' = if k' = k then none else d.get? k' :=
  lookup_filter_ne k k' d.entries

@[simp] theorem get?_erase_self (d : Dict κ ν) (k : κ) : (d.erase k).get? k = none := by
  rw [get?_erase, if_pos rfl]

theorem get?_erase_ne (d : Dict κ ν) {k k' : κ} (h : k' ≠ k) : (d.erase k).get? k' = d.get? k' := by
  rw [get?_erase, if_neg h]

theorem size_erase_le (d : Dict κ ν) (k : κ) : (d.erase k).size ≤ d.size :=
  List.length_filter_le _ _

/-- Nothing is found in an empty dictionary, and only there. -/
theorem size_eq_zero_iff {d : Dict κ ν} : d.size = 0 ↔ ∀ k, d.get? k = none := by
  rw [size_eq_length_keys, List.length_eq_zero_iff, List.eq_nil_iff_forall_not_mem]
  exact forall_congr' fun k => not_mem_keys_iff

end Dict

end Vibapp
