import Vibapp.Lib.Dict
import Vibapp.Lib.Json

/-!
# Objects whose members are sorted

What `json.loads` reads back from a text with sorted keys: sorting twice changes nothing, a lookup
gives the sorted value, and an assignment to a key that is there commutes with sorting.
-/

namespace Vibapp.Json

/-- `value[key] = item`. -/
def setMember (members : List (String × Json)) (key : String) (item : Json) :
    List (String × Json) :=
  if key ∈ members.map Prod.fst then
    members.map fun p => if p.1 = key then (key, item) else p
  else members ++ [(key, item)]

/-- The members of a sorted object. -/
def sorted (members : List (String × Json)) : List (String × Json) :=
  (sortMembers members).insertionSort fun p q => p.1 ≤ q.1

theorem sortKeys_obj (members : List (String × Json)) : sortKeys (.obj members) = .obj (sorted members) :=
  rfl

theorem sortMembers_eq_map (members : List (String × Json)) :
    sortMembers members = members.map fun p => (p.1, sortKeys p.2) := by
  induction members with
  | nil => rfl
  | cons p rest ih =>
    rw [sortMembers, ih]
    rfl

theorem sorted_perm (members : List (String × Json)) :
    (sorted members).Perm (members.map fun p => (p.1, sortKeys p.2)) := by
  rw [← sortMembers_eq_map]
  exact List.perm_insertionSort _ _

theorem keys_sorted_perm (members : List (String × Json)) :
    ((sorted members).map Prod.fst).Perm (members.map Prod.fst) := by
  refine ((sorted_perm members).map Prod.fst).trans (List.Perm.of_eq ?_)
  rw [List.map_map]
  rfl

theorem mem_keys_sorted {members : List (String × Json)} {key : String} :
    key ∈ (sorted members).map Prod.fst ↔ key ∈ members.map Prod.fst :=
  (keys_sorted_perm members).mem_iff

/-! ## Twice -/

/-- Sorting what is sorted. -/
theorem insertionSort_sorted {l : List (String × Json)} :
    (l.insertionSort fun p q => p.1 ≤ q.1).insertionSort (fun p q => p.1 ≤ q.1) =
      l.insertionSort fun p q => p.1 ≤ q.1 := by
  have : Std.Total fun p q : String × Json => p.1 ≤ q.1 := ⟨fun p q => le_total p.1 q.1⟩
  have : IsTrans (String × Json) fun p q => p.1 ≤ q.1 := ⟨fun _ _ _ => le_trans⟩
  exact (List.pairwise_insertionSort _ l).insertionSort_eq

theorem sortMembers_insertionSort (l : List (String × Json)) :
    sortMembers (l.insertionSort fun p q => p.1 ≤ q.1) =
      (sortMembers l).insertionSort fun p q => p.1 ≤ q.1 := by
  rw [sortMembers_eq_map, sortMembers_eq_map]
  exact List.map_insertionSort _ _ _ _ fun _ _ _ _ => Iff.rfl

mutual

theorem sortKeys_sortKeys : ∀ v : Json, sortKeys (sortKeys v) = sortKeys v
  | null | bool _ | int _ | float _ | str _ => rfl
  | arr xs => by rw [sortKeys, sortKeys, sortItems_sortItems xs]
  | obj ms => by
    rw [sortKeys, sortKeys, sortMembers_insertionSort, sortMembers_sortMembers ms,
      insertionSort_sorted]

theorem sortItems_sortItems : ∀ xs : List Json, sortItems (sortItems xs) = sortItems xs
  | [] => rfl
  | x :: xs => by rw [sortItems, sortItems, sortKeys_sortKeys x, sortItems_sortItems xs]

theorem sortMembers_sortMembers : ∀ ms : List (String × Json),
    sortMembers (sortMembers ms) = sortMembers ms
  | [] => rfl
  | (k, x) :: ms => by
    rw [sortMembers, sortMembers, sortKeys_sortKeys x, sortMembers_sortMembers ms]

end

theorem sorted_sorted (members : List (String × Json)) : sorted (sorted members) = sorted members :=
  Json.obj.inj (sortKeys_sortKeys (.obj members))

theorem dumps_sortKeys (v : Json) : dumps (sortKeys v) = dumps v :=
  dumps_eq_iff.2 (sortKeys_sortKeys v)

/-! ## Lookups and assignments -/

theorem lookup_of_perm {α : Type} {l m : List (String × α)} (h : l.Perm m)
    (hl : (l.map Prod.fst).Nodup) (key : String) : l.lookup key = m.lookup key := by
  have hm : (m.map Prod.fst).Nodup := (h.map Prod.fst).nodup_iff.1 hl
  cases hlookup : m.lookup key with
  | some v =>
    obtain ⟨_, _, heq, -⟩ := List.lookup_eq_some_iff.1 hlookup
    refine Dict.lookup_eq_some_of_mem hl (h.mem_iff.2 ?_)
    rw [heq]
    exact List.mem_append_right _ List.mem_cons_self
  | none =>
    rw [List.lookup_eq_none_iff] at hlookup ⊢
    exact fun p hp => hlookup p (h.mem_iff.1 hp)

theorem lookup_sorted {members : List (String × Json)} (h : (members.map Prod.fst).Nodup)
    (key : String) : (sorted members).lookup key = (members.lookup key).map sortKeys := by
  rw [lookup_of_perm (sorted_perm members) ((keys_sorted_perm members).nodup_iff.2 h)]
  induction members with
  | nil => rfl
  | cons p rest ih =>
    by_cases hkey : key = p.1
    · obtain ⟨k, v⟩ := p
      subst hkey
      simp
    · rw [List.map_cons, Dict.lookup_cons_of_ne hkey, Dict.lookup_cons_of_ne hkey]
      exact ih (List.nodup_cons.1 h).2

theorem setMember_of_mem {members : List (String × Json)} {key : String} (item : Json)
    (h : key ∈ members.map Prod.fst) :
    setMember members key item = members.map fun p => if p.1 = key then (key, item) else p :=
  if_pos h

theorem keys_setMember {members : List (String × Json)} {key : String} (item : Json)
    (h : key ∈ members.map Prod.fst) :
    (setMember members key item).map Prod.fst = members.map Prod.fst := by
  rw [setMember_of_mem item h, List.map_map]
  refine List.map_congr_left fun p _ => ?_
  by_cases hp : p.1 = key
  · simp [hp]
  · simp [hp]

theorem sorted_setMember {members : List (String × Json)} {key : String} (item : Json)
    (h : key ∈ members.map Prod.fst) :
    sorted (setMember members key item) = setMember (sorted members) key (sortKeys item) := by
  rw [setMember_of_mem item h, setMember_of_mem (sortKeys item) (mem_keys_sorted.2 h)]
  unfold sorted
  rw [List.map_insertionSort _ (fun p q => p.1 ≤ q.1)]
  · rw [sortMembers_eq_map, sortMembers_eq_map, List.map_map, List.map_map]
    congr 1
    refine List.map_congr_left fun p _ => ?_
    by_cases hp : p.1 = key
    · simp [hp]
    · simp [hp]
  · intro p _ q _
    by_cases hp : p.1 = key
    · by_cases hq : q.1 = key
      · simp [hp, hq]
      · simp [hp, hq]
    · by_cases hq : q.1 = key
      · simp [hp, hq]
      · simp [hp, hq]

/-- An assignment of what is there. -/
theorem setMember_self {members : List (String × Json)} {key : String} {item : Json}
    (hnodup : (members.map Prod.fst).Nodup) (h : members.lookup key = some item) :
    setMember members key item = members := by
  obtain ⟨_, _, heq, -⟩ := List.lookup_eq_some_iff.1 h
  have hmem : (key, item) ∈ members := by
    rw [heq]
    exact List.mem_append_right _ List.mem_cons_self
  rw [setMember_of_mem item (List.mem_map.2 ⟨_, hmem, rfl⟩)]
  refine (List.map_congr_left fun p hp => ?_).trans (List.map_id _)
  by_cases hkey : p.1 = key
  · rw [if_pos hkey]
    exact (List.inj_on_of_nodup_map hnodup hp hmem hkey).symm
  · rw [if_neg hkey]
    rfl

theorem lookup_setMember {members : List (String × Json)} {key : String} (item : Json)
    (h : key ∈ members.map Prod.fst) (key' : String) :
    (setMember members key item).lookup key' =
      if key' = key then some item else members.lookup key' := by
  rw [setMember_of_mem item h]
  induction members with
  | nil => cases h
  | cons p rest ih =>
    by_cases hp : p.1 = key
    · rw [List.map_cons, if_pos hp]
      by_cases hk : key' = key
      · simp [hk]
      · rw [if_neg hk, Dict.lookup_cons_of_ne hk, Dict.lookup_cons_of_ne (hp ▸ hk)]
        by_cases hrest : key ∈ rest.map Prod.fst
        · rw [ih hrest, if_neg hk]
        · congr 1
          refine (List.map_congr_left fun q hq => ?_).trans (List.map_id _)
          rw [if_neg fun heq => hrest (List.mem_map.2 ⟨q, hq, heq⟩)]
          rfl
    · rw [List.map_cons, if_neg hp]
      have hrest : key ∈ rest.map Prod.fst :=
        (List.mem_cons.1 h).resolve_left fun heq => hp heq.symm
      by_cases hk : key' = p.1
      · rw [if_neg (hk ▸ hp)]
        obtain ⟨k, v⟩ := p
        simp [hk]
      · rw [Dict.lookup_cons_of_ne hk, Dict.lookup_cons_of_ne hk, ih hrest]

end Vibapp.Json
