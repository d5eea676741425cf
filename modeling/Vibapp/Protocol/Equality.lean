import Vibapp.Protocol.Json
import Mathlib.Data.List.Perm.Subperm

/-!
# Equality of JSON values

The crate compares objects without regard to the order of their members: `objectEntriesEqual`
matches each entry of the left object with an entry of the right one that is still free. **Main
result** (`eq_iff_canonical`): on values whose objects have pairwise distinct keys at every depth,
two values are equal exactly when their canonical texts are.
-/

namespace Vibapp.Protocol

/-! ## The comparison -/

/-- `position` of the first entry that is not matched and satisfies `p`, and
`matched[index] = true`. -/
def markFirst {α : Type} (p : α → Bool) : List (α × Bool) → Option (List (α × Bool))
  | [] => none
  | (a, matched) :: rest =>
    if !matched && p a then some ((a, true) :: rest)
    else (markFirst p rest).map ((a, matched) :: ·)

mutual

/-- `==` of values. -/
def JsonValue.eq : JsonValue → JsonValue → Bool
  | .null, .null => true
  | .bool left, .bool right => left == right
  | .integer left, .integer right => left == right
  | .string left, .string right => left == right
  | .array left, .array right => valuesEqual left right
  | .object left, .object right =>
    -- `object_entries_equal`
    left.length == right.length && matchEntries left (right.map (·, false))
  | _, _ => false

/-- `==` of vectors. -/
def valuesEqual : List JsonValue → List JsonValue → Bool
  | [], [] => true
  | left :: lefts, right :: rights => left.eq right && valuesEqual lefts rights
  | _, _ => false

/-- The loop of `object_entries_equal` over the left entries. -/
def matchEntries : List (String × JsonValue) → List ((String × JsonValue) × Bool) → Bool
  | [], _ => true
  | (leftKey, leftValue) :: rest, right =>
    match markFirst (fun entry => leftKey == entry.1 && leftValue.eq entry.2) right with
    | none => false
    | some right => matchEntries rest right

end

mutual

/-- Every object of the value has pairwise distinct keys. -/
def JsonValue.DistinctKeys : JsonValue → Prop
  | .null | .bool _ | .integer _ | .string _ => True
  | .array values => valuesDistinct values
  | .object entries => (entries.map Prod.fst).Nodup ∧ entriesDistinct entries

def valuesDistinct : List JsonValue → Prop
  | [] => True
  | value :: rest => value.DistinctKeys ∧ valuesDistinct rest

def entriesDistinct : List (String × JsonValue) → Prop
  | [] => True
  | (_, value) :: rest => value.DistinctKeys ∧ entriesDistinct rest

end

/-! ## Matching -/

section Matching

variable {α : Type} {p : α → Bool}

theorem markFirst_eq_none {right : List (α × Bool)} :
    markFirst p right = none ↔ ∀ a, (a, false) ∈ right → p a = false := by
  induction right with
  | nil => simp [markFirst]
  | cons entry rest ih =>
    obtain ⟨a, matched⟩ := entry
    cases matched <;> cases hp : p a <;> simp [markFirst, hp, ih]

/-- Only an entry that satisfies `p` is marked. -/
theorem mem_of_markFirst {right right' : List (α × Bool)} (h : markFirst p right = some right')
    {a : α} (ha : p a = false) (matched : Bool) :
    (a, matched) ∈ right' ↔ (a, matched) ∈ right := by
  induction right generalizing right' with
  | nil => simp [markFirst] at h
  | cons entry rest ih =>
    obtain ⟨b, marked⟩ := entry
    by_cases hb : (!marked && p b) = true
    · have hne : a ≠ b := by
        intro hab
        rw [← hab, ha, Bool.and_false] at hb
        exact absurd hb (by simp)
      simp only [markFirst, hb, if_true, Option.some.injEq] at h
      simp [← h, hne]
    · simp only [markFirst, hb, Bool.false_eq_true, if_false, Option.map_eq_some_iff] at h
      obtain ⟨rest', hrest, heq⟩ := h
      rw [← heq, List.mem_cons, List.mem_cons, ih hrest]

end Matching

/-- With distinct keys on the left, no entry takes another's match. -/
theorem matchEntries_eq_true {left : List (String × JsonValue)}
    (hnodup : (left.map Prod.fst).Nodup) (right : List ((String × JsonValue) × Bool)) :
    matchEntries left right = true ↔
      ∀ e ∈ left, ∃ x, (x, false) ∈ right ∧ e.1 = x.1 ∧ e.2.eq x.2 = true := by
  induction left generalizing right with
  | nil => simp [matchEntries]
  | cons entry rest ih =>
    obtain ⟨key, value⟩ := entry
    rw [List.map_cons, List.nodup_cons] at hnodup
    have hmatch : (∃ x : String × JsonValue, (x, false) ∈ right ∧ key = x.1 ∧ value.eq x.2 = true) ↔
        markFirst (fun entry => key == entry.1 && value.eq entry.2) right ≠ none := by
      rw [ne_eq, markFirst_eq_none]
      simp
    rw [matchEntries, List.forall_mem_cons, hmatch]
    cases hmark : markFirst (fun entry => key == entry.1 && value.eq entry.2) right with
    | none => simp
    | some right' =>
      simp only [ne_eq, reduceCtorEq, not_false_eq_true, true_and]
      rw [ih hnodup.2]
      refine forall_congr' fun e => forall_congr' fun he => exists_congr fun x => ?_
      refine ⟨fun ⟨hx, hkey, heq⟩ => ⟨?_, hkey, heq⟩, fun ⟨hx, hkey, heq⟩ => ⟨?_, hkey, heq⟩⟩
      all_goals
        have hother : (key == x.1 && value.eq x.2) = false := by
          rw [Bool.and_eq_false_iff]
          refine Or.inl (beq_false_of_ne ?_)
          intro hsame
          exact hnodup.1 (hsame ▸ hkey ▸ List.mem_map_of_mem he)
      · exact (mem_of_markFirst hmark hother false).1 hx
      · exact (mem_of_markFirst hmark hother false).2 hx

/-! ## Equality and the sorted value -/

/-- The value with the entries of each object in the writer's order. -/
def JsonValue.canonicalTree (value : JsonValue) : Json := Json.sortedBy Utf16Sorted value.toJson

theorem toCanonicalJson_eq_iff {left right : JsonValue} :
    toCanonicalJson left = toCanonicalJson right ↔ left.canonicalTree = right.canonicalTree := by
  rw [toCanonicalJson, toCanonicalJson, String.ofList_inj, writeCanonical_eq, writeCanonical_eq]
  exact ⟨Json.chars_inj, fun h => congrArg Json.chars h⟩

/-- The sorted entries, before they are put in order. -/
theorem sortedByMembers_entriesToJson (entries : List (String × JsonValue)) :
    Json.sortedByMembers Utf16Sorted (entriesToJson entries) =
      entries.map fun e => (e.1, e.2.canonicalTree) := by
  rw [Json.sortedByMembers_eq_map, entriesToJson_eq_map, List.map_map]
  rfl

theorem canonicalTree_object (entries : List (String × JsonValue)) :
    (JsonValue.object entries).canonicalTree =
      .obj (sortByKey Utf16Sorted (entries.map fun e => (e.1, e.2.canonicalTree))) := by
  rw [JsonValue.canonicalTree, JsonValue.toJson, Json.sortedBy, sortedByMembers_entriesToJson]

theorem entriesDistinct_iff {entries : List (String × JsonValue)} :
    entriesDistinct entries ↔ ∀ e ∈ entries, e.2.DistinctKeys := by
  induction entries with
  | nil => simp [entriesDistinct]
  | cons entry rest ih =>
    obtain ⟨key, value⟩ := entry
    rw [entriesDistinct, ih, List.forall_mem_cons]

/-- Entries of distinct keys are permuted exactly when as many of them match. -/
theorem perm_entries_iff {β : Type} {left right : List (String × β)}
    (hleft : (left.map Prod.fst).Nodup) :
    left.Perm right ↔ left.length = right.length ∧ ∀ e ∈ left, e ∈ right := by
  constructor
  · exact fun h => ⟨h.length_eq, fun e he => h.subset he⟩
  · intro ⟨hlength, hsub⟩
    exact (List.subperm_of_subset hleft.of_map hsub).perm_of_length_le (by omega)

mutual

/-- Two values are equal exactly when they come out the same in the writer's order. -/
theorem eq_iff_canonicalTree : ∀ {left right : JsonValue}, left.DistinctKeys →
    right.DistinctKeys → (left.eq right = true ↔ left.canonicalTree = right.canonicalTree)
  | .null, right, _, _ => by
    cases right <;> simp [JsonValue.eq, JsonValue.canonicalTree, JsonValue.toJson, Json.sortedBy]
  | .bool _, right, _, _ => by
    cases right <;> simp [JsonValue.eq, JsonValue.canonicalTree, JsonValue.toJson, Json.sortedBy]
  | .integer _, right, _, _ => by
    cases right <;>
      simp [JsonValue.eq, JsonValue.canonicalTree, JsonValue.toJson, Json.sortedBy, Int64.toInt_inj]
  | .string _, right, _, _ => by
    cases right <;> simp [JsonValue.eq, JsonValue.canonicalTree, JsonValue.toJson, Json.sortedBy]
  | .array lefts, right, hl, hr => by
    cases right with
    | array rights =>
      rw [JsonValue.eq, valuesEqual_iff hl hr]
      simp [JsonValue.canonicalTree, JsonValue.toJson, Json.sortedBy]
    | _ => simp [JsonValue.eq, JsonValue.canonicalTree, JsonValue.toJson, Json.sortedBy]
  | .object lefts, right, hl, hr => by
    cases right with
    | object rights =>
      have hkeys : ((lefts.map fun e => (e.1, e.2.canonicalTree)).map Prod.fst).Nodup := by
        rw [List.map_map]
        exact hl.1
      rw [canonicalTree_object, canonicalTree_object, Json.obj.injEq, sortByKey_eq_iff_perm hkeys,
        perm_entries_iff hkeys, JsonValue.eq, Bool.and_eq_true, beq_iff_eq,
        matchEntries_eq_true hl.1, List.length_map, List.length_map, List.forall_mem_map]
      refine and_congr_right fun _ => forall_congr' fun e => forall_congr' fun he => ?_
      simp only [List.mem_map, Prod.mk.injEq, and_true, exists_eq_right]
      refine exists_congr fun x => and_congr_right fun hx => ?_
      rw [entryEqual_iff hl.2 e he (entriesDistinct_iff.1 hr.2 x hx), eq_comm,
        eq_comm (a := e.2.canonicalTree)]
    | _ => simp [JsonValue.eq, JsonValue.canonicalTree, JsonValue.toJson, Json.sortedBy]

theorem valuesEqual_iff : ∀ {lefts rights : List JsonValue}, valuesDistinct lefts →
    valuesDistinct rights → (valuesEqual lefts rights = true ↔
      Json.sortedByItems Utf16Sorted (valuesToJson lefts) =
        Json.sortedByItems Utf16Sorted (valuesToJson rights))
  | [], rights, _, _ => by
    cases rights <;> simp [valuesEqual, valuesToJson, Json.sortedByItems]
  | left :: lefts, rights, hl, hr => by
    cases rights with
    | nil => simp [valuesEqual, valuesToJson, Json.sortedByItems]
    | cons right rights =>
      rw [valuesEqual, Bool.and_eq_true, eq_iff_canonicalTree hl.1 hr.1,
        valuesEqual_iff hl.2 hr.2]
      simp [valuesToJson, Json.sortedByItems, JsonValue.canonicalTree]

theorem entryEqual_iff : ∀ {lefts : List (String × JsonValue)}, entriesDistinct lefts →
    ∀ e ∈ lefts, ∀ {right : JsonValue}, right.DistinctKeys →
      (e.2.eq right = true ↔ e.2.canonicalTree = right.canonicalTree)
  | (key, value) :: lefts, hl, e, he, right, hr => by
    rcases List.mem_cons.1 he with h | h
    · rw [h]
      exact eq_iff_canonicalTree hl.1 hr
    · exact entryEqual_iff hl.2 e h hr

end

/-- **Canonical form decides equality**, on values whose objects have distinct keys at every depth;
there equality is an equivalence relation. -/
theorem eq_iff_canonical :
    (∀ left right : JsonValue, left.DistinctKeys → right.DistinctKeys →
      (left.eq right = true ↔ toCanonicalJson left = toCanonicalJson right)) ∧
    Equivalence fun left right : { value : JsonValue // value.DistinctKeys } =>
      left.1.eq right.1 = true := by
  have hiff : ∀ left right : JsonValue, left.DistinctKeys → right.DistinctKeys →
      (left.eq right = true ↔ toCanonicalJson left = toCanonicalJson right) := by
    intro left right hl hr
    rw [eq_iff_canonicalTree hl hr, toCanonicalJson_eq_iff]
  refine ⟨hiff, ⟨fun v => ?_, fun {v w} h => ?_, fun {u v w} h h' => ?_⟩⟩
  · exact (hiff v.1 v.1 v.2 v.2).2 rfl
  · exact (hiff w.1 v.1 w.2 v.2).2 ((hiff v.1 w.1 v.2 w.2).1 h).symm
  · refine (hiff u.1 w.1 u.2 w.2).2 ?_
    exact ((hiff u.1 v.1 u.2 v.2).1 h).trans ((hiff v.1 w.1 v.2 w.2).1 h')

/-- Members in another order. -/
theorem eq_iff_canonical_sample :
    (JsonValue.object [("b", .null), ("a", .bool true)]).eq
        (.object [("a", .bool true), ("b", .null)]) = true ↔
      toCanonicalJson (.object [("b", .null), ("a", .bool true)]) =
        toCanonicalJson (.object [("a", .bool true), ("b", .null)]) :=
  eq_iff_canonical.1 _ _ ⟨by decide, trivial, trivial, trivial⟩ ⟨by decide, trivial, trivial, trivial⟩

end Vibapp.Protocol
