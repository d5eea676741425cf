import Vibapp.Lib.KeyOrder

/-!
# Canonical JSON of the protocol crate

`JsonValue` and its writer `toCanonicalJson`, which sorts the entries of an object by the UTF-16
code units of their keys. **Main result** (`writeCanonical_eq`): the text is that of the value
sorted by code units, so the writer differs from any other canonical form of JSON by the order
of keys alone.
-/

namespace Vibapp.Protocol

/-- A JSON value. Objects retain their input order; canonical serialization sorts keys. -/
inductive JsonValue
  | null
  | bool (value : Bool)
  | integer (value : Int64)
  | string (value : String)
  | array (values : List JsonValue)
  | object (entries : List (String × JsonValue))

/-! ## The writer -/

/-- `left.encode_utf16().cmp(right.encode_utf16())`. -/
def utf16Cmp (left right : String) : Ordering :=
  compare (encodeUtf16 left.toList) (encodeUtf16 right.toList)

/-- `left` may stand before `right` after `sort_by`. -/
def Utf16Sorted (left right : String) : Prop := utf16Cmp left right ≠ .gt

instance (left right : String) : Decidable (Utf16Sorted left right) :=
  inferInstanceAs (Decidable (_ ≠ _))

/-- `{:04x}`. -/
def hex04 (n : Nat) : List Char :=
  List.replicate (4 - (Nat.toDigits 16 n).length) '0' ++ Nat.toDigits 16 n

/-- One character of `write_string`. -/
def writeChar (character : Char) : List Char :=
  if character = '"' then ['\\', '"']
  else if character = '\\' then ['\\', '\\']
  else if character.toNat = 0x08 then ['\\', 'b']
  else if character.toNat = 0x09 then ['\\', 't']
  else if character.toNat = 0x0a then ['\\', 'n']
  else if character.toNat = 0x0c then ['\\', 'f']
  else if character.toNat = 0x0d then ['\\', 'r']
  else if character.toNat ≤ 0x1f then '\\' :: 'u' :: hex04 character.toNat
  else [character]

/-- `write_string`. -/
def writeString (value : String) : List Char :=
  '"' :: (value.toList.flatMap writeChar ++ ['"'])

/-- The loop of an array or an object: a comma before every part but the first. -/
def commaSeparated : List (List Char) → List Char
  | [] => []
  | [part] => part
  | part :: rest => part ++ ',' :: commaSeparated rest

mutual

/-- `write_canonical`. -/
def writeCanonical : JsonValue → List Char
  | .null => "null".toList
  | .bool true => "true".toList
  | .bool false => "false".toList
  | .integer value => (toString value.toInt).toList
  | .string value => writeString value
  | .array values => '[' :: (commaSeparated (writeValues values) ++ [']'])
  | .object entries =>
    -- the source sorts the entries and then writes each; their keys alone decide the order
    let sorted := sortByKey Utf16Sorted (writeEntries entries)
    '{' :: (commaSeparated (sorted.map fun entry => writeString entry.1 ++ ':' :: entry.2) ++ ['}'])

/-- The text of each item. -/
def writeValues : List JsonValue → List (List Char)
  | [] => []
  | value :: rest => writeCanonical value :: writeValues rest

/-- The text of each entry's value beside its key. -/
def writeEntries : List (String × JsonValue) → List (String × List Char)
  | [] => []
  | (key, value) :: rest => (key, writeCanonical value) :: writeEntries rest

end

/-- `to_canonical_json`. -/
def toCanonicalJson (value : JsonValue) : String := String.ofList (writeCanonical value)

/-! ## The same value as a Python object -/

mutual

/-- The value as `json.loads` would hold it. -/
def JsonValue.toJson : JsonValue → Json
  | .null => .null
  | .bool value => .bool value
  | .integer value => .int value.toInt
  | .string value => .str value
  | .array values => .arr (valuesToJson values)
  | .object entries => .obj (entriesToJson entries)

def valuesToJson : List JsonValue → List Json
  | [] => []
  | value :: rest => value.toJson :: valuesToJson rest

def entriesToJson : List (String × JsonValue) → List (String × Json)
  | [] => []
  | (key, value) :: rest => (key, value.toJson) :: entriesToJson rest

end

mutual

/-- Some object of the value has two keys that first differ in a character from U+E000 to
U+FFFF against one above U+FFFF. -/
def JsonValue.HasAstrayKeys : JsonValue → Prop
  | .null | .bool _ | .integer _ | .string _ => False
  | .array values => anyHasAstrayKeys values
  | .object entries =>
    (∃ k ∈ entries.map Prod.fst, ∃ l ∈ entries.map Prod.fst, Astray k.toList l.toList) ∨
      anyEntryHasAstrayKeys entries

def anyHasAstrayKeys : List JsonValue → Prop
  | [] => False
  | value :: rest => value.HasAstrayKeys ∨ anyHasAstrayKeys rest

def anyEntryHasAstrayKeys : List (String × JsonValue) → Prop
  | [] => False
  | (_, value) :: rest => value.HasAstrayKeys ∨ anyEntryHasAstrayKeys rest

end

/-! ## The writer's text is that of a sorted value -/

theorem utf16Sorted_iff (left right : String) :
    Utf16Sorted left right ↔ utf16Le left.toList right.toList := by
  unfold Utf16Sorted utf16Le utf16Cmp
  cases compare (encodeUtf16 left.toList) (encodeUtf16 right.toList) <;> simp

instance : Std.Total Utf16Sorted where
  total left right := by
    rw [utf16Sorted_iff, utf16Sorted_iff]
    exact Std.Total.total _ _

instance : IsTrans String Utf16Sorted where
  trans left mid right := by
    rw [utf16Sorted_iff, utf16Sorted_iff, utf16Sorted_iff]
    exact IsTrans.trans _ _ _

instance : Std.Antisymm Utf16Sorted where
  antisymm left right hlr hrl := by
    rw [utf16Sorted_iff] at hlr hrl
    exact String.toList_injective (Std.Antisymm.antisymm _ _ hlr hrl)

theorem hex04_of_lt {n : Nat} (h : n < 32) :
    hex04 n = ['0', '0', Json.hexDigit (n / 16), Json.hexDigit (n % 16)] := by
  have key : ∀ a < 32, hex04 a = ['0', '0', Json.hexDigit (a / 16), Json.hexDigit (a % 16)] := by
    decide
  exact key n h

/-- Both sides escape the same characters in the same way. -/
theorem writeChar_eq_escape (c : Char) : writeChar c = Json.escape c := by
  have hchar : ∀ d : Char, c = d ↔ c.toNat = d.toNat := fun d => Char.toNat_inj.symm
  have hn : '\n'.toNat = 0x0a := rfl
  have hr : '\r'.toNat = 0x0d := rfl
  have ht : '\t'.toNat = 0x09 := rfl
  unfold writeChar Json.escape
  simp only [hchar '\n', hchar '\r', hchar '\t', hn, hr, ht]
  split_ifs
  any_goals first | rfl | omega
  rw [hex04_of_lt (by omega)]

theorem writeString_eq_quote (value : String) : writeString value = Json.quote value := by
  have htail : ∀ cs : List Char, cs.flatMap writeChar ++ ['"'] = Json.quoteTail cs := fun cs => by
    induction cs with
    | nil => rfl
    | cons c cs ih =>
      rw [List.flatMap_cons, List.append_assoc, ih, writeChar_eq_escape, Json.quoteTail]
  rw [writeString, htail, Json.quote]

theorem toString_int (n : Int) : (toString n).toList = Json.intChars n := by
  cases n with
  | ofNat n => exact String.toList_ofList
  | negSucc n =>
    have h : toString (Int.negSucc n) = "-" ++ toString (n + 1) := rfl
    rw [h, String.toList_append]
    exact congrArg ('-' :: ·) String.toList_ofList

/-- The parts of an array's text. -/
theorem commaSeparated_items (x : Json) (xs : List Json) :
    commaSeparated ((x :: xs).map Json.chars) ++ [']'] = Json.chars x ++ Json.itemsTail xs := by
  induction xs generalizing x with
  | nil => rfl
  | cons y xs ih =>
    rw [List.map_cons, List.map_cons, commaSeparated, ← List.map_cons, List.append_assoc,
      List.cons_append, ih, Json.itemsTail]
    exact fun h => by simp at h

/-- The text of a member. -/
def memberChars (p : String × Json) : List Char := Json.quote p.1 ++ ':' :: Json.chars p.2

theorem commaSeparated_members (p : String × Json) (ps : List (String × Json)) :
    commaSeparated ((p :: ps).map memberChars) ++ ['}'] = memberChars p ++ Json.membersTail ps := by
  induction ps generalizing p with
  | nil => rfl
  | cons q ps ih =>
    rw [List.map_cons, List.map_cons, commaSeparated, ← List.map_cons, List.append_assoc,
      List.cons_append, ih, Json.membersTail, memberChars, memberChars]
    · simp
    · exact fun h => by simp at h

theorem chars_arr (xs : List Json) :
    Json.chars (.arr xs) = '[' :: (commaSeparated (xs.map Json.chars) ++ [']']) := by
  cases xs with
  | nil => rfl
  | cons x xs => rw [Json.chars, commaSeparated_items]

theorem chars_obj (ms : List (String × Json)) :
    Json.chars (.obj ms) = '{' :: (commaSeparated (ms.map memberChars) ++ ['}']) := by
  cases ms with
  | nil => rfl
  | cons p ms =>
    rw [commaSeparated_members, memberChars, Json.chars]
    simp

mutual

/-- **The writer writes the value sorted by code units.** -/
theorem writeCanonical_eq : ∀ value : JsonValue,
    writeCanonical value = Json.chars (Json.sortedBy Utf16Sorted value.toJson)
  | .null => rfl
  | .bool true => rfl
  | .bool false => rfl
  | .integer value => toString_int value.toInt
  | .string value => writeString_eq_quote value
  | .array values => by
    rw [writeCanonical, JsonValue.toJson, Json.sortedBy, chars_arr, writeValues_eq values]
  | .object entries => by
    have hmap : (sortByKey Utf16Sorted (writeEntries entries)).map
          (fun entry => writeString entry.1 ++ ':' :: entry.2) =
        (sortByKey Utf16Sorted (Json.sortedByMembers Utf16Sorted (entriesToJson entries))).map
          memberChars := by
      rw [writeEntries_eq entries,
        ← map_sortByKey Utf16Sorted (fun p : String × Json => (p.1, p.2.chars)) (fun _ => rfl),
        List.map_map]
      refine List.map_congr_left fun p _ => ?_
      rw [Function.comp_apply, writeString_eq_quote, memberChars]
    simp only [writeCanonical, JsonValue.toJson, Json.sortedBy, chars_obj, hmap]

theorem writeValues_eq : ∀ values : List JsonValue,
    writeValues values =
      (Json.sortedByItems Utf16Sorted (valuesToJson values)).map Json.chars
  | [] => rfl
  | value :: rest => by
    rw [writeValues, valuesToJson, Json.sortedByItems, List.map_cons, writeCanonical_eq value,
      writeValues_eq rest]

theorem writeEntries_eq : ∀ entries : List (String × JsonValue),
    writeEntries entries =
      (Json.sortedByMembers Utf16Sorted (entriesToJson entries)).map
        fun p => (p.1, Json.chars p.2)
  | [] => rfl
  | (key, value) :: rest => by
    rw [writeEntries, entriesToJson, Json.sortedByMembers, List.map_cons, writeCanonical_eq value,
      writeEntries_eq rest]

end

/-! ## Keys that the two orders tell apart -/

theorem entriesToJson_eq_map (entries : List (String × JsonValue)) :
    entriesToJson entries = entries.map fun e => (e.1, e.2.toJson) := by
  induction entries with
  | nil => rfl
  | cons entry rest ih => rw [entriesToJson, ih, List.map_cons]

theorem map_fst_entriesToJson (entries : List (String × JsonValue)) :
    (entriesToJson entries).map Prod.fst = entries.map Prod.fst := by
  rw [entriesToJson_eq_map, List.map_map]
  rfl

mutual

/-- Code points and code units order all keys alike exactly when none go astray. -/
theorem allKeys_iff : ∀ value : JsonValue,
    Json.AllKeys (fun k l => k ≤ l ↔ Utf16Sorted k l) value.toJson ↔ ¬ value.HasAstrayKeys
  | .null | .bool _ | .integer _ | .string _ => by
    simp [JsonValue.toJson, Json.AllKeys, JsonValue.HasAstrayKeys]
  | .array values => by
    rw [JsonValue.toJson, Json.AllKeys, JsonValue.HasAstrayKeys, allKeysItems_iff values]
  | .object entries => by
    have hkeys : ∀ k l : String, (k ≤ l ↔ Utf16Sorted k l) ↔ ¬ Astray k.toList l.toList :=
      fun k l => by
        rw [utf16Sorted_iff]
        exact le_iff_utf16Le_iff k.toList l.toList
    rw [JsonValue.toJson, Json.AllKeys, JsonValue.HasAstrayKeys, allKeysMembers_iff entries,
      map_fst_entriesToJson, not_or]
    simp only [hkeys, not_exists, not_and]

theorem allKeysItems_iff : ∀ values : List JsonValue,
    Json.AllKeysItems (fun k l => k ≤ l ↔ Utf16Sorted k l) (valuesToJson values) ↔
      ¬ anyHasAstrayKeys values
  | [] => by simp [valuesToJson, Json.AllKeysItems, anyHasAstrayKeys]
  | value :: rest => by
    rw [valuesToJson, Json.AllKeysItems, anyHasAstrayKeys, allKeys_iff value,
      allKeysItems_iff rest, not_or]

theorem allKeysMembers_iff : ∀ entries : List (String × JsonValue),
    Json.AllKeysMembers (fun k l => k ≤ l ↔ Utf16Sorted k l) (entriesToJson entries) ↔
      ¬ anyEntryHasAstrayKeys entries
  | [] => by simp [entriesToJson, Json.AllKeysMembers, anyEntryHasAstrayKeys]
  | (key, value) :: rest => by
    rw [entriesToJson, Json.AllKeysMembers, anyEntryHasAstrayKeys, allKeys_iff value,
      allKeysMembers_iff rest, not_or]

end

end Vibapp.Protocol
