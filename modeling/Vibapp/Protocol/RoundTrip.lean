import Vibapp.Protocol.ParserComplete

/-!
# Canonical text parses back

`JsonValue.sorted` puts the entries of every object in the writer's order. **Main result**
(`parseJson_toCanonicalJson`): the canonical text of a value whose objects have distinct keys
parses, to a value equal to it that has the same canonical text. The text is that of a tree of the
grammar without gaps, which the parser accepts because it accepts the whole grammar.
-/

namespace Vibapp.Protocol

open Vibapp.Protocol.Parser

/-! ## The value in the writer's order -/

mutual

/-- The value with the entries of every object sorted by the code units of their keys. -/
def JsonValue.sorted : JsonValue → JsonValue
  | .null => .null
  | .bool value => .bool value
  | .integer value => .integer value
  | .string value => .string value
  | .array values => .array (valuesSorted values)
  | .object entries => .object (sortByKey Utf16Sorted (entriesSorted entries))

def valuesSorted : List JsonValue → List JsonValue
  | [] => []
  | value :: rest => value.sorted :: valuesSorted rest

def entriesSorted : List (String × JsonValue) → List (String × JsonValue)
  | [] => []
  | (key, value) :: rest => (key, value.sorted) :: entriesSorted rest

end

theorem map_fst_entriesSorted (entries : List (String × JsonValue)) :
    (entriesSorted entries).map Prod.fst = entries.map Prod.fst := by
  induction entries with
  | nil => rfl
  | cons entry rest ih => rw [entriesSorted, List.map_cons, ih, List.map_cons]

mutual

theorem toJson_sorted : ∀ v : JsonValue, v.sorted.toJson = v.canonicalTree
  | .null | .bool _ | .integer _ | .string _ => rfl
  | .array values => by
    rw [JsonValue.sorted, JsonValue.toJson, valuesToJson_sorted values]
    rfl
  | .object entries => by
    rw [JsonValue.sorted, JsonValue.toJson, canonicalTree_object, entriesToJson_eq_map,
      map_sortByKey Utf16Sorted (fun e : String × JsonValue => (e.1, e.2.toJson)) (fun _ => rfl),
      map_entriesSorted entries]

theorem valuesToJson_sorted : ∀ values : List JsonValue, valuesToJson (valuesSorted values) =
    Json.sortedByItems Utf16Sorted (valuesToJson values)
  | [] => rfl
  | value :: rest => by
    rw [valuesSorted, valuesToJson, toJson_sorted value, valuesToJson_sorted rest]
    rfl

theorem map_entriesSorted : ∀ entries : List (String × JsonValue),
    (entriesSorted entries).map (fun e => (e.1, e.2.toJson)) =
      entries.map fun e => (e.1, e.2.canonicalTree)
  | [] => rfl
  | (key, value) :: rest => by
    rw [entriesSorted, List.map_cons, toJson_sorted value, map_entriesSorted rest, List.map_cons]

end

mutual

theorem distinctKeys_sorted : ∀ {v : JsonValue}, v.DistinctKeys → v.sorted.DistinctKeys
  | .null, _ | .bool _, _ | .integer _, _ | .string _, _ => trivial
  | .array _, h => valuesDistinct_sorted h
  | .object entries, h => by
    refine ⟨?_, ?_⟩
    · refine ((perm_sortByKey _).map Prod.fst).nodup_iff.2 ?_
      rw [map_fst_entriesSorted]
      exact h.1
    · rw [entriesDistinct_iff]
      intro e he
      exact entriesDistinct_iff.1 (entriesDistinct_sorted h.2) e ((perm_sortByKey _).subset he)

theorem valuesDistinct_sorted : ∀ {values : List JsonValue}, valuesDistinct values →
    valuesDistinct (valuesSorted values)
  | [], _ => trivial
  | _ :: _, h => ⟨distinctKeys_sorted h.1, valuesDistinct_sorted h.2⟩

theorem entriesDistinct_sorted : ∀ {entries : List (String × JsonValue)},
    entriesDistinct entries → entriesDistinct (entriesSorted entries)
  | [], _ => trivial
  | (_, _) :: _, h => ⟨distinctKeys_sorted h.1, entriesDistinct_sorted h.2⟩

end

theorem canonicalTree_sorted (v : JsonValue) : v.sorted.canonicalTree = v.canonicalTree := by
  rw [JsonValue.canonicalTree, toJson_sorted, JsonValue.canonicalTree, Json.sortedBy_sortedBy]

/-! ## Texts without gaps are in the grammar -/

theorem reads_escaped {letter c : Char} (h : (letter, c) ∈ escapes) :
    Reads [.escaped letter c h] c := by
  intro rest cs hrest
  rw [List.cons_append, List.nil_append, decode, hrest, Option.map_some]

theorem hexDigitValue_hexDigit {n : Nat} (h : n < 16) :
    (toDigit16 (Json.hexDigit n)).isSome = true ∧ hexDigitValue (Json.hexDigit n) = n := by
  have hall : ∀ a < 16, (toDigit16 (Json.hexDigit a)).isSome = true ∧
      hexDigitValue (Json.hexDigit a) = a := by decide
  exact hall n h

/-- A control character is written as its code unit. -/
theorem exists_unicode {c : Char} (hc : c.toNat < 32) :
    ∃ piece : Piece, piece.chars =
        ['\\', 'u', '0', '0', Json.hexDigit (c.toNat / 16), Json.hexDigit (c.toNat % 16)] ∧
      Reads [piece] c := by
  obtain ⟨hhigh, hhigh'⟩ := hexDigitValue_hexDigit (show c.toNat / 16 < 16 by omega)
  obtain ⟨hlow, hlow'⟩ := hexDigitValue_hexDigit (show c.toNat % 16 < 16 by omega)
  let digits : Fin 4 → Char :=
    ![ '0', '0', Json.hexDigit (c.toNat / 16), Json.hexDigit (c.toNat % 16)]
  have hdigits : ∀ i, (toDigit16 (digits i)).isSome = true := by
    intro i
    fin_cases i
    · rfl
    · rfl
    · exact hhigh
    · exact hlow
  have hunit : Piece.unit digits = c.toNat := by
    have hzero : hexDigitValue '0' = 0 := rfl
    simp only [Piece.unit, digits, Matrix.cons_val, hzero, hhigh', hlow']
    omega
  refine ⟨.unicode digits hdigits, rfl, ?_⟩
  intro rest cs hrest
  rw [List.cons_append, List.nil_append, decode_scalar, hrest, hunit, Char.ofNat_toNat,
    Option.map_some]
  · rw [hunit, isHighSurrogate, Bool.and_eq_true, decide_eq_true_eq]
    omega
  · rw [hunit, isLowSurrogate, Bool.and_eq_true, decide_eq_true_eq]
    omega

/-- The escape of one character. -/
theorem exists_piece (c : Char) :
    ∃ piece : Piece, piece.chars = Json.escape c ∧ Reads [piece] c := by
  have hchar : ∀ n, c.toNat = n → c = Char.ofNat n := by
    rintro n rfl
    exact (Char.ofNat_toNat c).symm
  unfold Json.escape
  split_ifs with hq hb hn hr ht h8 h12 hctl
  · subst hq
    exact ⟨.escaped '"' '"' (by decide), rfl, reads_escaped _⟩
  · subst hb
    exact ⟨.escaped '\\' '\\' (by decide), rfl, reads_escaped _⟩
  · subst hn
    exact ⟨.escaped 'n' '\n' (by decide), rfl, reads_escaped _⟩
  · subst hr
    exact ⟨.escaped 'r' '\r' (by decide), rfl, reads_escaped _⟩
  · subst ht
    exact ⟨.escaped 't' '\t' (by decide), rfl, reads_escaped _⟩
  · rw [hchar 8 h8]
    exact ⟨.escaped 'b' (Char.ofNat 8) (by decide), rfl, reads_escaped _⟩
  · rw [hchar 12 h12]
    exact ⟨.escaped 'f' (Char.ofNat 12) (by decide), rfl, reads_escaped _⟩
  · exact exists_unicode hctl
  · refine ⟨.unescaped c ⟨hq, hb, by omega⟩, rfl, ?_⟩
    intro rest cs hrest
    rw [List.cons_append, List.nil_append, decode, hrest, Option.map_some]

theorem exists_pieces (cs : List Char) :
    ∃ pieces, pieceChars pieces ++ ['"'] = Json.quoteTail cs ∧ decode pieces = some cs := by
  induction cs with
  | nil => exact ⟨[], rfl, rfl⟩
  | cons c cs ih =>
    obtain ⟨piece, hchars, hreads⟩ := exists_piece c
    obtain ⟨pieces, hpieces, hdecode⟩ := ih
    refine ⟨piece :: pieces, ?_, hreads pieces cs hdecode⟩
    rw [pieceChars, List.flatMap_cons, List.append_assoc, hchars, Json.quoteTail, ← hpieces]
    rfl

/-- A decimal integer has no leading zero. -/
theorem toDigits_leading (n : Nat) (h : (Nat.toDigits 10 n).head? = some '0') :
    Nat.toDigits 10 n = ['0'] := by
  induction n using Nat.strong_induction_on with
  | _ n ih =>
    by_cases hn : n < 10
    · rw [Nat.toDigits_of_lt_base hn] at h ⊢
      rw [Option.some.inj h]
    · rw [Nat.toDigits_of_base_le (by decide) (by omega), List.head?_append_of_ne_nil] at h
      · have hzero : Nat.toDigits 10 (n / 10) = Nat.toDigits 10 0 := by
          rw [ih (n / 10) (by omega) h, Nat.toDigits_zero]
        have := Json.toDigits_inj hzero
        omega
      · exact List.ne_nil_of_length_pos Nat.length_toDigits_pos

theorem isDigit_of_mem_toDigits {n : Nat} : ∀ c ∈ Nat.toDigits 10 n, isDigit c = true := by
  intro c hc
  have hall : ∀ d ∈ "0123456789".toList, isDigit d = true := List.all_eq_true.1 rfl
  exact hall c (Json.mem_digits hc)

/-- A decimal integer, as a number of the grammar. -/
def Numeral.ofNat (negative : Bool) (n : Nat) : Numeral where
  negative := negative
  int := Nat.toDigits 10 n
  fraction := none
  exponent := none
  int_digits := ⟨List.ne_nil_of_length_pos Nat.length_toDigits_pos, isDigit_of_mem_toDigits⟩
  int_leading := toDigits_leading n
  fraction_digits := by simp
  exponent_shape := by simp

theorem toI64_toInt (i : Int64) : toI64 i.toInt = some i := by
  unfold toI64
  rw [if_pos ⟨i.le_toInt, i.toInt_lt⟩, Int64.ofInt_toInt]

theorem exists_numeral (i : Int64) :
    ∃ n : Numeral, n.chars = Json.intChars i.toInt ∧ n.value = some i := by
  rw [← toI64_toInt i]
  cases i.toInt with
  | ofNat n =>
    refine ⟨.ofNat false n, by simp [Numeral.chars, Numeral.ofNat, Json.intChars], ?_⟩
    rw [Numeral.value, if_pos ⟨rfl, rfl⟩]
    simp [Numeral.integer, Numeral.ofNat]
  | negSucc n =>
    refine ⟨.ofNat true (n + 1), by simp [Numeral.chars, Numeral.ofNat, Json.intChars], ?_⟩
    rw [Numeral.value, if_pos ⟨rfl, rfl⟩]
    simp [Numeral.integer, Numeral.ofNat, Int.negSucc_eq]

/-- No whitespace. -/
def noGap : Gap := ⟨[], by simp⟩

mutual

/-- The text of a value in the order it stands in is in the grammar and reads as the value. -/
theorem exists_tree : ∀ {v : JsonValue}, v.DistinctKeys →
    ∃ tree : Cst, tree.chars = Json.chars v.toJson ∧ tree.value = some v
  | .null, _ => ⟨.null, rfl, rfl⟩
  | .bool true, _ => ⟨.true, rfl, rfl⟩
  | .bool false, _ => ⟨.false, rfl, rfl⟩
  | .integer i, _ => by
    obtain ⟨n, hchars, hvalue⟩ := exists_numeral i
    refine ⟨.number n, hchars, ?_⟩
    rw [Cst.value, hvalue, Option.map_some]
  | .string s, _ => by
    obtain ⟨pieces, hchars, hdecode⟩ := exists_pieces s.toList
    refine ⟨.string pieces, congrArg ('"' :: ·) hchars, ?_⟩
    rw [Cst.value, hdecode, Option.map_some, String.ofList_toList]
  | .array [], _ => ⟨.emptyArray noGap, rfl, rfl⟩
  | .array (v :: rest), h => by
    obtain ⟨items, hchars, hvalues⟩ := exists_items h.1 h.2
    refine ⟨.array items, congrArg ('[' :: ·) hchars, ?_⟩
    rw [Cst.value, hvalues, Option.map_some]
  | .object [], _ => ⟨.emptyObject noGap, rfl, rfl⟩
  | .object ((key, v) :: rest), h => by
    obtain ⟨members, hchars, hentries⟩ := exists_members key h.2.1 h.2.2
    refine ⟨.object members, congrArg ('{' :: ·) hchars, ?_⟩
    rw [Cst.value, hentries, Option.bind_some, if_pos h.1]
termination_by v => sizeOf v

theorem exists_items : ∀ {v : JsonValue} {rest : List JsonValue}, v.DistinctKeys →
    valuesDistinct rest → ∃ items : Items, items.chars ++ [']'] =
        Json.chars v.toJson ++ Json.itemsTail (valuesToJson rest) ∧
      items.values = some (v :: rest)
  | v, [], h, _ => by
    obtain ⟨tree, hchars, hvalue⟩ := exists_tree h
    refine ⟨.last noGap tree noGap, ?_, ?_⟩
    · simp [Items.chars, noGap, hchars, valuesToJson, Json.itemsTail]
    · rw [Items.values, hvalue, Option.map_some]
  | v, w :: rest, h, hrest => by
    obtain ⟨tree, hchars, hvalue⟩ := exists_tree h
    obtain ⟨items, hitems, hvalues⟩ := exists_items hrest.1 hrest.2
    refine ⟨.more noGap tree noGap items, ?_, ?_⟩
    · simp [Items.chars, noGap, hchars, hitems, valuesToJson, Json.itemsTail]
    · rw [Items.values, hvalue, hvalues, Option.bind_some, Option.map_some]
termination_by v rest => 1 + sizeOf v + sizeOf rest

theorem exists_members : ∀ (key : String) {v : JsonValue} {rest : List (String × JsonValue)},
    v.DistinctKeys → entriesDistinct rest → ∃ members : Members, members.chars ++ ['}'] =
        Json.quote key ++ ':' :: (Json.chars v.toJson ++ Json.membersTail (entriesToJson rest)) ∧
      members.entries = some ((key, v) :: rest)
  | key, v, [], h, _ => by
    obtain ⟨pieces, hkey, hdecode⟩ := exists_pieces key.toList
    obtain ⟨tree, hchars, hvalue⟩ := exists_tree h
    refine ⟨.last noGap pieces noGap noGap tree noGap, ?_, ?_⟩
    · simp [Members.chars, noGap, hchars, Json.quote, ← hkey, entriesToJson, Json.membersTail]
    · rw [Members.entries, hdecode, hvalue, Option.bind_some, Option.map_some,
        String.ofList_toList]
  | key, v, (key', w) :: rest, h, hrest => by
    obtain ⟨pieces, hkey, hdecode⟩ := exists_pieces key.toList
    obtain ⟨tree, hchars, hvalue⟩ := exists_tree h
    obtain ⟨members, hmembers, hentries⟩ := exists_members key' hrest.1 hrest.2
    refine ⟨.more noGap pieces noGap noGap tree noGap members, ?_, ?_⟩
    · simp [Members.chars, noGap, hchars, Json.quote, ← hkey, hmembers, entriesToJson,
        Json.membersTail]
    · rw [Members.entries, hdecode, hvalue, hentries, Option.bind_some, Option.bind_some,
        Option.map_some, String.ofList_toList]
termination_by _ v rest => 1 + sizeOf v + sizeOf rest

end

/-! ## Main result -/

theorem readsAs_canonical {v : JsonValue} (h : v.DistinctKeys) :
    ReadsAs (toCanonicalJson v) v.sorted := by
  obtain ⟨tree, hchars, hvalue⟩ := exists_tree (distinctKeys_sorted h)
  refine ⟨noGap, tree, noGap, ?_, hvalue⟩
  rw [toJson_sorted] at hchars
  rw [toCanonicalJson, String.toList_ofList, writeCanonical_eq, hchars]
  simp [noGap, JsonValue.canonicalTree]

/-- **Round trip.** The canonical text of a value with distinct keys parses to an equal value,
whose canonical text it is. -/
theorem parseJson_toCanonicalJson (v : JsonValue) (h : v.DistinctKeys) :
    ∃ w, parseJson (toCanonicalJson v) = .ok w ∧ w.eq v = true ∧
      toCanonicalJson w = toCanonicalJson v := by
  refine ⟨v.sorted, parseJson_eq_ok_iff.2 (readsAs_canonical h), ?_, ?_⟩
  · exact (eq_iff_canonicalTree (distinctKeys_sorted h) h).2 (canonicalTree_sorted v)
  · exact toCanonicalJson_eq_iff.2 (canonicalTree_sorted v)

/-- Keys out of order, and an escape. -/
theorem parseJson_toCanonicalJson_sample :
    ∃ w, parseJson (toCanonicalJson (.object [("b", .integer 1), ("a", .string "\n")])) = .ok w ∧
      w.eq (.object [("b", .integer 1), ("a", .string "\n")]) = true ∧
      toCanonicalJson w = toCanonicalJson (.object [("b", .integer 1), ("a", .string "\n")]) :=
  parseJson_toCanonicalJson _ ⟨by decide, trivial, trivial, trivial⟩

end Vibapp.Protocol
