import Vibapp.Lib.Except
import Vibapp.Protocol.Grammar
import Mathlib.Data.Fin.VecNotation
import Mathlib.Data.Fintype.Basic
import Mathlib.Tactic.FinCases

/-!
# What the parser accepts is in the grammar

**Main result** (`readsAs_of_parseJson`): where `parseJson` returns a value, its input is a text of
the grammar that reads as this value. One lemma for each part of the parser says which text it
took off its input; the loops are by induction on the fuel.
-/

namespace Vibapp.Protocol

open Vibapp.Protocol.Parser

/-! ## Single steps -/

theorem skipWhile_eq (f : Char → Bool) (l : List Char) (n : Nat) :
    ∃ taken, l = taken ++ (skipWhile f l n).remaining ∧ (∀ c ∈ taken, f c = true) ∧
      ∀ c ∈ (skipWhile f l n).remaining.head?, f c = false := by
  induction l generalizing n with
  | nil => exact ⟨[], rfl, by simp, by simp [skipWhile]⟩
  | cons c rest ih =>
    by_cases hc : f c = true
    · obtain ⟨taken, heq, htaken, hhead⟩ := ih (n + c.utf8Size)
      refine ⟨c :: taken, ?_, ?_, ?_⟩
      · simp only [skipWhile, hc, if_true, List.cons_append]
        rw [← heq]
      · intro d hd
        rcases List.mem_cons.1 hd with rfl | hd
        · exact hc
        · exact htaken d hd
      · simpa only [skipWhile, hc, if_true] using hhead
    · refine ⟨[], ?_, by simp, ?_⟩
      · simp [skipWhile, hc]
      · simp [skipWhile, hc]

theorem skipWhitespace_eq (p : Parser) :
    ∃ gap : Gap, p.remaining = gap.1 ++ p.skipWhitespace.remaining := by
  obtain ⟨taken, heq, htaken, -⟩ := skipWhile_eq isWhitespace p.remaining p.offset
  exact ⟨⟨taken, htaken⟩, heq⟩

/-- Nothing is left to skip. -/
theorem skipWhitespace_skipWhitespace (p : Parser) :
    p.skipWhitespace.skipWhitespace = p.skipWhitespace := by
  obtain ⟨-, -, -, hhead⟩ := skipWhile_eq isWhitespace p.remaining p.offset
  change ∀ c ∈ p.skipWhitespace.remaining.head?, isWhitespace c = false at hhead
  generalize p.skipWhitespace = q at hhead ⊢
  obtain ⟨remaining, offset⟩ := q
  cases remaining with
  | nil => rfl
  | cons c rest =>
    have hc : isWhitespace c = false := hhead c rfl
    simp [skipWhitespace, skipWhile, hc]

theorem remaining_of_next {p q : Parser} {c : Char} (h : p.next = (some c, q)) :
    p.remaining = c :: q.remaining := by
  unfold Parser.next at h
  split at h
  · simp at h
  · rename_i hp
    rw [hp]
    cases h
    rfl

theorem remaining_of_peek {p : Parser} {c : Char} (h : p.peek = some c) :
    p.remaining = c :: p.next.2.remaining := by
  unfold Parser.peek at h
  unfold Parser.next
  cases hp : p.remaining with
  | nil => rw [hp] at h; cases h
  | cons d rest =>
    rw [hp] at h
    cases h
    rfl

/-! ## Strings -/

theorem pushScalar_sound {n : Nat} {p q : Parser} {d : Char} (h : pushScalar n p = .ok (d, q)) :
    d = Char.ofNat n ∧ q = p := by
  unfold pushScalar fromU32 at h
  by_cases hn : n.isValidChar
  · rw [if_pos hn] at h
    cases h
    exact ⟨rfl, rfl⟩
  · rw [if_neg hn] at h
    cases h

/-- A hexadecimal digit that was read. -/
theorem digit_of_next {p q : Parser} {v value : Nat} {n : Nat}
    (h : parseHexDigits (n + 1) value p = .ok (v, q)) :
    ∃ c, p.remaining = c :: p.next.2.remaining ∧ (toDigit16 c).isSome = true ∧
      parseHexDigits n (value * 16 + hexDigitValue c) p.next.2 = .ok (v, q) := by
  unfold parseHexDigits at h
  split at h
  · rename_i digit hdigit
    obtain ⟨c, hc, hvalue⟩ := Option.bind_eq_some_iff.1 hdigit
    refine ⟨c, remaining_of_next (q := p.next.2) (Prod.ext hc rfl), by simp [hvalue], ?_⟩
    rw [hexDigitValue, hvalue]
    exact h
  · cases h

theorem parseHexQuad_sound {p q : Parser} {v : Nat} (h : parseHexQuad p = .ok (v, q)) :
    ∃ digits : Fin 4 → Char, (∀ i, (toDigit16 (digits i)).isSome = true) ∧
      v = Piece.unit digits ∧
      p.remaining = digits 0 :: digits 1 :: digits 2 :: digits 3 :: q.remaining := by
  obtain ⟨a, ha, hda, h₁⟩ := digit_of_next h
  obtain ⟨b, hb, hdb, h₂⟩ := digit_of_next h₁
  obtain ⟨c, hc, hdc, h₃⟩ := digit_of_next h₂
  obtain ⟨d, hd, hdd, h₄⟩ := digit_of_next h₃
  cases h₄
  refine ⟨![a, b, c, d], ?_, ?_, ?_⟩
  · intro i
    fin_cases i <;> assumption
  · simp [Piece.unit]
  · rw [ha, hb, hc, hd]
    rfl

theorem decode_scalar {digits : Fin 4 → Char}
    {h : ∀ i, (toDigit16 (digits i)).isSome = true} (hhigh : ¬ isHighSurrogate (Piece.unit digits))
    (hlow : ¬ isLowSurrogate (Piece.unit digits)) (rest : List Piece) :
    decode (.unicode digits h :: rest) =
      (decode rest).map (Char.ofNat (Piece.unit digits) :: ·) := by
  rcases rest with _ | ⟨_ | _ | _, rest⟩ <;> simp only [decode, if_neg hhigh, if_neg hlow]

theorem decode_pair {first second : Fin 4 → Char}
    {h : ∀ i, (toDigit16 (first i)).isSome = true}
    {h' : ∀ i, (toDigit16 (second i)).isSome = true}
    (hhigh : isHighSurrogate (Piece.unit first)) (hlow : isLowSurrogate (Piece.unit second))
    (rest : List Piece) :
    decode (.unicode first h :: .unicode second h' :: rest) = (decode rest).map
      (Char.ofNat (surrogatePair (Piece.unit first) (Piece.unit second)) :: ·) := by
  simp only [decode, if_pos hhigh, if_pos hlow]

/-- The pieces of one escape. -/
def Reads (pieces : List Piece) (d : Char) : Prop :=
  ∀ rest cs, decode rest = some cs → decode (pieces ++ rest) = some (d :: cs)

theorem parseUnicode_sound {p q : Parser} {d : Char} (h : parseUnicode p = .ok (d, q)) :
    ∃ pieces, Reads pieces d ∧ '\\' :: 'u' :: p.remaining = pieceChars pieces ++ q.remaining := by
  obtain ⟨⟨first, p₁⟩, hfirst, h⟩ := bind_eq_ok.1 h
  obtain ⟨digits, hdigits, rfl, hp⟩ := parseHexQuad_sound hfirst
  dsimp only at h
  by_cases hhigh : isHighSurrogate (Piece.unit digits) = true
  · rw [if_pos hhigh] at h
    by_cases hslash : p₁.next.1 = some '\\'
    · rw [if_neg (not_not.2 hslash)] at h
      by_cases hu : p₁.next.2.next.1 = some 'u'
      · rw [if_neg (not_not.2 hu)] at h
        obtain ⟨⟨second, p₂⟩, hsecond, h⟩ := bind_eq_ok.1 h
        obtain ⟨digits', hdigits', rfl, hp'⟩ := parseHexQuad_sound hsecond
        dsimp only at h
        by_cases hlow : isLowSurrogate (Piece.unit digits') = true
        · rw [if_pos hlow] at h
          obtain ⟨hd, rfl⟩ := pushScalar_sound h
          refine ⟨[.unicode digits hdigits, .unicode digits' hdigits'], ?_, ?_⟩
          · intro rest cs hrest
            rw [List.cons_append, List.cons_append, List.nil_append, decode_pair hhigh hlow, hrest,
              hd, Option.map_some]
          · have hslash' := remaining_of_next (q := p₁.next.2) (Prod.ext hslash rfl)
            have hu' := remaining_of_next (q := p₁.next.2.next.2) (Prod.ext hu rfl)
            rw [hp, hslash', hu', hp']
            rfl
        · rw [if_neg hlow] at h
          cases h
      · rw [if_pos hu] at h
        cases h
    · rw [if_pos hslash] at h
      cases h
  · rw [if_neg hhigh] at h
    by_cases hlow : isLowSurrogate (Piece.unit digits) = true
    · rw [if_pos hlow] at h
      cases h
    · rw [if_neg hlow] at h
      obtain ⟨hd, rfl⟩ := pushScalar_sound h
      refine ⟨[.unicode digits hdigits], ?_, ?_⟩
      · intro rest cs hrest
        rw [List.cons_append, List.nil_append, decode_scalar hhigh hlow, hrest, hd, Option.map_some]
      · rw [hp]
        rfl

theorem mem_escapes_of_shortEscape {c d : Char} (h : shortEscape c = some d) :
    (c, d) ∈ escapes := by
  unfold shortEscape at h
  split at h <;> cases h <;> decide

theorem parseEscape_sound {p q : Parser} {d : Char} (h : parseEscape p = .ok (d, q)) :
    ∃ pieces, Reads pieces d ∧ '\\' :: p.remaining = pieceChars pieces ++ q.remaining := by
  unfold parseEscape at h
  split at h
  · rename_i q₁ hnext
    rw [remaining_of_next hnext]
    exact parseUnicode_sound h
  · rename_i letter q₁ _ hnext
    split at h
    · rename_i hmeaning
      cases h
      refine ⟨[.escaped letter d (mem_escapes_of_shortEscape hmeaning)], ?_, ?_⟩
      · intro rest cs hrest
        simp [decode, hrest]
      · rw [remaining_of_next hnext]
        rfl
    · cases h
  · cases h

theorem pieceChars_append (a b : List Piece) : pieceChars (a ++ b) = pieceChars a ++ pieceChars b :=
  List.flatMap_append

theorem parseChars_sound {fuel : Nat} {p q : Parser} {out out' : List Char}
    (h : parseChars fuel p out = .ok (out', q)) :
    ∃ pieces cs, decode pieces = some cs ∧ out' = out ++ cs ∧
      p.remaining = pieceChars pieces ++ '"' :: q.remaining := by
  induction fuel generalizing p out with
  | zero => cases h
  | succ fuel ih =>
    unfold parseChars at h
    split at h
    · cases h
    · rename_i c q₁ hnext
      rw [remaining_of_next hnext]
      split at h
      · rename_i hquote
        cases h
        exact ⟨[], [], rfl, (List.append_nil _).symm, by rw [hquote]; rfl⟩
      · rename_i hquote
        split at h
        · rename_i hslash
          obtain ⟨⟨d, q₂⟩, hescape, h⟩ := bind_eq_ok.1 h
          obtain ⟨pieces, hreads, hp⟩ := parseEscape_sound hescape
          obtain ⟨rest, cs, hdecode, hout, hq⟩ := ih h
          refine ⟨pieces ++ rest, d :: cs, hreads rest cs hdecode, by simp [hout], ?_⟩
          rw [hslash, hp, hq, pieceChars_append, List.append_assoc]
        · rename_i hslash
          split at h
          · cases h
          · rename_i hcontrol
            obtain ⟨rest, cs, hdecode, hout, hq⟩ := ih h
            refine ⟨.unescaped c ⟨hquote, hslash, by omega⟩ :: rest, c :: cs, ?_, by simp [hout], ?_⟩
            · simp [decode, hdecode]
            · rw [hq]
              rfl

theorem parseString_sound {p q : Parser} {s : String} (h : parseString p = .ok (s, q)) :
    ∃ pieces cs, decode pieces = some cs ∧ s = String.ofList cs ∧
      p.remaining = '"' :: (pieceChars pieces ++ '"' :: q.remaining) := by
  unfold parseString at h
  split at h
  · cases h
  · rename_i hquote
    obtain ⟨⟨out, q₁⟩, hchars, h⟩ := bind_eq_ok.1 h
    cases h
    obtain ⟨pieces, cs, hdecode, hout, hq⟩ := parseChars_sound hchars
    refine ⟨pieces, cs, hdecode, by rw [hout, List.nil_append], ?_⟩
    rw [remaining_of_next (q := p.next.2) (Prod.ext (not_not.1 hquote) rfl), hq]

/-! ## Numbers -/

theorem parseI64_eq (negative : Bool) {digits : List Char}
    (hdigits : ∀ c ∈ digits, isDigit c = true) :
    parseI64 ((if negative = true then ['-'] else []) ++ digits) =
      toI64 (if negative = true then -(Nat.ofDigitChars 10 digits 0 : Nat)
        else Nat.ofDigitChars 10 digits 0) := by
  cases negative with
  | true =>
    rw [if_pos rfl, if_pos rfl]
    rfl
  | false =>
    rw [if_neg Bool.false_ne_true, if_neg Bool.false_ne_true, List.nil_append]
    unfold parseI64
    split
    · exact absurd (hdigits '-' List.mem_cons_self) (by decide)
    · rfl

/-- Where `finishInteger` succeeds, the text is an integer literal within `i64`. -/
theorem finishInteger_sound {start p q : Parser} {v : JsonValue} (negative : Bool)
    (digits : List Char) (hstart : start.remaining =
      (if negative = true then ['-'] else []) ++ digits ++ p.remaining)
    (hdigits : digits ≠ [] ∧ ∀ c ∈ digits, isDigit c = true)
    (hleading : digits.head? = some '0' → digits = ['0'])
    (h : finishInteger start p = .ok (v, q)) :
    ∃ tree : Cst, tree.value = some v ∧ start.remaining = tree.chars ++ q.remaining := by
  unfold finishInteger at h
  split at h
  · cases h
  · have hlength : start.remaining.length - p.remaining.length =
        ((if negative = true then ['-'] else []) ++ digits).length := by
      rw [hstart, List.length_append]
      omega
    rw [hlength, hstart, List.take_left, parseI64_eq negative hdigits.2] at h
    split at h
    · rename_i n hn
      cases h
      let numeral : Numeral := ⟨negative, digits, none, none, hdigits, hleading, by simp, by simp⟩
      refine ⟨.number numeral, ?_, ?_⟩
      · have hvalue : numeral.value = some n := hn
        rw [Cst.value, hvalue]
        rfl
      · rw [hstart]
        simp [Cst.chars, Numeral.chars, numeral]
    · cases h

theorem parseInteger_sound {p q : Parser} {v : JsonValue} (h : parseInteger p = .ok (v, q)) :
    ∃ tree : Cst, tree.value = some v ∧ p.remaining = tree.chars ++ q.remaining := by
  unfold parseInteger at h
  have hminus : ∃ negative : Bool, p.remaining = (if negative = true then ['-'] else []) ++
      (if p.peek = some '-' then p.next.2 else p).remaining := by
    by_cases hp : p.peek = some '-'
    · refine ⟨true, ?_⟩
      rw [if_pos hp, remaining_of_peek hp]
      rfl
    · exact ⟨false, by rw [if_neg hp]; rfl⟩
  obtain ⟨negative, hp⟩ := hminus
  generalize (if p.peek = some '-' then p.next.2 else p) = r at h hp
  dsimp only at h
  split at h
  · rename_i hzero
    split at h
    · cases h
    · refine finishInteger_sound negative ['0'] ?_
        ⟨List.cons_ne_nil _ _, List.all_eq_true.1 rfl⟩ (fun _ => rfl) h
      rw [hp, remaining_of_peek hzero, List.append_assoc]
      rfl
  · rename_i c hne hc
    split at h
    · rename_i hdigit
      obtain ⟨taken, heq, htaken, hend⟩ := skipWhile_eq isDigit r.remaining r.offset
      have hhead : taken.head? = some c := by
        cases taken with
        | nil =>
          rw [List.nil_append] at heq
          rw [← heq] at hend
          exact absurd (hend c hc) (by simp [hdigit])
        | cons d rest =>
          rw [Parser.peek, heq] at hc
          exact hc
      refine finishInteger_sound negative taken ?_ ⟨?_, htaken⟩ ?_ h
      · rw [hp, List.append_assoc, ← heq]
      · intro hnil
        rw [hnil] at hhead
        cases hhead
      · intro hzero
        rw [hhead] at hzero
        exact absurd (Option.some.inj hzero) hne
    · cases h
  · cases h

/-! ## Values -/

theorem parseLiteral_sound {p q : Parser} {literal : String} {value v : JsonValue}
    (h : parseLiteral p literal value = .ok (v, q)) :
    v = value ∧ p.remaining = literal.toList ++ q.remaining := by
  unfold parseLiteral at h
  split at h
  · rename_i hstarts
    cases h
    exact ⟨rfl, (List.prefix_iff_eq_append.1 (List.isPrefixOf_iff_prefix.1 hstarts)).symm⟩
  · cases h

/-- What a value and the loops over items and entries take off the input. -/
structure SoundAt (fuel : Nat) : Prop where
  value : ∀ {p q v}, parseValue fuel p = .ok (v, q) →
    ∃ tree : Cst, tree.value = some v ∧ p.remaining = tree.chars ++ q.remaining
  items : ∀ {p q v values}, parseItems fuel p values = .ok (v, q) →
    ∃ (items : Items) (vs : List JsonValue), items.values = some vs ∧ v = .array (values ++ vs) ∧
      p.remaining = items.chars ++ ']' :: q.remaining
  entries : ∀ {p q v entries}, parseEntries fuel p entries = .ok (v, q) →
    (entries.map Prod.fst).Nodup →
    ∃ (members : Members) (es : List (String × JsonValue)), members.entries = some es ∧
      v = .object (entries ++ es) ∧ ((entries ++ es).map Prod.fst).Nodup ∧
      p.remaining = members.chars ++ '}' :: q.remaining

/-- The loops start by skipping whitespace. -/
theorem parseItems_skip (fuel : Nat) (p : Parser) (values : List JsonValue) :
    parseItems fuel p.skipWhitespace values = .ok (v, q) ↔ parseItems fuel p values = .ok (v, q) := by
  cases fuel with
  | zero => simp [parseItems, Parser.fail]
  | succ fuel => rw [parseItems, parseItems, skipWhitespace_skipWhitespace]

theorem parseEntries_skip (fuel : Nat) (p : Parser) (entries : List (String × JsonValue)) :
    parseEntries fuel p.skipWhitespace entries = .ok (v, q) ↔
      parseEntries fuel p entries = .ok (v, q) := by
  cases fuel with
  | zero => simp [parseEntries, Parser.fail]
  | succ fuel => rw [parseEntries, parseEntries, skipWhitespace_skipWhitespace]

theorem soundAt (fuel : Nat) : SoundAt fuel := by
  induction fuel with
  | zero =>
    refine ⟨fun h => ?_, fun h => ?_, fun h => ?_⟩
    all_goals cases h
  | succ fuel ih =>
    refine ⟨fun {p q v} h => ?_, fun {p q v values} h => ?_, fun {p q v entries} h hnodup => ?_⟩
    · unfold parseValue at h
      split at h
      · obtain ⟨rfl, hp⟩ := parseLiteral_sound h
        exact ⟨.null, rfl, hp⟩
      · obtain ⟨rfl, hp⟩ := parseLiteral_sound h
        exact ⟨.true, rfl, hp⟩
      · obtain ⟨rfl, hp⟩ := parseLiteral_sound h
        exact ⟨.false, rfl, hp⟩
      · obtain ⟨⟨s, q₁⟩, hs, h⟩ := bind_eq_ok.1 h
        cases h
        obtain ⟨pieces, cs, hdecode, rfl, hp⟩ := parseString_sound hs
        refine ⟨.string pieces, by rw [Cst.value, hdecode]; rfl, ?_⟩
        rw [hp]
        simp [Cst.chars]
      · rename_i hopen
        have hp := remaining_of_peek hopen
        obtain ⟨gap, hgap⟩ := skipWhitespace_eq p.next.2
        dsimp only at h
        split at h
        · rename_i hclose
          cases h
          refine ⟨.emptyArray gap, rfl, ?_⟩
          rw [hp, hgap, remaining_of_peek hclose]
          simp [Cst.chars]
        · obtain ⟨items, vs, hvalues, rfl, hrest⟩ := ih.items ((parseItems_skip _ _ _).1 h)
          refine ⟨.array items, by rw [Cst.value, hvalues]; rfl, ?_⟩
          rw [hp, hrest]
          simp [Cst.chars]
      · rename_i hopen
        have hp := remaining_of_peek hopen
        obtain ⟨gap, hgap⟩ := skipWhitespace_eq p.next.2
        dsimp only at h
        split at h
        · rename_i hclose
          cases h
          refine ⟨.emptyObject gap, rfl, ?_⟩
          rw [hp, hgap, remaining_of_peek hclose]
          simp [Cst.chars]
        · obtain ⟨members, es, hentries, rfl, hnodup, hrest⟩ :=
            ih.entries ((parseEntries_skip _ _ _).1 h) List.nodup_nil
          refine ⟨.object members, ?_, ?_⟩
          · rw [Cst.value, hentries, Option.bind_some, if_pos (by simpa using hnodup)]
            rfl
          · rw [hp, hrest]
            simp [Cst.chars]
      · split at h
        · exact parseInteger_sound h
        · cases h
      · cases h
    · unfold parseItems at h
      obtain ⟨⟨value, p₁⟩, hvalue, h⟩ := bind_eq_ok.1 h
      obtain ⟨before, hbefore⟩ := skipWhitespace_eq p
      obtain ⟨tree, htree, hp⟩ := ih.value hvalue
      obtain ⟨after, hafter⟩ := skipWhitespace_eq p₁
      dsimp only at h
      split at h
      · rename_i p₂ hnext
        obtain ⟨items, vs, hvalues, rfl, hrest⟩ := ih.items ((parseItems_skip _ _ _).1 h)
        refine ⟨.more before tree after items, value :: vs, ?_, by simp, ?_⟩
        · rw [Items.values, htree, hvalues]
          rfl
        · rw [hbefore, hp, hafter, remaining_of_next hnext, hrest]
          simp [Items.chars]
      · rename_i p₂ hnext
        cases h
        refine ⟨.last before tree after, [value], by rw [Items.values, htree]; rfl, rfl, ?_⟩
        rw [hbefore, hp, hafter, remaining_of_next hnext]
        simp [Items.chars]
      · cases h
      · cases h
    · unfold parseEntries at h
      dsimp only at h
      obtain ⟨before, hbefore⟩ := skipWhitespace_eq p
      split at h
      · cases h
      · obtain ⟨⟨key, p₁⟩, hkey, h⟩ := bind_eq_ok.1 h
        obtain ⟨pieces, cs, hdecode, rfl, hp₁⟩ := parseString_sound hkey
        obtain ⟨left, hleft⟩ := skipWhitespace_eq p₁
        dsimp only at h
        split at h
        · cases h
        · rename_i hnew
          split at h
          · cases h
          · rename_i hcolon
            have hp₂ := remaining_of_next (q := p₁.skipWhitespace.next.2)
              (Prod.ext (not_not.1 hcolon) rfl)
            obtain ⟨right, hright⟩ := skipWhitespace_eq p₁.skipWhitespace.next.2
            obtain ⟨⟨value, p₃⟩, hvalue, h⟩ := bind_eq_ok.1 h
            obtain ⟨tree, htree, hp₃⟩ := ih.value hvalue
            obtain ⟨after, hafter⟩ := skipWhitespace_eq p₃
            have hnodup' : ((entries ++ [(String.ofList cs, value)]).map Prod.fst).Nodup := by
              rw [List.map_append, List.nodup_append]
              refine ⟨hnodup, List.nodup_singleton _, ?_⟩
              intro a ha b hb hab
              rw [List.map_singleton, List.mem_singleton] at hb
              have hkey : a = String.ofList cs := hab.trans hb
              exact hnew (hkey ▸ ha)
            dsimp only at h
            split at h
            · rename_i p₄ hnext
              obtain ⟨members, es, hentries, rfl, hes, hrest⟩ :=
                ih.entries ((parseEntries_skip _ _ _).1 h) hnodup'
              refine ⟨.more before pieces left right tree after members,
                (String.ofList cs, value) :: es, ?_, by simp, by simpa using hes, ?_⟩
              · rw [Members.entries, hdecode, htree, hentries]
                rfl
              · rw [hbefore, hp₁, hleft, hp₂, hright, hp₃, hafter, remaining_of_next hnext, hrest]
                simp [Members.chars]
            · rename_i p₄ hnext
              cases h
              refine ⟨.last before pieces left right tree after, [(String.ofList cs, value)], ?_,
                rfl, hnodup', ?_⟩
              · rw [Members.entries, hdecode, htree]
                rfl
              · rw [hbefore, hp₁, hleft, hp₂, hright, hp₃, hafter, remaining_of_next hnext]
                simp [Members.chars]
            · cases h
            · cases h

/-- **Soundness.** -/
theorem readsAs_of_parseJson {input : String} {v : JsonValue} (h : parseJson input = .ok v) :
    ReadsAs input v := by
  unfold parseJson at h
  obtain ⟨⟨value, p⟩, hvalue, h⟩ := bind_eq_ok.1 h
  obtain ⟨before, hbefore⟩ := skipWhitespace_eq ⟨input.toList, 0⟩
  obtain ⟨tree, htree, hp⟩ := (soundAt _).value hvalue
  obtain ⟨after, hafter⟩ := skipWhitespace_eq p
  dsimp only at h
  split at h
  · cases h
  · rename_i hend
    cases h
    refine ⟨before, tree, after, ?_, htree⟩
    rw [not_not.1 hend, List.append_nil] at hafter
    rw [← hafter, List.append_assoc, ← hp]
    exact hbefore

end Vibapp.Protocol
