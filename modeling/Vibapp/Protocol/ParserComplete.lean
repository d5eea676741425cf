import Vibapp.Protocol.ParserSound

/-!
# What is in the grammar is accepted

**Main result** (`parseJson_eq_ok_iff`): `parseJson` accepts exactly the texts of the grammar that
have a value, and returns that value. The induction is over the tree of the text; every part of
the parser takes off the input the text of its part of the tree.
-/

namespace Vibapp.Protocol

open Vibapp.Protocol.Parser

/-! ## Single steps -/

theorem skipWhile_append {f : Char → Bool} {taken r : List Char} (n : Nat)
    (htaken : ∀ c ∈ taken, f c = true) (hr : ∀ c ∈ r.head?, f c = false) :
    (skipWhile f (taken ++ r) n).remaining = r := by
  induction taken generalizing n with
  | nil =>
    cases r with
    | nil => rfl
    | cons c rest => simp [skipWhile, hr c rfl]
  | cons c taken ih =>
    have hc := htaken c List.mem_cons_self
    simp only [List.cons_append, skipWhile, hc, if_true]
    exact ih _ fun d hd => htaken d (List.mem_cons_of_mem _ hd)

theorem skipWhitespace_append {p : Parser} {gap : Gap} {r : List Char}
    (hp : p.remaining = gap.1 ++ r) (hr : ∀ c ∈ r.head?, isWhitespace c = false) :
    p.skipWhitespace.remaining = r := by
  rw [skipWhitespace, hp]
  exact skipWhile_append _ gap.2 hr

theorem next_of_remaining {p : Parser} {c : Char} {r : List Char} (h : p.remaining = c :: r) :
    ∃ q, p.next = (some c, q) ∧ q.remaining = r := by
  unfold Parser.next
  rw [h]
  exact ⟨_, rfl, rfl⟩

theorem peek_of_remaining {p : Parser} {c : Char} {r : List Char} (h : p.remaining = c :: r) :
    p.peek = some c := by
  rw [Parser.peek, h]
  rfl

/-! ## Strings -/

theorem hexDigitValue_lt (c : Char) : hexDigitValue c < 16 := by
  unfold hexDigitValue toDigit16 isDigit
  split_ifs with hd ha hA
  · simp only [Bool.and_eq_true, decide_eq_true_eq, Char.le_def] at hd
    have h9 : c.toNat ≤ 57 := hd.2
    simp only [Option.getD_some]
    omega
  · simp only [Char.le_def] at ha
    have hf : c.toNat ≤ 102 := ha.2
    simp only [Option.getD_some]
    omega
  · simp only [Char.le_def] at hA
    have hF : c.toNat ≤ 70 := hA.2
    simp only [Option.getD_some]
    omega
  · simp

theorem unit_lt (digits : Fin 4 → Char) : Piece.unit digits < 0x10000 := by
  have h₀ := hexDigitValue_lt (digits 0)
  have h₁ := hexDigitValue_lt (digits 1)
  have h₂ := hexDigitValue_lt (digits 2)
  have h₃ := hexDigitValue_lt (digits 3)
  unfold Piece.unit
  omega

theorem parseHexDigits_cons {p : Parser} {c : Char} {r : List Char} (n value : Nat)
    (hp : p.remaining = c :: r) (hc : (toDigit16 c).isSome = true) :
    ∃ q, parseHexDigits (n + 1) value p = parseHexDigits n (value * 16 + hexDigitValue c) q ∧
      q.remaining = r := by
  obtain ⟨q, hq, hr⟩ := next_of_remaining hp
  obtain ⟨digit, hdigit⟩ := Option.isSome_iff_exists.1 hc
  refine ⟨q, ?_, hr⟩
  rw [parseHexDigits, hq, Option.bind_some, hdigit, hexDigitValue, hdigit]
  rfl

theorem parseHexQuad_complete {p : Parser} {digits : Fin 4 → Char} {r : List Char}
    (hdigits : ∀ i, (toDigit16 (digits i)).isSome = true)
    (hp : p.remaining = digits 0 :: digits 1 :: digits 2 :: digits 3 :: r) :
    ∃ q, parseHexQuad p = .ok (Piece.unit digits, q) ∧ q.remaining = r := by
  obtain ⟨q₁, h₁, hr₁⟩ := parseHexDigits_cons 3 0 hp (hdigits 0)
  obtain ⟨q₂, h₂, hr₂⟩ := parseHexDigits_cons 2 (0 * 16 + hexDigitValue (digits 0)) hr₁ (hdigits 1)
  obtain ⟨q₃, h₃, hr₃⟩ := parseHexDigits_cons 1
    ((0 * 16 + hexDigitValue (digits 0)) * 16 + hexDigitValue (digits 1)) hr₂ (hdigits 2)
  obtain ⟨q₄, h₄, hr₄⟩ := parseHexDigits_cons 0
    (((0 * 16 + hexDigitValue (digits 0)) * 16 + hexDigitValue (digits 1)) * 16 +
      hexDigitValue (digits 2)) hr₃ (hdigits 3)
  refine ⟨q₄, ?_, hr₄⟩
  rw [parseHexQuad, h₁, h₂, h₃, h₄, parseHexDigits, Piece.unit, Nat.zero_mul, Nat.zero_add]

theorem pushScalar_complete {n : Nat} (p : Parser) (h : n.isValidChar) :
    pushScalar n p = .ok (Char.ofNat n, p) := by
  rw [pushScalar, fromU32, if_pos h]

/-- A code unit that is no surrogate is a scalar value. -/
theorem isValidChar_unit {n : Nat} (hn : n < 0x10000) (hhigh : ¬ isHighSurrogate n = true)
    (hlow : ¬ isLowSurrogate n = true) : n.isValidChar := by
  unfold isHighSurrogate at hhigh
  unfold isLowSurrogate at hlow
  simp only [Bool.and_eq_true, decide_eq_true_eq] at hhigh hlow
  unfold Nat.isValidChar
  omega

/-- A surrogate pair is a scalar value. -/
theorem isValidChar_surrogatePair {m n : Nat} (hhigh : isHighSurrogate m = true)
    (hlow : isLowSurrogate n = true) : (surrogatePair m n).isValidChar := by
  unfold isHighSurrogate at hhigh
  unfold isLowSurrogate at hlow
  simp only [Bool.and_eq_true, decide_eq_true_eq] at hhigh hlow
  unfold Nat.isValidChar surrogatePair
  omega

theorem parseUnicode_scalar {p : Parser} {digits : Fin 4 → Char} {r : List Char}
    (hdigits : ∀ i, (toDigit16 (digits i)).isSome = true)
    (hhigh : ¬ isHighSurrogate (Piece.unit digits) = true)
    (hlow : ¬ isLowSurrogate (Piece.unit digits) = true)
    (hp : p.remaining = digits 0 :: digits 1 :: digits 2 :: digits 3 :: r) :
    ∃ q, parseUnicode p = .ok (Char.ofNat (Piece.unit digits), q) ∧ q.remaining = r := by
  obtain ⟨q, hq, hr⟩ := parseHexQuad_complete hdigits hp
  refine ⟨q, ?_, hr⟩
  rw [parseUnicode, hq, ok_bind]
  dsimp only
  rw [if_neg hhigh, if_neg hlow]
  exact pushScalar_complete q (isValidChar_unit (unit_lt digits) hhigh hlow)

theorem parseUnicode_pair {p : Parser} {first second : Fin 4 → Char} {r : List Char}
    (hfirst : ∀ i, (toDigit16 (first i)).isSome = true)
    (hsecond : ∀ i, (toDigit16 (second i)).isSome = true)
    (hhigh : isHighSurrogate (Piece.unit first) = true)
    (hlow : isLowSurrogate (Piece.unit second) = true)
    (hp : p.remaining = first 0 :: first 1 :: first 2 :: first 3 :: '\\' :: 'u' ::
      second 0 :: second 1 :: second 2 :: second 3 :: r) :
    ∃ q, parseUnicode p = .ok
      (Char.ofNat (surrogatePair (Piece.unit first) (Piece.unit second)), q) ∧ q.remaining = r := by
  obtain ⟨q₁, h₁, hr₁⟩ := parseHexQuad_complete hfirst hp
  obtain ⟨q₂, h₂, hr₂⟩ := next_of_remaining hr₁
  obtain ⟨q₃, h₃, hr₃⟩ := next_of_remaining hr₂
  obtain ⟨q₄, h₄, hr₄⟩ := parseHexQuad_complete hsecond hr₃
  refine ⟨q₄, ?_, hr₄⟩
  rw [parseUnicode, h₁, ok_bind]
  dsimp only
  rw [if_pos hhigh, h₂, if_neg (not_not.2 rfl), h₃, if_neg (not_not.2 rfl), h₄, ok_bind]
  dsimp only
  rw [if_pos hlow]
  exact pushScalar_complete q₄ (isValidChar_surrogatePair hhigh hlow)

theorem shortEscape_of_mem {c d : Char} (h : (c, d) ∈ escapes) :
    shortEscape c = some d ∧ c ≠ 'u' := by
  have hall : ∀ e ∈ escapes, shortEscape e.1 = some e.2 ∧ e.1 ≠ 'u' := by decide
  exact hall (c, d) h

theorem length_le_pieceChars (pieces : List Piece) : pieces.length ≤ (pieceChars pieces).length := by
  induction pieces with
  | nil => exact Nat.le_refl 0
  | cons piece rest ih =>
    rw [pieceChars, List.flatMap_cons, List.length_append, List.length_cons]
    have hpos : 1 ≤ piece.chars.length := by
      cases piece <;> simp [Piece.chars]
    rw [pieceChars] at ih
    omega

/-- One escape of a string, then the rest of the string. -/
theorem parseChars_escape {fuel : Nat} {p p₁ p₂ q : Parser} {out rest : List Char} {d : Char}
    (hp : p.next = (some '\\', p₁)) (hd : parseEscape p₁ = .ok (d, p₂))
    (hrest : parseChars fuel p₂ (out ++ [d]) = .ok (out ++ [d] ++ rest, q)) :
    parseChars (fuel + 1) p out = .ok (out ++ d :: rest, q) := by
  rw [parseChars, hp]
  dsimp only
  rw [if_neg (by decide), if_pos rfl, hd, ok_bind]
  dsimp only
  rw [hrest, List.append_assoc]
  rfl

theorem parseEscape_unicode {p q : Parser} (h : p.next = (some 'u', q)) :
    parseEscape p = parseUnicode q := by
  rw [parseEscape, h]
  rfl

theorem parseEscape_letter {p q : Parser} {c d : Char} (hmem : (c, d) ∈ escapes)
    (h : p.next = (some c, q)) : parseEscape p = .ok (d, q) := by
  obtain ⟨hshort, hu⟩ := shortEscape_of_mem hmem
  unfold parseEscape
  rw [h]
  split
  · rename_i heq
    cases heq
    exact absurd rfl hu
  · rename_i heq
    cases heq
    rw [hshort]
  · rename_i heq
    cases heq

theorem parseChars_complete {fuel : Nat} {pieces : List Piece} {cs : List Char} {p : Parser}
    {r : List Char} (h : decode pieces = some cs) (out : List Char) (hfuel : pieces.length < fuel)
    (hp : p.remaining = pieceChars pieces ++ '"' :: r) :
    ∃ q, parseChars fuel p out = .ok (out ++ cs, q) ∧ q.remaining = r := by
  induction fuel generalizing pieces cs p out with
  | zero => exact absurd hfuel (Nat.not_lt_zero _)
  | succ fuel ih =>
    rcases pieces with _ | ⟨piece, rest⟩
    · obtain ⟨q, hq, hr⟩ := next_of_remaining hp
      cases h
      refine ⟨q, ?_, hr⟩
      rw [parseChars, hq, List.append_nil]
      rfl
    have hlength : rest.length < fuel := Nat.lt_of_succ_lt_succ hfuel
    cases piece with
    | unescaped c hc =>
      obtain ⟨hquote, hslash, hcontrol⟩ := hc
      simp only [decode, Option.map_eq_some_iff] at h
      obtain ⟨cs, hcs, rfl⟩ := h
      obtain ⟨p₁, hp₁, hr₁⟩ := next_of_remaining hp
      obtain ⟨q, hq, hr⟩ := ih hcs (out ++ [c]) hlength hr₁
      refine ⟨q, ?_, hr⟩
      rw [parseChars, hp₁]
      dsimp only
      rw [if_neg hquote, if_neg hslash, if_neg (by omega), hq, List.append_assoc]
      rfl
    | escaped letter meaning hmem =>
      simp only [decode, Option.map_eq_some_iff] at h
      obtain ⟨cs, hcs, rfl⟩ := h
      obtain ⟨p₁, hp₁, hr₁⟩ := next_of_remaining hp
      obtain ⟨p₂, hp₂, hr₂⟩ := next_of_remaining hr₁
      obtain ⟨q, hq, hr⟩ := ih hcs (out ++ [meaning]) hlength hr₂
      exact ⟨q, parseChars_escape hp₁ (parseEscape_letter hmem hp₂) hq, hr⟩
    | unicode first hfirst =>
      obtain ⟨p₁, hp₁, hr₁⟩ := next_of_remaining hp
      obtain ⟨p₂, hp₂, hr₂⟩ := next_of_remaining hr₁
      by_cases hhigh : isHighSurrogate (Piece.unit first) = true
      · -- the second half has to follow
        rcases rest with _ | ⟨_ | _ | ⟨second, hsecond⟩, rest⟩
        · simp [decode, hhigh] at h
        · simp [decode, hhigh] at h
        · simp [decode, hhigh] at h
        by_cases hlow : isLowSurrogate (Piece.unit second) = true
        · rw [decode_pair hhigh hlow, Option.map_eq_some_iff] at h
          obtain ⟨cs, hcs, rfl⟩ := h
          obtain ⟨p₃, hp₃, hr₃⟩ := parseUnicode_pair hfirst hsecond hhigh hlow hr₂
          obtain ⟨q, hq, hr⟩ := ih hcs (out ++ [_]) (Nat.lt_of_succ_lt hlength) hr₃
          exact ⟨q, parseChars_escape hp₁ ((parseEscape_unicode hp₂).trans hp₃) hq, hr⟩
        · simp [decode, hhigh, hlow] at h
      · by_cases hlow : isLowSurrogate (Piece.unit first) = true
        · rcases rest with _ | ⟨_ | _ | _, rest⟩
          all_goals simp [decode, hhigh, hlow] at h
        · rw [decode_scalar hhigh hlow, Option.map_eq_some_iff] at h
          obtain ⟨cs, hcs, rfl⟩ := h
          obtain ⟨p₃, hp₃, hr₃⟩ := parseUnicode_scalar hfirst hhigh hlow hr₂
          obtain ⟨q, hq, hr⟩ := ih hcs (out ++ [_]) hlength hr₃
          exact ⟨q, parseChars_escape hp₁ ((parseEscape_unicode hp₂).trans hp₃) hq, hr⟩

theorem parseString_complete {pieces : List Piece} {cs : List Char} {p : Parser} {r : List Char}
    (h : decode pieces = some cs) (hp : p.remaining = '"' :: (pieceChars pieces ++ '"' :: r)) :
    ∃ q, parseString p = .ok (String.ofList cs, q) ∧ q.remaining = r := by
  obtain ⟨p₁, hp₁, hr₁⟩ := next_of_remaining hp
  have hlength : pieces.length < p.remaining.length := by
    have := length_le_pieceChars pieces
    rw [hp, List.length_cons, List.length_append]
    omega
  obtain ⟨q, hq, hr⟩ := parseChars_complete h [] hlength hr₁
  refine ⟨q, ?_, hr⟩
  rw [parseString, hp₁, if_neg (not_not.2 rfl), hq, ok_bind]
  rfl

/-! ## Numbers -/

/-- What may follow a value. -/
def Ends (r : List Char) : Prop :=
  ∀ c ∈ r.head?, isWhitespace c = true ∨ c = ',' ∨ c = ']' ∨ c = '}'

theorem isWhitespace_iff {c : Char} :
    isWhitespace c = true ↔ c = ' ' ∨ c = '\n' ∨ c = '\r' ∨ c = '\t' := by
  simp only [isWhitespace, Bool.or_eq_true, decide_eq_true_eq, or_assoc]

/-- No number goes on with what may follow it. -/
theorem Ends.not_numeric {r : List Char} (h : Ends r) :
    ∀ c ∈ r.head?, isDigit c = false ∧ c ≠ '.' ∧ c ≠ 'e' ∧ c ≠ 'E' := by
  intro c hc
  rcases h c hc with hgap | rfl | rfl | rfl
  · rcases isWhitespace_iff.1 hgap with rfl | rfl | rfl | rfl <;> decide
  all_goals decide

theorem finishInteger_complete {start p : Parser} {negative : Bool} {digits : List Char}
    {n : Int64} (hstart : start.remaining =
      (if negative = true then ['-'] else []) ++ digits ++ p.remaining)
    (hdigits : ∀ c ∈ digits, isDigit c = true) (hends : Ends p.remaining)
    (hn : toI64 (if negative = true then -(Nat.ofDigitChars 10 digits 0 : Nat)
      else Nat.ofDigitChars 10 digits 0) = some n) :
    finishInteger start p = .ok (.integer n, p) := by
  have hpeek : ¬ (p.peek = some '.' ∨ p.peek = some 'e' ∨ p.peek = some 'E') := by
    rintro (h | h | h)
    · exact (hends.not_numeric _ h).2.1 rfl
    · exact (hends.not_numeric _ h).2.2.1 rfl
    · exact (hends.not_numeric _ h).2.2.2 rfl
  have hlength : start.remaining.length - p.remaining.length =
      ((if negative = true then ['-'] else []) ++ digits).length := by
    rw [hstart, List.length_append]
    omega
  rw [finishInteger, if_neg hpeek, hlength, hstart, List.take_left, parseI64_eq negative hdigits,
    hn]

theorem parseInteger_complete {numeral : Numeral} {n : Int64} {p : Parser} {r : List Char}
    (h : numeral.value = some n) (hp : p.remaining = numeral.chars ++ r) (hends : Ends r) :
    ∃ q, parseInteger p = .ok (.integer n, q) ∧ q.remaining = r := by
  obtain ⟨negative, digits, fraction, exponent, hdigits, hleading, hfraction, hexponent⟩ := numeral
  unfold Numeral.value at h
  by_cases hplain : fraction = none ∧ exponent = none
  swap
  · rw [if_neg hplain] at h
    cases h
  rw [if_pos hplain] at h
  obtain ⟨rfl, rfl⟩ := hplain
  have hp : p.remaining = (if negative = true then ['-'] else []) ++ digits ++ r := by
    rw [hp]
    simp [Numeral.chars]
  obtain ⟨c, ds, rfl⟩ : ∃ c ds, digits = c :: ds := List.exists_cons_of_ne_nil hdigits.1
  have hc : isDigit c = true := hdigits.2 c List.mem_cons_self
  -- the optional minus
  have hminus : (if p.peek = some '-' then p.next.2 else p).remaining = c :: ds ++ r := by
    cases negative with
    | true =>
      obtain ⟨q, hq, hr⟩ := next_of_remaining hp
      rw [if_pos (peek_of_remaining hp), hq]
      exact hr
    | false =>
      rw [peek_of_remaining hp, if_neg, hp]
      · rfl
      · intro hdash
        rw [Option.some.inj hdash] at hc
        exact absurd hc (by decide)
  unfold parseInteger
  generalize (if p.peek = some '-' then p.next.2 else p) = s at hminus ⊢
  have hpeek := peek_of_remaining hminus
  dsimp only
  rw [hpeek]
  by_cases hzero : c = '0'
  · subst hzero
    have hds : ds = [] := (List.cons.inj (hleading rfl)).2
    subst hds
    obtain ⟨q, hq, hr⟩ := next_of_remaining hminus
    change q.remaining = r at hr
    refine ⟨q, ?_, hr⟩
    have hnext : s.next.2 = q := by rw [hq]
    have hdigit : ¬ q.peek.any isDigit = true := by
      rw [Parser.peek, hr]
      cases hd : r.head? with
      | none => exact Bool.false_ne_true
      | some d => exact ne_true_of_eq_false (hends.not_numeric d hd).1
    rw [hnext, if_neg hdigit]
    subst hr
    exact finishInteger_complete hp hdigits.2 hends h
  · have hq : (skipWhile isDigit s.remaining s.offset).remaining = r := by
      rw [hminus]
      exact skipWhile_append _ hdigits.2 fun d hd => (hends.not_numeric d hd).1
    refine ⟨_, ?_, hq⟩
    split
    · rename_i heq
      exact absurd (Option.some.inj heq) hzero
    · rename_i d _ heq
      cases heq
      rw [if_pos hc]
      refine finishInteger_complete ?_ hdigits.2 ?_ h
      · rw [hq, hp]
      · rwa [hq]
    · rename_i heq
      cases heq

/-! ## Values -/

theorem parseLiteral_complete {p : Parser} {literal : String} {r : List Char} (value : JsonValue)
    (hp : p.remaining = literal.toList ++ r) :
    ∃ q, parseLiteral p literal value = .ok (value, q) ∧ q.remaining = r := by
  refine ⟨⟨p.remaining.drop literal.toList.length, p.offset + literal.utf8ByteSize⟩, ?_, ?_⟩
  · rw [parseLiteral, if_pos]
    rw [hp]
    exact List.isPrefixOf_iff_prefix.2 (List.prefix_append _ _)
  · rw [hp, List.drop_left]

theorem Numeral.chars_eq_cons (n : Numeral) :
    ∃ c rest, n.chars = c :: rest ∧ (c = '-' ∨ isDigit c = true) := by
  obtain ⟨c, ds, hint⟩ := List.exists_cons_of_ne_nil n.int_digits.1
  have hc : isDigit c = true := n.int_digits.2 c (by simp [hint])
  cases hneg : n.negative with
  | true => exact ⟨'-', _, by simp [Numeral.chars, hneg]; rfl, .inl rfl⟩
  | false => exact ⟨c, _, by simp [Numeral.chars, hneg, hint]; rfl, .inr hc⟩

theorem not_isWhitespace_of_isDigit {c : Char} (h : isDigit c = true) : isWhitespace c = false := by
  by_contra hgap
  rcases isWhitespace_iff.1 (eq_true_of_ne_false hgap) with rfl | rfl | rfl | rfl
  all_goals exact absurd h (by decide)

/-- The first character of a value. -/
theorem Cst.chars_eq_cons (tree : Cst) :
    ∃ c rest, tree.chars = c :: rest ∧ isWhitespace c = Bool.false ∧ c ≠ ']' := by
  cases tree with
  | number n =>
    obtain ⟨c, rest, hchars, rfl | hc⟩ := n.chars_eq_cons
    · exact ⟨_, rest, hchars, by decide, by decide⟩
    · refine ⟨c, rest, hchars, not_isWhitespace_of_isDigit hc, ?_⟩
      rintro rfl
      exact absurd hc (by decide)
  | _ => exact ⟨_, _, rfl, by decide, by decide⟩

theorem Gap.ends (gap : Gap) {c : Char} (r : List Char) (hc : c = ',' ∨ c = ']' ∨ c = '}') :
    Ends (gap.1 ++ c :: r) := by
  intro d hd
  obtain ⟨cs, hcs⟩ := gap
  cases cs with
  | nil =>
    cases hd
    exact .inr hc
  | cons e rest =>
    cases hd
    exact .inl (hcs _ List.mem_cons_self)

theorem skipWhitespace_value {p : Parser} {gap : Gap} {tree : Cst} {r : List Char}
    (hp : p.remaining = gap.1 ++ (tree.chars ++ r)) :
    p.skipWhitespace.remaining = tree.chars ++ r := by
  refine skipWhitespace_append hp ?_
  obtain ⟨c, rest, hchars, hc, -⟩ := tree.chars_eq_cons
  rw [hchars]
  intro d hd
  cases hd
  exact hc

/-- What is left once the gap before `c` is skipped and `c` is taken. -/
theorem skipWhitespace_next {p : Parser} {gap : Gap} {c : Char} {r : List Char}
    (hp : p.remaining = gap.1 ++ c :: r) (hc : isWhitespace c = false) :
    ∃ q, p.skipWhitespace.next = (some c, q) ∧ q.remaining = r := by
  refine next_of_remaining (skipWhitespace_append hp ?_)
  intro d hd
  cases hd
  exact hc

theorem parseValue_number {p : Parser} {c : Char} (fuel : Nat) (hp : p.peek = some c)
    (hc : c = '-' ∨ isDigit c = true) : parseValue (fuel + 1) p = parseInteger p := by
  unfold parseValue
  rw [hp]
  split
  case h_7 d _ _ _ _ _ _ heq =>
    cases heq
    rw [if_pos hc]
  all_goals
    rename_i heq
    cases heq
  all_goals exact absurd hc (by decide)

theorem parseValue_array {p q : Parser} (fuel : Nat) (hp : p.next = (some '[', q)) :
    parseValue (fuel + 1) p =
      if q.skipWhitespace.peek = some ']' then .ok (.array [], q.skipWhitespace.next.2)
      else parseItems fuel q.skipWhitespace [] := by
  unfold parseValue
  rw [peek_of_remaining (remaining_of_next hp), hp]
  rfl

theorem parseValue_object {p q : Parser} (fuel : Nat) (hp : p.next = (some '{', q)) :
    parseValue (fuel + 1) p =
      if q.skipWhitespace.peek = some '}' then .ok (.object [], q.skipWhitespace.next.2)
      else parseEntries fuel q.skipWhitespace [] := by
  unfold parseValue
  rw [peek_of_remaining (remaining_of_next hp), hp]
  rfl

/-- The items of an array begin with a value. -/
theorem Items.chars_eq (items : Items) :
    ∃ (gap : Gap) (tree : Cst) (rest : List Char), items.chars = gap.1 ++ (tree.chars ++ rest) := by
  cases items with
  | last before tree after => exact ⟨before, tree, after.1, by simp [Items.chars]⟩
  | more before tree after rest => exact ⟨before, tree, _, by simp [Items.chars]; rfl⟩

/-- The members of an object begin with a key. -/
theorem Members.chars_eq (members : Members) :
    ∃ (gap : Gap) (rest : List Char), members.chars = gap.1 ++ '"' :: rest := by
  cases members with
  | last before _ _ _ _ _ => exact ⟨before, _, by rw [Members.chars]⟩
  | more before _ _ _ _ _ _ => exact ⟨before, _, by rw [Members.chars]⟩

theorem key_not_mem {key : String} {v : JsonValue} {entries es : List (String × JsonValue)}
    (h : ((entries ++ (key, v) :: es).map Prod.fst).Nodup) : key ∉ entries.map Prod.fst := by
  rw [List.map_append, List.nodup_append] at h
  intro hmem
  exact h.2.2 key hmem key (by simp) rfl

/-- One member of an object: what is left after its value decides how the loop goes on. -/
theorem parseEntries_member {fuel : Nat} {p : Parser} {before left right : Gap}
    {key : List Piece} {cs r : List Char} {tree : Cst} {v : JsonValue}
    {entries : List (String × JsonValue)} (hkey : decode key = some cs)
    (hnew : String.ofList cs ∉ entries.map Prod.fst)
    (hvalue : ∀ p₁ : Parser, p₁.remaining = tree.chars ++ r →
      ∃ q, parseValue fuel p₁ = .ok (v, q) ∧ q.remaining = r)
    (hp : p.remaining = before.1 ++ '"' :: (pieceChars key ++ '"' :: (left.1 ++ ':' ::
      (right.1 ++ (tree.chars ++ r))))) :
    ∃ q : Parser, q.remaining = r ∧
      (∀ q', q.skipWhitespace.next = (some ',', q') → parseEntries (fuel + 1) p entries =
        parseEntries fuel q'.skipWhitespace (entries ++ [(String.ofList cs, v)])) ∧
      ∀ q', q.skipWhitespace.next = (some '}', q') → parseEntries (fuel + 1) p entries =
        .ok (.object (entries ++ [(String.ofList cs, v)]), q') := by
  have hquote : p.skipWhitespace.remaining = _ := skipWhitespace_append hp (by
    intro d hd
    cases hd
    decide)
  obtain ⟨p₁, hp₁, hr₁⟩ := parseString_complete hkey hquote
  obtain ⟨p₂, hp₂, hr₂⟩ := skipWhitespace_next hr₁ (by decide)
  obtain ⟨q, hq, hr⟩ := hvalue _ (skipWhitespace_value hr₂)
  refine ⟨q, hr, fun q' hnext => ?_, fun q' hnext => ?_⟩
  all_goals
    rw [parseEntries]
    dsimp only
    rw [peek_of_remaining hquote, if_neg (not_not.2 rfl), hp₁, ok_bind]
    dsimp only
    rw [if_neg hnew, hp₂]
    dsimp only
    rw [if_neg (not_not.2 rfl), hq, ok_bind]
    dsimp only
    rw [hnext]
    rfl

mutual

theorem parseValue_complete (tree : Cst) {v : JsonValue} {fuel : Nat} {p : Parser} {r : List Char}
    (h : tree.value = some v) (hfuel : 2 * tree.chars.length < fuel)
    (hp : p.remaining = tree.chars ++ r) (hends : Ends r) :
    ∃ q, parseValue fuel p = .ok (v, q) ∧ q.remaining = r := by
  obtain ⟨fuel, rfl⟩ : ∃ n, fuel = n + 1 := ⟨fuel - 1, by omega⟩
  cases tree with
  | null =>
    cases h
    unfold parseValue
    rw [peek_of_remaining hp]
    exact parseLiteral_complete _ hp
  | true =>
    cases h
    unfold parseValue
    rw [peek_of_remaining hp]
    exact parseLiteral_complete _ hp
  | false =>
    cases h
    unfold parseValue
    rw [peek_of_remaining hp]
    exact parseLiteral_complete _ hp
  | number n =>
    rw [Cst.value, Option.map_eq_some_iff] at h
    obtain ⟨i, hi, rfl⟩ := h
    rw [Cst.chars] at hp
    obtain ⟨c, rest, hchars, hc⟩ := n.chars_eq_cons
    have hpeek : p.peek = some c := by
      rw [hchars] at hp
      exact peek_of_remaining hp
    rw [parseValue_number fuel hpeek hc]
    exact parseInteger_complete hi hp hends
  | string pieces =>
    rw [Cst.value, Option.map_eq_some_iff] at h
    obtain ⟨cs, hcs, rfl⟩ := h
    have hp : p.remaining = '"' :: (pieceChars pieces ++ '"' :: r) := by
      rw [hp]
      simp [Cst.chars]
    obtain ⟨q, hq, hr⟩ := parseString_complete hcs hp
    refine ⟨q, ?_, hr⟩
    unfold parseValue
    rw [peek_of_remaining hp]
    dsimp only
    rw [hq]
    rfl
  | emptyArray gap =>
    cases h
    have hp : p.remaining = '[' :: (gap.1 ++ ']' :: r) := by
      rw [hp]
      simp [Cst.chars]
    obtain ⟨p₁, hp₁, hr₁⟩ := next_of_remaining hp
    obtain ⟨q, hq, hr⟩ := skipWhitespace_next hr₁ (by decide)
    refine ⟨q, ?_, hr⟩
    rw [parseValue_array fuel hp₁, if_pos (peek_of_remaining (remaining_of_next hq)), hq]
  | emptyObject gap =>
    cases h
    have hp : p.remaining = '{' :: (gap.1 ++ '}' :: r) := by
      rw [hp]
      simp [Cst.chars]
    obtain ⟨p₁, hp₁, hr₁⟩ := next_of_remaining hp
    obtain ⟨q, hq, hr⟩ := skipWhitespace_next hr₁ (by decide)
    refine ⟨q, ?_, hr⟩
    rw [parseValue_object fuel hp₁, if_pos (peek_of_remaining (remaining_of_next hq)), hq]
  | array items =>
    rw [Cst.value, Option.map_eq_some_iff] at h
    obtain ⟨vs, hvs, rfl⟩ := h
    have hlength : (Cst.array items).chars.length = items.chars.length + 2 := by
      simp [Cst.chars]
    have hp : p.remaining = '[' :: (items.chars ++ ']' :: r) := by
      rw [hp]
      simp [Cst.chars]
    obtain ⟨p₁, hp₁, hr₁⟩ := next_of_remaining hp
    obtain ⟨q, hq, hr⟩ := parseItems_complete items [] hvs
      (show 2 * items.chars.length + 1 < fuel by omega) hr₁
    refine ⟨q, ?_, hr⟩
    have hopen : ¬ p₁.skipWhitespace.peek = some ']' := by
      obtain ⟨gap, tree, rest, hitems⟩ := items.chars_eq
      obtain ⟨c, cs, hchars, -, hc⟩ := tree.chars_eq_cons
      rw [hitems, List.append_assoc, List.append_assoc] at hr₁
      have hskip := skipWhitespace_value hr₁
      rw [hchars] at hskip
      rw [peek_of_remaining hskip]
      intro hclose
      exact hc (Option.some.inj hclose)
    rw [parseValue_array fuel hp₁, if_neg hopen]
    exact (parseItems_skip fuel p₁ []).2 hq
  | object members =>
    rw [Cst.value, Option.bind_eq_some_iff] at h
    obtain ⟨es, hes, h⟩ := h
    by_cases hnodup : (es.map Prod.fst).Nodup
    swap
    · rw [if_neg hnodup] at h
      cases h
    rw [if_pos hnodup] at h
    cases h
    have hlength : (Cst.object members).chars.length = members.chars.length + 2 := by
      simp [Cst.chars]
    have hp : p.remaining = '{' :: (members.chars ++ '}' :: r) := by
      rw [hp]
      simp [Cst.chars]
    obtain ⟨p₁, hp₁, hr₁⟩ := next_of_remaining hp
    obtain ⟨q, hq, hr⟩ := parseEntries_complete members [] hes (by simpa using hnodup)
      (show 2 * members.chars.length + 1 < fuel by omega) hr₁
    refine ⟨q, ?_, hr⟩
    have hopen : ¬ p₁.skipWhitespace.peek = some '}' := by
      obtain ⟨gap, rest, hmembers⟩ := members.chars_eq
      rw [hmembers, List.append_assoc] at hr₁
      obtain ⟨p₂, hp₂, -⟩ := skipWhitespace_next hr₁ (by decide)
      rw [peek_of_remaining (remaining_of_next hp₂)]
      decide
    rw [parseValue_object fuel hp₁, if_neg hopen]
    exact (parseEntries_skip fuel p₁ []).2 hq

theorem parseItems_complete (items : Items) {vs : List JsonValue} {fuel : Nat} {p : Parser}
    {r : List Char} (values : List JsonValue) (h : items.values = some vs)
    (hfuel : 2 * items.chars.length + 1 < fuel) (hp : p.remaining = items.chars ++ ']' :: r) :
    ∃ q, parseItems fuel p values = .ok (.array (values ++ vs), q) ∧ q.remaining = r := by
  obtain ⟨fuel, rfl⟩ : ∃ n, fuel = n + 1 := ⟨fuel - 1, by omega⟩
  cases items with
  | last before tree after =>
    rw [Items.values, Option.map_eq_some_iff] at h
    obtain ⟨v, hv, rfl⟩ := h
    have hp : p.remaining = before.1 ++ (tree.chars ++ (after.1 ++ ']' :: r)) := by
      rw [hp]
      simp [Items.chars]
    have hlength : tree.chars.length ≤ (Items.last before tree after).chars.length := by
      simp only [Items.chars, List.length_append]
      omega
    obtain ⟨p₁, hp₁, hr₁⟩ := parseValue_complete tree hv
      (show 2 * tree.chars.length < fuel by omega) (skipWhitespace_value hp)
      (after.ends r (by simp))
    obtain ⟨q, hq, hr⟩ := skipWhitespace_next hr₁ (by decide)
    refine ⟨q, ?_, hr⟩
    rw [parseItems, hp₁, ok_bind]
    dsimp only
    rw [hq]
    rfl
  | more before tree after rest =>
    rw [Items.values, Option.bind_eq_some_iff] at h
    obtain ⟨v, hv, h⟩ := h
    rw [Option.map_eq_some_iff] at h
    obtain ⟨vs, hvs, rfl⟩ := h
    have hp : p.remaining =
        before.1 ++ (tree.chars ++ (after.1 ++ ',' :: (rest.chars ++ ']' :: r))) := by
      rw [hp]
      simp [Items.chars]
    have hlength : tree.chars.length + rest.chars.length + 1 ≤
        (Items.more before tree after rest).chars.length := by
      simp only [Items.chars, List.length_append, List.length_cons]
      omega
    obtain ⟨p₁, hp₁, hr₁⟩ := parseValue_complete tree hv
      (show 2 * tree.chars.length < fuel by omega) (skipWhitespace_value hp)
      (after.ends _ (by simp))
    obtain ⟨p₂, hp₂, hr₂⟩ := skipWhitespace_next hr₁ (by decide)
    obtain ⟨q, hq, hr⟩ := parseItems_complete rest (values ++ [v]) hvs
      (show 2 * rest.chars.length + 1 < fuel by omega) hr₂
    refine ⟨q, ?_, hr⟩
    rw [parseItems, hp₁, ok_bind]
    dsimp only
    rw [hp₂]
    rw [List.append_assoc] at hq
    exact (parseItems_skip fuel p₂ _).2 hq

theorem parseEntries_complete (members : Members) {es : List (String × JsonValue)} {fuel : Nat}
    {p : Parser} {r : List Char} (entries : List (String × JsonValue))
    (h : members.entries = some es) (hnodup : ((entries ++ es).map Prod.fst).Nodup)
    (hfuel : 2 * members.chars.length + 1 < fuel) (hp : p.remaining = members.chars ++ '}' :: r) :
    ∃ q, parseEntries fuel p entries = .ok (.object (entries ++ es), q) ∧ q.remaining = r := by
  obtain ⟨fuel, rfl⟩ : ∃ n, fuel = n + 1 := ⟨fuel - 1, by omega⟩
  cases members with
  | last before key left right tree after =>
    rw [Members.entries, Option.bind_eq_some_iff] at h
    obtain ⟨cs, hcs, h⟩ := h
    rw [Option.map_eq_some_iff] at h
    obtain ⟨v, hv, rfl⟩ := h
    have hp : p.remaining = before.1 ++ '"' :: (pieceChars key ++ '"' :: (left.1 ++ ':' ::
        (right.1 ++ (tree.chars ++ (after.1 ++ '}' :: r))))) := by
      rw [hp]
      simp [Members.chars]
    have hlength : tree.chars.length ≤
        (Members.last before key left right tree after).chars.length := by
      simp only [Members.chars, List.length_append, List.length_cons]
      omega
    have hvalue : ∀ p₁ : Parser, p₁.remaining = tree.chars ++ (after.1 ++ '}' :: r) →
        ∃ q, parseValue fuel p₁ = .ok (v, q) ∧ q.remaining = after.1 ++ '}' :: r :=
      fun p₁ hp₁ => parseValue_complete tree hv (show 2 * tree.chars.length < fuel by omega) hp₁
        (after.ends r (by simp))
    obtain ⟨q₁, hr₁, -, hlast⟩ := parseEntries_member hcs (key_not_mem hnodup) hvalue hp
    obtain ⟨q, hq, hr⟩ := skipWhitespace_next hr₁ (by decide)
    exact ⟨q, hlast q hq, hr⟩
  | more before key left right tree after rest =>
    rw [Members.entries, Option.bind_eq_some_iff] at h
    obtain ⟨cs, hcs, h⟩ := h
    rw [Option.bind_eq_some_iff] at h
    obtain ⟨v, hv, h⟩ := h
    rw [Option.map_eq_some_iff] at h
    obtain ⟨es, hes, rfl⟩ := h
    have hp : p.remaining = before.1 ++ '"' :: (pieceChars key ++ '"' :: (left.1 ++ ':' ::
        (right.1 ++ (tree.chars ++ (after.1 ++ ',' :: (rest.chars ++ '}' :: r)))))) := by
      rw [hp]
      simp [Members.chars]
    have hlength : tree.chars.length + rest.chars.length + 1 ≤
        (Members.more before key left right tree after rest).chars.length := by
      simp only [Members.chars, List.length_append, List.length_cons]
      omega
    have hvalue : ∀ p₁ : Parser,
        p₁.remaining = tree.chars ++ (after.1 ++ ',' :: (rest.chars ++ '}' :: r)) →
        ∃ q, parseValue fuel p₁ = .ok (v, q) ∧
          q.remaining = after.1 ++ ',' :: (rest.chars ++ '}' :: r) :=
      fun p₁ hp₁ => parseValue_complete tree hv (show 2 * tree.chars.length < fuel by omega) hp₁
        (after.ends _ (by simp))
    obtain ⟨q₁, hr₁, hmore, -⟩ := parseEntries_member hcs (key_not_mem hnodup) hvalue hp
    obtain ⟨q₂, hq₂, hr₂⟩ := skipWhitespace_next hr₁ (by decide)
    obtain ⟨q, hq, hr⟩ := parseEntries_complete rest (entries ++ [(String.ofList cs, v)]) hes
      (by simpa using hnodup) (show 2 * rest.chars.length + 1 < fuel by omega) hr₂
    refine ⟨q, ?_, hr⟩
    rw [hmore q₂ hq₂]
    rw [List.append_assoc] at hq
    exact (parseEntries_skip fuel q₂ _).2 hq

end

/-- **Completeness.** -/
theorem parseJson_of_readsAs {input : String} {v : JsonValue} (h : ReadsAs input v) :
    parseJson input = .ok v := by
  obtain ⟨before, tree, after, hinput, htree⟩ := h
  have hstart : (⟨input.toList, 0⟩ : Parser).remaining = before.1 ++ (tree.chars ++ after.1) := by
    rw [← List.append_assoc]
    exact hinput
  have hlength : 2 * tree.chars.length < 2 * input.toList.length + 1 := by
    rw [hinput, List.length_append, List.length_append]
    omega
  have hends : Ends after.1 := fun c hc => .inl (after.2 c (List.mem_of_mem_head? hc))
  obtain ⟨p, hp, hr⟩ := parseValue_complete tree htree hlength (skipWhitespace_value hstart) hends
  have hrest : p.skipWhitespace.remaining = [] :=
    skipWhitespace_append (by rw [hr, List.append_nil]) (by simp)
  unfold parseJson
  dsimp only
  rw [hp, ok_bind]
  dsimp only
  rw [if_neg (not_not.2 hrest)]

/-- **Main result.** Acceptance is exact: the parser accepts the texts of the grammar that have a
value in the crate's subset and nothing else, and returns that value. -/
theorem parseJson_eq_ok_iff {input : String} {v : JsonValue} :
    parseJson input = .ok v ↔ ReadsAs input v :=
  ⟨readsAs_of_parseJson, parseJson_of_readsAs⟩

end Vibapp.Protocol
