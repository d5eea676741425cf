import Mathlib.Data.List.Sort
import Mathlib.Data.String.Basic
import Mathlib.Tactic.IntervalCases

/-!
# JSON text, as Python's `json.dumps` writes it

Values and the text `json.dumps(value, ensure_ascii=False, sort_keys=True,
separators=(",", ":"))` gives for them. The text is `chars` of the value with the members of
every object sorted by key (`sortKeys`).

**Main results.** `chars_inj`: the text determines the value, member order included, because a
value's text followed by a delimiter can be read in one way only. `dumps_eq_iff`: two values
have the same sorted text exactly when they agree up to the order of members, which is equality
of Python dictionaries.
-/

namespace Vibapp

/-- The text of a finite Python float: digits, sign, point and exponent, and at least one of
the two characters that no integer has. -/
structure FloatText where
  text : List Char
  chars : ∀ c ∈ text, c ∈ "0123456789.e+-".toList
  float : '.' ∈ text ∨ 'e' ∈ text
deriving DecidableEq

/-- A JSON value. Members keep their order; `sortKeys` forgets it. -/
inductive Json
  | null
  | bool (b : Bool)
  | int (n : Int)
  | float (x : FloatText)
  | str (s : String)
  | arr (items : List Json)
  | obj (members : List (String × Json))

namespace Json

/-- `value is None`. -/
def isNull : Json → Bool
  | .null => true
  | _ => false

/-! ## Text -/

/-- Lower-case hexadecimal digit. -/
def hexDigit (n : Nat) : Char := "0123456789abcdef".toList.getD n '0'

/-- One character inside a string literal. -/
def escape (c : Char) : List Char :=
  if c = '"' then ['\\', '"']
  else if c = '\\' then ['\\', '\\']
  else if c = '\n' then ['\\', 'n']
  else if c = '\r' then ['\\', 'r']
  else if c = '\t' then ['\\', 't']
  else if c.toNat = 8 then ['\\', 'b']
  else if c.toNat = 12 then ['\\', 'f']
  else if c.toNat < 32 then
    ['\\', 'u', '0', '0', hexDigit (c.toNat / 16), hexDigit (c.toNat % 16)]
  else [c]

/-- The characters of a string literal after its opening quote. -/
def quoteTail : List Char → List Char
  | [] => ['"']
  | c :: rest => escape c ++ quoteTail rest

/-- A string literal. -/
def quote (s : String) : List Char := '"' :: quoteTail s.toList

/-- A decimal integer. -/
def intChars : Int → List Char
  | .ofNat n => Nat.toDigits 10 n
  | .negSucc n => '-' :: Nat.toDigits 10 (n + 1)

mutual

/-- The text of a value, its members in the order they stand in. -/
def chars : Json → List Char
  | null => ['n', 'u', 'l', 'l']
  | bool true => ['t', 'r', 'u', 'e']
  | bool false => ['f', 'a', 'l', 's', 'e']
  | int n => intChars n
  | float x => x.text
  | str s => quote s
  | arr [] => ['[', ']']
  | arr (x :: rest) => '[' :: (chars x ++ itemsTail rest)
  | obj [] => ['{', '}']
  | obj ((k, x) :: rest) => '{' :: (quote k ++ ':' :: (chars x ++ membersTail rest))

/-- What follows an item: the next ones after commas, then the bracket. -/
def itemsTail : List Json → List Char
  | [] => [']']
  | x :: rest => ',' :: (chars x ++ itemsTail rest)

/-- What follows a member: the next ones after commas, then the brace. -/
def membersTail : List (String × Json) → List Char
  | [] => ['}']
  | (k, x) :: rest => ',' :: (quote k ++ ':' :: (chars x ++ membersTail rest))

end

mutual

/-- The value with the members of every object sorted by key. -/
def sortKeys : Json → Json
  | null => null
  | bool b => bool b
  | int n => int n
  | float x => float x
  | str s => str s
  | arr xs => arr (sortItems xs)
  | obj ms => obj ((sortMembers ms).insertionSort fun p q => p.1 ≤ q.1)

/-- `sortKeys` of each item. -/
def sortItems : List Json → List Json
  | [] => []
  | x :: rest => sortKeys x :: sortItems rest

/-- `sortKeys` of each member's value. -/
def sortMembers : List (String × Json) → List (String × Json)
  | [] => []
  | (k, x) :: rest => (k, sortKeys x) :: sortMembers rest

end

/-- `json.dumps(value, ensure_ascii=False, sort_keys=True, separators=(",", ":"))`. -/
def dumps (v : Json) : String := String.ofList (chars (sortKeys v))

/-- `value[k]` of an object. -/
def get? : Json → String → Option Json
  | obj ms, k => ms.lookup k
  | _, _ => none

/-! ## String literals are prefix codes -/

/-- The value of a lower-case hexadecimal digit. -/
def hexVal (c : Char) : Nat := "0123456789abcdef".toList.idxOf c

/-- Read one escaped character back. -/
def unescape : List Char → Char × List Char
  | '\\' :: '"' :: r => ('"', r)
  | '\\' :: '\\' :: r => ('\\', r)
  | '\\' :: 'n' :: r => ('\n', r)
  | '\\' :: 'r' :: r => ('\r', r)
  | '\\' :: 't' :: r => ('\t', r)
  | '\\' :: 'b' :: r => (Char.ofNat 8, r)
  | '\\' :: 'f' :: r => (Char.ofNat 12, r)
  | '\\' :: 'u' :: _ :: _ :: h :: l :: r => (Char.ofNat (16 * hexVal h + hexVal l), r)
  | c :: r => (c, r)
  | [] => ('"', [])

theorem hexVal_hexDigit {n : Nat} (h : n < 16) : hexVal (hexDigit n) = n := by
  have key : ∀ a < 16, hexVal (hexDigit a) = a := by decide
  exact key n h

theorem unescape_of_ne {c : Char} (h : c ≠ '\\') (r : List Char) : unescape (c :: r) = (c, r) := by
  unfold unescape
  split <;> simp_all

theorem unescape_escape (c : Char) (r : List Char) : unescape (escape c ++ r) = (c, r) := by
  have hchar : ∀ n, c.toNat = n → Char.ofNat n = c := by
    rintro n rfl
    exact Char.ofNat_toNat c
  unfold escape
  split_ifs with hq hb hn hr ht h8 h12 hctl
  · rw [hq]; rfl
  · rw [hb]; rfl
  · rw [hn]; rfl
  · rw [hr]; rfl
  · rw [ht]; rfl
  · exact congrArg (·, r) (hchar 8 h8)
  · exact congrArg (·, r) (hchar 12 h12)
  · show (Char.ofNat _, r) = (c, r)
    rw [hexVal_hexDigit (by omega), hexVal_hexDigit (by omega)]
    exact congrArg (·, r) (hchar _ (by omega))
  · exact unescape_of_ne hb r

/-- Two escaped characters that start one text are the same. -/
theorem escape_append_inj {c d : Char} {r s : List Char} (h : escape c ++ r = escape d ++ s) :
    c = d ∧ r = s := by
  have hcd := congrArg unescape h
  rw [unescape_escape, unescape_escape] at hcd
  exact Prod.mk.inj hcd

/-- An escaped character never starts with a bare quote. -/
theorem escape_ne_quote (c : Char) (r s : List Char) : escape c ++ r ≠ '"' :: s := by
  intro h
  unfold escape at h
  split_ifs at h with hq <;> simp_all

theorem quoteTail_append_inj {a b r s : List Char}
    (h : quoteTail a ++ r = quoteTail b ++ s) : a = b ∧ r = s := by
  induction a generalizing b with
  | nil =>
    cases b with
    | nil => exact ⟨rfl, by simpa [quoteTail] using h⟩
    | cons d b =>
      rw [quoteTail, quoteTail, List.append_assoc, List.singleton_append] at h
      exact absurd h.symm (escape_ne_quote d _ _)
  | cons c a ih =>
    cases b with
    | nil =>
      rw [quoteTail, quoteTail, List.append_assoc, List.singleton_append] at h
      exact absurd h (escape_ne_quote c _ _)
    | cons d b =>
      rw [quoteTail, quoteTail, List.append_assoc, List.append_assoc] at h
      obtain ⟨hcd, hrest⟩ := escape_append_inj h
      obtain ⟨hab, hrs⟩ := ih hrest
      exact ⟨by rw [hcd, hab], hrs⟩

theorem quote_append_inj {a b : String} {r s : List Char} (h : quote a ++ r = quote b ++ s) :
    a = b ∧ r = s := by
  obtain ⟨hab, h⟩ := quoteTail_append_inj (List.cons.inj h).2
  exact ⟨String.toList_injective hab, h⟩

/-! ## Numbers are read up to the next delimiter -/

/-- The characters of a number. -/
def isNumChar (c : Char) : Bool := "0123456789.e+-".toList.contains c

/-- The rest of a text after a value: nothing, or a comma or a closing bracket. -/
def Delimited (r : List Char) : Prop := ∀ c ∈ r.head?, c = ',' ∨ c = ']' ∨ c = '}'

theorem takeWhile_isNumChar {l r : List Char} (hl : ∀ c ∈ l, isNumChar c = true)
    (hr : Delimited r) : (l ++ r).takeWhile isNumChar = l := by
  have hnil : r.takeWhile isNumChar = [] := by
    cases r with
    | nil => rfl
    | cons c r =>
      have hc : isNumChar c = false := by
        rcases hr c rfl with rfl | rfl | rfl <;> rfl
      simp [hc]
  rw [List.takeWhile_append_of_pos hl, hnil, List.append_nil]

theorem num_append_inj {a b r s : List Char} (ha : ∀ c ∈ a, isNumChar c = true)
    (hb : ∀ c ∈ b, isNumChar c = true) (hr : Delimited r) (hs : Delimited s)
    (h : a ++ r = b ++ s) : a = b ∧ r = s := by
  have hab : a = b := by rw [← takeWhile_isNumChar ha hr, h, takeWhile_isNumChar hb hs]
  subst hab
  exact ⟨rfl, List.append_cancel_left h⟩

theorem mem_digits {n : Nat} {c : Char} (h : c ∈ Nat.toDigits 10 n) :
    c ∈ "0123456789".toList := by
  have hd := Nat.isDigit_of_mem_toDigits (by decide) (by decide) h
  simp only [Char.isDigit, Bool.and_eq_true, decide_eq_true_eq] at hd
  have h1 : 48 ≤ c.toNat := hd.1
  have h2 : c.toNat ≤ 57 := hd.2
  have hc : c = Char.ofNat c.toNat := (Char.ofNat_toNat c).symm
  rw [hc]
  generalize c.toNat = k at h1 h2
  interval_cases k <;> decide

theorem mem_intChars {n : Int} {c : Char} (h : c ∈ intChars n) : c ∈ "-0123456789".toList := by
  cases n with
  | ofNat n => exact List.mem_cons_of_mem _ (mem_digits h)
  | negSucc n =>
    rcases List.mem_cons.1 h with rfl | h
    · decide
    · exact List.mem_cons_of_mem _ (mem_digits h)

theorem isNumChar_of_mem_intChars {n : Int} : ∀ c ∈ intChars n, isNumChar c = true := by
  intro c hc
  have key : "-0123456789".toList.all isNumChar = true := by decide
  exact List.all_eq_true.1 key c (mem_intChars hc)

theorem isNumChar_of_mem_float (x : FloatText) : ∀ c ∈ x.text, isNumChar c = true :=
  fun c hc => List.contains_iff_mem.2 (x.chars c hc)

theorem toDigits_inj {m n : Nat} (h : Nat.toDigits 10 m = Nat.toDigits 10 n) : m = n := by
  have := congrArg (fun l => Nat.ofDigitChars 10 l 0) h
  simpa [Nat.ofDigitChars_ten_toDigits] using this

theorem intChars_inj {m n : Int} (h : intChars m = intChars n) : m = n := by
  have hminus : ∀ a b : Nat, Nat.toDigits 10 a ≠ '-' :: Nat.toDigits 10 b := by
    intro a b hab
    have hm : '-' ∈ Nat.toDigits 10 a := hab ▸ List.mem_cons_self
    exact absurd (mem_digits hm) (by decide)
  cases m with
  | ofNat m =>
    cases n with
    | ofNat n => exact congrArg Int.ofNat (toDigits_inj h)
    | negSucc n => exact absurd h (hminus _ _)
  | negSucc m =>
    cases n with
    | ofNat n => exact absurd h.symm (hminus _ _)
    | negSucc n =>
      have := toDigits_inj (List.cons.inj h).2
      exact congrArg Int.negSucc (by omega)

theorem intChars_ne_float (n : Int) (x : FloatText) : intChars n ≠ x.text := by
  intro h
  rcases x.float with hx | hx
  · exact absurd (mem_intChars (h ▸ hx)) (by decide)
  · exact absurd (mem_intChars (h ▸ hx)) (by decide)

/-! ## The text determines the value -/

/-- The sort of value a text starts with, told by its first character. -/
def headKind (c : Char) : Nat :=
  if c = 'n' then 0 else if c = 't' ∨ c = 'f' then 1 else if c = '"' then 2
  else if c = '[' then 3 else if c = '{' then 4 else if isNumChar c then 5 else 6

/-- The sort of a value's text. Integers and floats share one. -/
def kind : Json → Nat
  | null => 0
  | bool _ => 1
  | str _ => 2
  | arr _ => 3
  | obj _ => 4
  | int _ | float _ => 5

theorem head_num {l : List Char} (hne : l ≠ []) (hl : ∀ c ∈ l, isNumChar c = true) :
    ∃ c rest, l = c :: rest ∧ headKind c = 5 := by
  obtain ⟨c, rest, rfl⟩ := List.exists_cons_of_ne_nil hne
  have key : ("0123456789.e+-".toList.all fun d => headKind d = 5) = true := by decide
  have hc := List.all_eq_true.1 key c (List.contains_iff_mem.1 (hl c List.mem_cons_self))
  exact ⟨c, rest, rfl, of_decide_eq_true hc⟩

theorem chars_head (v : Json) : ∃ c rest, chars v = c :: rest ∧ headKind c = kind v := by
  cases v with
  | null => exact ⟨_, _, by rw [chars], rfl⟩
  | bool b => cases b <;> exact ⟨_, _, by rw [chars], rfl⟩
  | str s => exact ⟨'"', quoteTail s.toList, by rw [chars, quote], rfl⟩
  | arr xs => cases xs <;> exact ⟨_, _, by rw [chars], rfl⟩
  | obj ms =>
    cases ms with
    | nil => exact ⟨_, _, by rw [chars], rfl⟩
    | cons p rest => exact ⟨_, _, by rw [chars], rfl⟩
  | int n =>
    have hne : intChars n ≠ [] := by
      cases n with
      | ofNat n => exact Nat.toDigits_ne_nil
      | negSucc n => exact List.cons_ne_nil _ _
    obtain ⟨c, rest, hl, hc⟩ := head_num hne isNumChar_of_mem_intChars
    exact ⟨c, rest, by rw [chars, hl], hc⟩
  | float x =>
    have hne : x.text ≠ [] := by
      rcases x.float with h | h <;> exact List.ne_nil_of_mem h
    obtain ⟨c, rest, hl, hc⟩ := head_num hne (isNumChar_of_mem_float x)
    exact ⟨c, rest, by rw [chars, hl], hc⟩

theorem kind_eq {v w : Json} {r s : List Char} (h : chars v ++ r = chars w ++ s) :
    kind v = kind w := by
  obtain ⟨c, l, hv, hc⟩ := chars_head v
  obtain ⟨d, m, hw, hd⟩ := chars_head w
  rw [hv, hw, List.cons_append, List.cons_append] at h
  rw [← hc, ← hd, (List.cons.inj h).1]

theorem chars_append_ne_bracket (v : Json) (r s : List Char) : chars v ++ r ≠ ']' :: s := by
  obtain ⟨c, l, hv, hc⟩ := chars_head v
  rw [hv, List.cons_append]
  intro h
  have hle : kind v ≤ 5 := by cases v <;> simp [kind]
  have h6 : headKind ']' = 6 := rfl
  rw [(List.cons.inj h).1, h6] at hc
  omega

theorem delimited_itemsTail (xs : List Json) (r : List Char) : Delimited (itemsTail xs ++ r) := by
  intro c hc
  cases xs with
  | nil => rw [itemsTail] at hc; exact Or.inr (Or.inl (Option.some.inj hc).symm)
  | cons x xs => rw [itemsTail] at hc; exact Or.inl (Option.some.inj hc).symm

theorem delimited_membersTail (ms : List (String × Json)) (r : List Char) :
    Delimited (membersTail ms ++ r) := by
  intro c hc
  cases ms with
  | nil => rw [membersTail] at hc; exact Or.inr (Or.inr (Option.some.inj hc).symm)
  | cons p ms => rw [membersTail] at hc; exact Or.inl (Option.some.inj hc).symm

mutual

/-- **Unique reading.** Two values whose texts, each followed by a delimiter or nothing, start
one text are the same value, and so are the rests. -/
theorem chars_append_inj : ∀ (v w : Json) {r s : List Char}, Delimited r → Delimited s →
    chars v ++ r = chars w ++ s → v = w ∧ r = s
  | null, w, r, s, _, _, h => by
    have hk := kind_eq h
    cases w with
    | null => exact ⟨rfl, List.append_cancel_left h⟩
    | _ => simp [kind] at hk
  | bool b, w, r, s, _, _, h => by
    have hk := kind_eq h
    cases w with
    | bool b' =>
      have hb : b = b' := by cases b <;> cases b' <;> simp [chars] at h ⊢
      subst hb
      exact ⟨rfl, List.append_cancel_left h⟩
    | _ => simp [kind] at hk
  | int n, w, r, s, hr, hs, h => by
    have hk := kind_eq h
    cases w with
    | int m =>
      simp only [chars] at h
      obtain ⟨hn, hrs⟩ := num_append_inj isNumChar_of_mem_intChars isNumChar_of_mem_intChars hr hs h
      exact ⟨by rw [intChars_inj hn], hrs⟩
    | float x =>
      simp only [chars] at h
      exact absurd (num_append_inj isNumChar_of_mem_intChars (isNumChar_of_mem_float x) hr hs h).1
        (intChars_ne_float n x)
    | _ => simp [kind] at hk
  | float x, w, r, s, hr, hs, h => by
    have hk := kind_eq h
    cases w with
    | int m =>
      simp only [chars] at h
      exact absurd
        (num_append_inj (isNumChar_of_mem_float x) isNumChar_of_mem_intChars hr hs h).1.symm
        (intChars_ne_float m x)
    | float y =>
      simp only [chars] at h
      obtain ⟨hxy, hrs⟩ :=
        num_append_inj (isNumChar_of_mem_float x) (isNumChar_of_mem_float y) hr hs h
      exact ⟨by cases x; cases y; cases hxy; rfl, hrs⟩
    | _ => simp [kind] at hk
  | str a, w, r, s, _, _, h => by
    have hk := kind_eq h
    cases w with
    | str b =>
      simp only [chars] at h
      obtain ⟨hab, hrs⟩ := quote_append_inj h
      exact ⟨by rw [hab], hrs⟩
    | _ => simp [kind] at hk
  | arr [], w, r, s, _, _, h => by
    have hk := kind_eq h
    cases w with
    | arr ys =>
      cases ys with
      | nil => exact ⟨rfl, List.append_cancel_left h⟩
      | cons y ys =>
        simp only [chars, List.cons_append, List.append_assoc, List.cons.injEq, true_and] at h
        exact absurd h.symm (chars_append_ne_bracket y _ _)
    | _ => simp [kind] at hk
  | arr (x :: xs), w, r, s, _, _, h => by
    have hk := kind_eq h
    cases w with
    | arr ys =>
      cases ys with
      | nil =>
        simp only [chars, List.cons_append, List.append_assoc, List.cons.injEq, true_and] at h
        exact absurd h (chars_append_ne_bracket x _ _)
      | cons y ys =>
        simp only [chars, List.cons_append, List.append_assoc, List.cons.injEq, true_and] at h
        obtain ⟨hxy, hrest⟩ := chars_append_inj x y (delimited_itemsTail xs r)
          (delimited_itemsTail ys s) h
        obtain ⟨hxs, hrs⟩ := itemsTail_append_inj xs ys hrest
        exact ⟨by rw [hxy, hxs], hrs⟩
    | _ => simp [kind] at hk
  | obj [], w, r, s, _, _, h => by
    have hk := kind_eq h
    cases w with
    | obj ns =>
      cases ns with
      | nil => exact ⟨rfl, List.append_cancel_left h⟩
      | cons q ns => simp [chars, quote] at h
    | _ => simp [kind] at hk
  | obj ((k, x) :: ms), w, r, s, _, _, h => by
    have hk := kind_eq h
    cases w with
    | obj ns =>
      cases ns with
      | nil => simp [chars, quote] at h
      | cons q ns =>
        obtain ⟨k', y⟩ := q
        simp only [chars, List.cons_append, List.append_assoc, List.cons.injEq, true_and] at h
        obtain ⟨hkk, h⟩ := quote_append_inj h
        obtain ⟨hxy, hrest⟩ := chars_append_inj x y (delimited_membersTail ms r)
          (delimited_membersTail ns s) (List.cons.inj h).2
        obtain ⟨hms, hrs⟩ := membersTail_append_inj ms ns hrest
        exact ⟨by rw [hkk, hxy, hms], hrs⟩
    | _ => simp [kind] at hk

theorem itemsTail_append_inj : ∀ (xs ys : List Json) {r s : List Char},
    itemsTail xs ++ r = itemsTail ys ++ s → xs = ys ∧ r = s
  | [], ys, r, s, h => by
    cases ys with
    | nil => exact ⟨rfl, List.append_cancel_left h⟩
    | cons y ys => simp [itemsTail] at h
  | x :: xs, ys, r, s, h => by
    cases ys with
    | nil => simp [itemsTail] at h
    | cons y ys =>
      simp only [itemsTail, List.cons_append, List.append_assoc, List.cons.injEq, true_and] at h
      obtain ⟨hxy, hrest⟩ := chars_append_inj x y (delimited_itemsTail xs r)
        (delimited_itemsTail ys s) h
      obtain ⟨hxs, hrs⟩ := itemsTail_append_inj xs ys hrest
      exact ⟨by rw [hxy, hxs], hrs⟩

theorem membersTail_append_inj : ∀ (ms ns : List (String × Json)) {r s : List Char},
    membersTail ms ++ r = membersTail ns ++ s → ms = ns ∧ r = s
  | [], ns, r, s, h => by
    cases ns with
    | nil => exact ⟨rfl, List.append_cancel_left h⟩
    | cons q ns => simp [membersTail] at h
  | (k, x) :: ms, ns, r, s, h => by
    cases ns with
    | nil => simp [membersTail] at h
    | cons q ns =>
      obtain ⟨k', y⟩ := q
      simp only [membersTail, List.cons_append, List.append_assoc, List.cons.injEq,
        true_and] at h
      obtain ⟨hkk, h⟩ := quote_append_inj h
      obtain ⟨hxy, hrest⟩ := chars_append_inj x y (delimited_membersTail ms r)
        (delimited_membersTail ns s) (List.cons.inj h).2
      obtain ⟨hms, hrs⟩ := membersTail_append_inj ms ns hrest
      exact ⟨by rw [hkk, hxy, hms], hrs⟩

end

/-- **The text determines the value**, member order included. -/
theorem chars_inj {v w : Json} (h : chars v = chars w) : v = w :=
  (chars_append_inj v w (r := []) (s := []) (by simp [Delimited]) (by simp [Delimited])
    (by simpa using h)).1

/-- Two values have one sorted text exactly when they agree up to the order of members. -/
theorem dumps_eq_iff {v w : Json} : dumps v = dumps w ↔ sortKeys v = sortKeys w :=
  ⟨fun h => chars_inj (String.ofList_injective h), fun h => by rw [dumps, h, dumps]⟩

/-! ## Length in bytes -/

/-- The number of UTF-8 bytes of a text. -/
def utf8Len (l : List Char) : Nat := (l.map Char.utf8Size).sum

@[simp] theorem utf8Len_nil : utf8Len [] = 0 := rfl

@[simp] theorem utf8Len_cons (c : Char) (l : List Char) :
    utf8Len (c :: l) = c.utf8Size + utf8Len l := by
  simp [utf8Len]

@[simp] theorem utf8Len_append (l m : List Char) : utf8Len (l ++ m) = utf8Len l + utf8Len m := by
  simp [utf8Len]

/-- The number of bytes of a value's text. -/
def size (v : Json) : Nat := utf8Len (chars v)

/-- The number of bytes a member takes: its key, the colon, its value. -/
def memberSize (p : String × Json) : Nat := utf8Len (quote p.1) + 1 + size p.2

theorem utf8Len_itemsTail (xs : List Json) :
    utf8Len (itemsTail xs) = (xs.map fun x => 1 + size x).sum + 1 := by
  induction xs with
  | nil => rfl
  | cons x xs ih =>
    have hc : Char.utf8Size ',' = 1 := rfl
    simp only [itemsTail, utf8Len_cons, utf8Len_append, ih, List.map_cons, List.sum_cons, size, hc]
    omega

theorem utf8Len_membersTail (ms : List (String × Json)) :
    utf8Len (membersTail ms) = (ms.map fun p => 1 + memberSize p).sum + 1 := by
  induction ms with
  | nil => rfl
  | cons p ms ih =>
    obtain ⟨k, x⟩ := p
    have hc : Char.utf8Size ',' = 1 := rfl
    have hd : Char.utf8Size ':' = 1 := rfl
    simp only [membersTail, utf8Len_cons, utf8Len_append, ih, List.map_cons, List.sum_cons,
      memberSize, size, hc, hd]
    omega

theorem size_arr (xs : List Json) :
    size (arr xs) = (xs.map fun x => 1 + size x).sum + (if xs = [] then 2 else 1) := by
  cases xs with
  | nil => rfl
  | cons x xs =>
    have hc : Char.utf8Size '[' = 1 := rfl
    rw [size, chars, utf8Len_cons, utf8Len_append, utf8Len_itemsTail, if_neg (List.cons_ne_nil x xs),
      List.map_cons, List.sum_cons, hc, size]
    omega

theorem size_obj (ms : List (String × Json)) :
    size (obj ms) = (ms.map fun p => 1 + memberSize p).sum + (if ms = [] then 2 else 1) := by
  cases ms with
  | nil => rfl
  | cons p ms =>
    obtain ⟨k, x⟩ := p
    have hc : Char.utf8Size '\x7b' = 1 := rfl
    have hd : Char.utf8Size ':' = 1 := rfl
    rw [size, chars, utf8Len_cons, utf8Len_append, utf8Len_cons, utf8Len_append,
      utf8Len_membersTail, if_neg (List.cons_ne_nil _ ms), List.map_cons, List.sum_cons, hc, hd]
    simp only [memberSize, size]
    omega

mutual

/-- Sorting members moves bytes around and changes their number nowhere. -/
theorem size_sortKeys : ∀ v : Json, size (sortKeys v) = size v
  | null | bool _ | int _ | float _ | str _ => by simp [sortKeys]
  | arr xs => by
    rw [sortKeys, size_arr, size_arr, sizes_sortItems xs]
    cases xs <;> simp [sortItems]
  | obj ms => by
    rw [sortKeys, size_obj, size_obj,
      ((List.perm_insertionSort (fun p q : String × Json => p.1 ≤ q.1) (sortMembers ms)).map
        fun p => 1 + memberSize p).sum_nat, sizes_sortMembers ms]
    have hnil : (sortMembers ms).insertionSort (fun p q => p.1 ≤ q.1) = [] ↔ ms = [] := by
      rw [← List.length_eq_zero_iff, List.length_insertionSort, List.length_eq_zero_iff]
      cases ms <;> simp [sortMembers]
    simp only [hnil]

theorem sizes_sortItems : ∀ xs : List Json,
    ((sortItems xs).map fun x => 1 + size x).sum = (xs.map fun x => 1 + size x).sum
  | [] => rfl
  | x :: xs => by
    rw [sortItems, List.map_cons, List.map_cons, List.sum_cons, List.sum_cons, size_sortKeys x,
      sizes_sortItems xs]

theorem sizes_sortMembers : ∀ ms : List (String × Json),
    ((sortMembers ms).map fun p => 1 + memberSize p).sum = (ms.map fun p => 1 + memberSize p).sum
  | [] => rfl
  | (k, x) :: ms => by
    rw [sortMembers, List.map_cons, List.map_cons, List.sum_cons, List.sum_cons, memberSize,
      memberSize, size_sortKeys x, sizes_sortMembers ms]

end

theorem utf8ByteSize_ofList (l : List Char) : (String.ofList l).utf8ByteSize = utf8Len l := by
  induction l with
  | nil => rfl
  | cons c l ih =>
    rw [← List.singleton_append, String.ofList_append, String.utf8ByteSize_append, ih,
      ← String.singleton_eq_ofList, String.utf8ByteSize_singleton, utf8Len_append]
    simp

/-- `len(json.dumps(value, ...).encode("utf-8"))` is additive over the value. -/
theorem utf8ByteSize_dumps (v : Json) : (dumps v).utf8ByteSize = size v := by
  rw [dumps, utf8ByteSize_ofList, ← size_sortKeys v, size]

/-! ## A bound on the length

Cheap to evaluate: it reads of a text only its number of bytes. -/

mutual

/-- No value's text is longer. -/
def bound : Json → Nat
  | null => 4
  | bool _ => 5
  | int n => n.natAbs + 2
  | float x => utf8Len x.text
  | str s => 2 + 6 * s.utf8ByteSize
  | arr xs => 2 + boundItems xs
  | obj ms => 2 + boundMembers ms

def boundItems : List Json → Nat
  | [] => 0
  | x :: rest => 1 + bound x + boundItems rest

def boundMembers : List (String × Json) → Nat
  | [] => 0
  | (k, x) :: rest => 4 + 6 * k.utf8ByteSize + bound x + boundMembers rest

end

theorem utf8Len_ascii {l : List Char} (h : ∀ c ∈ l, c.utf8Size = 1) : utf8Len l = l.length := by
  induction l with
  | nil => rfl
  | cons c l ih =>
    rw [utf8Len_cons, h c List.mem_cons_self, ih fun d hd => h d (List.mem_cons_of_mem c hd),
      List.length_cons, Nat.add_comm]

theorem utf8Size_hexDigit {n : Nat} (h : n < 16) : (hexDigit n).utf8Size = 1 := by
  interval_cases n <;> rfl

theorem utf8Len_escape_le (c : Char) : utf8Len (escape c) ≤ 6 * c.utf8Size := by
  have hpos := c.utf8Size_pos
  have two : ∀ d : Char, d.utf8Size = 1 → utf8Len ['\\', d] ≤ 6 * c.utf8Size := fun d hd => by
    have hb : Char.utf8Size '\\' = 1 := rfl
    simp only [utf8Len_cons, utf8Len_nil, hb, hd]
    omega
  unfold escape
  split
  · exact two '"' rfl
  split
  · exact two '\\' rfl
  split
  · exact two 'n' rfl
  split
  · exact two 'r' rfl
  split
  · exact two 't' rfl
  split
  · exact two 'b' rfl
  split
  · exact two 'f' rfl
  split
  · rename_i h
    have hb : Char.utf8Size '\\' = 1 := rfl
    have hu : Char.utf8Size 'u' = 1 := rfl
    have hz : Char.utf8Size '0' = 1 := rfl
    simp only [utf8Len_cons, utf8Len_nil, hb, hu, hz, utf8Size_hexDigit (show c.toNat / 16 < 16 by omega),
      utf8Size_hexDigit (show c.toNat % 16 < 16 by omega)]
    omega
  · rw [utf8Len_cons, utf8Len_nil]
    omega

theorem utf8Len_quote_le (s : String) : utf8Len (quote s) ≤ 2 + 6 * s.utf8ByteSize := by
  have hlen : s.utf8ByteSize = utf8Len s.toList := by
    rw [← utf8ByteSize_ofList, String.ofList_toList]
  have htail : ∀ l : List Char, utf8Len (quoteTail l) ≤ 1 + 6 * utf8Len l := fun l => by
    induction l with
    | nil => exact Nat.le_refl 1
    | cons c l ih =>
      have hc := utf8Len_escape_le c
      rw [quoteTail, utf8Len_append, utf8Len_cons]
      omega
  have h := htail s.toList
  have hq : Char.utf8Size '"' = 1 := rfl
  rw [quote, utf8Len_cons, hq, hlen]
  omega

theorem utf8Len_toDigits_le (n : Nat) : utf8Len (Nat.toDigits 10 n) ≤ n + 1 := by
  rw [utf8Len_ascii fun c hc => ?_]
  · exact (Nat.length_toDigits_le_iff (by decide) (Nat.succ_pos n)).2
      (Nat.lt_trans (Nat.lt_succ_self n) (Nat.lt_pow_self (by decide)))
  · have hd := Nat.isDigit_of_mem_toDigits (by decide) (by decide) hc
    simp only [Char.isDigit, Bool.and_eq_true, decide_eq_true_eq] at hd
    exact Char.utf8Size_eq_one_iff.2 (UInt32.le_trans hd.2 (by decide))

theorem utf8Len_intChars_le (n : Int) : utf8Len (intChars n) ≤ n.natAbs + 2 := by
  cases n with
  | ofNat n =>
    have h := utf8Len_toDigits_le n
    simp only [intChars, Int.ofNat_eq_natCast, Int.natAbs_natCast]
    omega
  | negSucc n =>
    have h := utf8Len_toDigits_le (n + 1)
    have hm : Char.utf8Size '-' = 1 := rfl
    rw [intChars, utf8Len_cons, hm, Int.natAbs_negSucc]
    omega

mutual

theorem size_le_bound : ∀ v : Json, size v ≤ bound v
  | null => Nat.le_refl 4
  | bool true => by decide
  | bool false => by decide
  | int n => utf8Len_intChars_le n
  | float _ => Nat.le_refl _
  | str s => utf8Len_quote_le s
  | arr xs => by
    have h := sizes_le_boundItems xs
    rw [size_arr, bound]
    split <;> omega
  | obj ms => by
    have h := sizes_le_boundMembers ms
    rw [size_obj, bound]
    split <;> omega

theorem sizes_le_boundItems : ∀ xs : List Json, (xs.map fun x => 1 + size x).sum ≤ boundItems xs
  | [] => Nat.le_refl 0
  | x :: rest => by
    have hx := size_le_bound x
    have hr := sizes_le_boundItems rest
    rw [List.map_cons, List.sum_cons, boundItems]
    omega

theorem sizes_le_boundMembers : ∀ ms : List (String × Json),
    (ms.map fun p => 1 + memberSize p).sum ≤ boundMembers ms
  | [] => Nat.le_refl 0
  | (k, x) :: rest => by
    have hx := size_le_bound x
    have hk := utf8Len_quote_le k
    have hr := sizes_le_boundMembers rest
    simp only [List.map_cons, List.sum_cons, boundMembers, memberSize] at hr ⊢
    omega

end

end Json

end Vibapp
