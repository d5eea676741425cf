import Vibapp.Lib.Json

/-!
# Lengths of JSON texts

Bounds for the text of a value in terms of its parts. A text of plain characters (printable, and none
that is escaped) takes its length and two quotes.
-/

namespace Vibapp.Json

/-- A character between `-` and `z` that is no backslash. -/
def isPlain (c : Char) : Bool := 0x2D ≤ c.toNat && c.toNat ≤ 0x7A && c ≠ '\\'

theorem isPlain_iff {c : Char} : isPlain c = true ↔ (0x2D ≤ c.toNat ∧ c.toNat ≤ 0x7A) ∧ c ≠ '\\' := by
  simp [isPlain]

theorem utf8Size_of_isPlain {c : Char} (h : isPlain c = true) : c.utf8Size = 1 := by
  have hrange := (isPlain_iff.1 h).1.2
  refine Char.utf8Size_eq_one_iff.2 (UInt32.le_iff_toNat_le.2 ?_)
  exact le_trans hrange (by decide)

theorem escape_of_isPlain {c : Char} (h : isPlain c = true) : escape c = [c] := by
  obtain ⟨⟨hlow, -⟩, hbackslash⟩ := isPlain_iff.1 h
  have hne : ∀ d : Char, d.toNat < 0x2D → c ≠ d := by
    rintro d hd rfl
    omega
  unfold escape
  rw [if_neg (hne '"' (by decide)), if_neg hbackslash, if_neg (hne '\n' (by decide)),
    if_neg (hne '\r' (by decide)), if_neg (hne '\t' (by decide)), if_neg (by omega),
    if_neg (by omega), if_neg (by omega)]

/-- A text of plain characters, at most `n` of them. -/
structure Plain (n : Nat) (s : String) : Prop where
  isPlain : ∀ c ∈ s.toList, isPlain c = true
  length : s.toList.length ≤ n

theorem utf8Len_quoteTail_of_isPlain {l : List Char} (h : ∀ c ∈ l, isPlain c = true) :
    utf8Len (quoteTail l) = l.length + 1 := by
  induction l with
  | nil => rfl
  | cons c l ih =>
    rw [quoteTail, escape_of_isPlain (h c List.mem_cons_self), List.singleton_append, utf8Len_cons,
      utf8Size_of_isPlain (h c List.mem_cons_self),
      ih fun d hd => h d (List.mem_cons_of_mem c hd), List.length_cons, Nat.add_comm]

theorem Plain.size_le {n : Nat} {s : String} (h : Plain n s) : size (.str s) ≤ n + 2 := by
  have hquote : Char.utf8Size '"' = 1 := rfl
  have hlength := h.length
  rw [size, chars, quote, utf8Len_cons, hquote, utf8Len_quoteTail_of_isPlain h.isPlain]
  omega

theorem size_str_le {s : String} {n : Nat} (h : s.utf8ByteSize ≤ n) : size (.str s) ≤ 2 + 6 * n := by
  have hquote := utf8Len_quote_le s
  rw [size, chars]
  omega

theorem utf8Len_le (l : List Char) : utf8Len l ≤ 4 * l.length := by
  induction l with
  | nil => exact Nat.le_refl 0
  | cons c l ih =>
    have hc := c.utf8Size_le_four
    rw [utf8Len_cons, List.length_cons]
    omega

/-- A text of at most `n` characters. -/
theorem size_str_le_of_length {s : String} {n : Nat} (h : s.toList.length ≤ n) :
    size (.str s) ≤ 2 + 24 * n := by
  have hbytes := utf8Len_le s.toList
  rw [← utf8ByteSize_ofList, String.ofList_toList] at hbytes
  have hsize := size_str_le (Nat.le_refl s.utf8ByteSize)
  omega

/-- A number below a power of ten. -/
theorem size_nat_le {n k : Nat} (hk : 0 < k) (h : n < 10 ^ k) : size (.int n) ≤ k := by
  have hlength := (Nat.length_toDigits_le_iff (by decide) hk).2 h
  have hascii : ∀ c ∈ Nat.toDigits 10 n, c.utf8Size = 1 := by
    intro c hc
    have hd := Nat.isDigit_of_mem_toDigits (by decide) (by decide) hc
    simp only [Char.isDigit, Bool.and_eq_true, decide_eq_true_eq] at hd
    exact Char.utf8Size_eq_one_iff.2 (UInt32.le_trans hd.2 (by decide))
  have hchars : chars (.int n) = Nat.toDigits 10 n := rfl
  rw [size, hchars, utf8Len_ascii hascii]
  exact hlength

/-- An object whose keys are short. -/
theorem size_obj_le {ms : List (String × Json)} {key : Nat}
    (h : ∀ k ∈ ms.map Prod.fst, utf8Len (quote k) ≤ key) :
    size (.obj ms) ≤ 2 + ms.length * (key + 2) + (ms.map fun p => size p.2).sum := by
  have hmembers : (ms.map fun p => 1 + memberSize p).sum ≤
      ms.length * (key + 2) + (ms.map fun p => size p.2).sum := by
    induction ms with
    | nil => simp
    | cons p ms ih =>
      rw [List.map_cons, List.forall_mem_cons] at h
      have hrest := ih h.2
      have hkey := h.1
      rw [List.map_cons, List.map_cons, List.sum_cons, List.sum_cons, List.length_cons,
        Nat.succ_mul, memberSize]
      omega
  rw [size_obj]
  split <;> omega

/-- An array whose items are short. -/
theorem size_arr_le {xs : List Json} {n k : Nat} (h : ∀ x ∈ xs, size x ≤ n) (hk : xs.length ≤ k) :
    size (.arr xs) ≤ 2 + k * (n + 1) := by
  have hitems : (xs.map fun x => 1 + size x).sum ≤ xs.length * (n + 1) := by
    induction xs with
    | nil => simp
    | cons x xs ih =>
      rw [List.forall_mem_cons] at h
      have hrest := ih h.2 (Nat.le_trans (Nat.le_succ _) hk)
      have hitem := h.1
      rw [List.map_cons, List.sum_cons, List.length_cons, Nat.succ_mul]
      omega
  have hmul : xs.length * (n + 1) ≤ k * (n + 1) := Nat.mul_le_mul_right _ hk
  rw [size_arr]
  split <;> omega

/-! ## Counting bytes -/

/-- The bytes that one byte of a text becomes in a literal. -/
def byteLen (b : UInt8) : Nat :=
  if b = 34 ∨ b = 92 ∨ b = 10 ∨ b = 13 ∨ b = 9 ∨ b = 8 ∨ b = 12 then 2
  else if b < 32 then 6
  else 1

theorem utf8Len_escape_ascii : ∀ n < 128,
    utf8Len (escape (Char.ofNat n)) = byteLen (UInt8.ofNat n) := by
  decide +kernel

theorem byteLen_of_le {b : UInt8} (h : 128 ≤ b) : byteLen b = 1 := by
  have hb : 128 ≤ b.toNat := UInt8.le_iff_toNat_le.1 h
  have hne : ∀ a : UInt8, a.toNat < 128 → b ≠ a := by
    rintro a ha rfl
    omega
  unfold byteLen
  rw [if_neg, if_neg]
  · rw [UInt8.lt_iff_toNat_lt]
    exact not_lt.2 (le_trans (by decide) hb)
  · simp only [not_or]
    exact ⟨hne _ (by decide), hne _ (by decide), hne _ (by decide), hne _ (by decide),
      hne _ (by decide), hne _ (by decide), hne _ (by decide)⟩

/-- Beyond ASCII every byte has its highest bit set. -/
theorem le_of_mem_utf8EncodeChar {c : Char} (h : 128 ≤ c.toNat) :
    ∀ b ∈ String.utf8EncodeChar c, 128 ≤ b := by
  have hbyte : ∀ n : Nat, 128 ≤ n → n < 256 → 128 ≤ UInt8.ofNat n := by
    intro n hlow hhigh
    rw [UInt8.le_iff_toNat_le, UInt8.toNat_ofNat', Nat.mod_eq_of_lt hhigh]
    exact hlow
  have hval : c.val.toNat = c.toNat := rfl
  unfold String.utf8EncodeChar
  dsimp only
  rw [hval]
  generalize c.toNat = v at h
  rw [if_neg (by omega)]
  split_ifs
  all_goals
    intro b hb
    simp only [List.mem_cons, List.not_mem_nil, or_false] at hb
  · rcases hb with rfl | rfl <;> exact hbyte _ (by omega) (by omega)
  · rcases hb with rfl | rfl | rfl <;> exact hbyte _ (by omega) (by omega)
  · rcases hb with rfl | rfl | rfl | rfl <;> exact hbyte _ (by omega) (by omega)

theorem utf8Len_escape (c : Char) :
    utf8Len (escape c) = ((String.utf8EncodeChar c).map byteLen).sum := by
  by_cases h : c.toNat < 128
  · have hascii := utf8Len_escape_ascii c.toNat h
    have hencode : String.utf8EncodeChar c = [UInt8.ofNat c.toNat] := by
      have hval : c.val.toNat = c.toNat := rfl
      unfold String.utf8EncodeChar
      dsimp only
      rw [hval, if_pos (by omega)]
    rw [Char.ofNat_toNat] at hascii
    rw [hascii, hencode]
    simp
  · have hne : ∀ d : Char, d.toNat < 128 → c ≠ d := by
      rintro d hd rfl
      exact h hd
    have hones : (String.utf8EncodeChar c).map byteLen =
        List.replicate (String.utf8EncodeChar c).length 1 := by
      rw [List.eq_replicate_iff]
      refine ⟨List.length_map _, ?_⟩
      intro n hn
      obtain ⟨b, hb, rfl⟩ := List.mem_map.1 hn
      exact byteLen_of_le (le_of_mem_utf8EncodeChar (not_lt.1 h) b hb)
    have hsingle : escape c = [c] := by
      unfold escape
      rw [if_neg (hne '"' (by decide)), if_neg (hne '\\' (by decide)),
        if_neg (hne '\n' (by decide)), if_neg (hne '\r' (by decide)),
        if_neg (hne '\t' (by decide)), if_neg (by omega), if_neg (by omega), if_neg (by omega)]
    rw [hones, List.sum_replicate_nat, String.length_utf8EncodeChar, hsingle]
    simp

/-- The length of a literal, from the bytes of its text. -/
def literalLen (s : String) : Nat := 2 + (s.toUTF8.data.toList.map byteLen).sum

theorem utf8Len_quote (s : String) : utf8Len (quote s) = literalLen s := by
  have htail : ∀ l : List Char, utf8Len (quoteTail l) =
      1 + ((l.flatMap String.utf8EncodeChar).map byteLen).sum := by
    intro l
    induction l with
    | nil => rfl
    | cons c l ih =>
      rw [quoteTail, utf8Len_append, ih, utf8Len_escape, List.flatMap_cons, List.map_append,
        List.sum_append_nat]
      omega
  have hquote : Char.utf8Size '"' = 1 := rfl
  rw [quote, utf8Len_cons, hquote, htail, literalLen, String.toUTF8_eq_toByteArray,
    ← String.utf8Encode_toList, List.utf8Encode, List.toList_data_toByteArray]
  omega

mutual

/-- `size` without the characters of the text. -/
def byteSize : Json → Nat
  | arr xs => itemsSize xs + (if xs.isEmpty then 2 else 1)
  | obj ms => membersSize ms + (if ms.isEmpty then 2 else 1)
  | str s => literalLen s
  | v => size v

def itemsSize : List Json → Nat
  | [] => 0
  | x :: xs => 1 + byteSize x + itemsSize xs

def membersSize : List (String × Json) → Nat
  | [] => 0
  | (k, x) :: ms => 1 + (literalLen k + 1 + byteSize x) + membersSize ms

end

mutual

theorem size_eq : ∀ v : Json, size v = byteSize v
  | null | bool _ | int _ | float _ => by simp [byteSize]
  | str s => by rw [byteSize, size, chars, utf8Len_quote]
  | arr xs => by
    rw [size_arr, byteSize, sum_size_eq xs]
    cases xs <;> rfl
  | obj ms => by
    rw [size_obj, byteSize, sum_memberSize_eq ms]
    cases ms <;> rfl

theorem sum_size_eq : ∀ xs : List Json, (xs.map fun x => 1 + size x).sum = itemsSize xs
  | [] => rfl
  | x :: xs => by rw [List.map_cons, List.sum_cons, itemsSize, size_eq x, sum_size_eq xs]

theorem sum_memberSize_eq : ∀ ms : List (String × Json),
    (ms.map fun p => 1 + memberSize p).sum = membersSize ms
  | [] => rfl
  | (k, x) :: ms => by
    rw [List.map_cons, List.sum_cons, membersSize, memberSize, utf8Len_quote, size_eq x,
      sum_memberSize_eq ms]

end

end Vibapp.Json
