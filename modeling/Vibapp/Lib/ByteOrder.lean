import Mathlib.Data.List.Lex
import Mathlib.Data.String.Basic

/-!
# The order of UTF-8

The UTF-8 bytes of two texts stand in the order of their code points (`utf8_lt_iff`), and one text
is a prefix of another exactly when its bytes are (`utf8_isPrefix_iff`). Both rest on one fact about
characters: the encodings of a smaller and a larger one part at a byte that is smaller in the first
(`parts_utf8EncodeChar`).
-/

namespace Vibapp

open String (utf8EncodeChar)

/-! ## Where two lists part -/

/-- The lists have a common start, and go on with a smaller and a larger byte. -/
def Parts (l m : List UInt8) : Prop :=
  ∃ p a b x y, l = p ++ a :: x ∧ m = p ++ b :: y ∧ a < b

theorem Parts.append {l m : List UInt8} (h : Parts l m) (x y : List UInt8) :
    Parts (l ++ x) (m ++ y) := by
  obtain ⟨p, a, b, u, v, rfl, rfl, hlt⟩ := h
  exact ⟨p, a, b, u ++ x, v ++ y, by simp, by simp, hlt⟩

theorem Parts.prepend {l m : List UInt8} (h : Parts l m) (x : List UInt8) :
    Parts (x ++ l) (x ++ m) := by
  obtain ⟨p, a, b, u, v, rfl, rfl, hlt⟩ := h
  exact ⟨x ++ p, a, b, u, v, by simp, by simp, hlt⟩

theorem Parts.lt {l m : List UInt8} (h : Parts l m) : l < m := by
  obtain ⟨p, a, b, x, y, rfl, rfl, hlt⟩ := h
  induction p with
  | nil => exact List.cons_lt_cons_iff.2 (.inl hlt)
  | cons c p ih => exact List.cons_lt_cons_iff.2 (.inr ⟨rfl, ih⟩)

theorem Parts.not_isPrefix {l m : List UInt8} (h : Parts l m) : ¬ l <+: m ∧ ¬ m <+: l := by
  obtain ⟨p, a, b, x, y, rfl, rfl, hlt⟩ := h
  rw [List.prefix_append_right_inj, List.prefix_append_right_inj, List.cons_prefix_cons,
    List.cons_prefix_cons]
  exact ⟨fun h => UInt8.ne_of_lt hlt h.1, fun h => UInt8.ne_of_lt hlt h.1.symm⟩

/-- Two bytes in order part there, unless they are one and what follows parts. -/
theorem parts_cons {m n : Nat} {x y : List UInt8} (hn : n < 256) (hle : m ≤ n)
    (h : m = n → Parts x y) : Parts (UInt8.ofNat m :: x) (UInt8.ofNat n :: y) := by
  by_cases heq : m = n
  · subst heq
    exact (h rfl).prepend [UInt8.ofNat m]
  · refine ⟨[], UInt8.ofNat m, UInt8.ofNat n, x, y, rfl, rfl, ?_⟩
    rw [UInt8.lt_iff_toNat_lt, UInt8.toNat_ofNat', UInt8.toNat_ofNat']
    omega

/-! ## Characters -/

/-- **A smaller character has smaller bytes.** -/
theorem parts_utf8EncodeChar {c d : Char} (h : c < d) :
    Parts (utf8EncodeChar c) (utf8EncodeChar d) := by
  have hlt : c.val.toNat < d.val.toNat := h
  have hd : d.val.toNat < 0x110000 := by
    rcases d.valid with hd | hd
    · exact lt_trans hd (by decide)
    · exact hd.2
  unfold utf8EncodeChar
  dsimp only
  generalize c.val.toNat = m at hlt
  generalize d.val.toNat = n at hlt hd
  by_cases h₁ : n ≤ 0x7f
  · rw [if_pos (by omega : m ≤ 0x7f), if_pos h₁]
    exact parts_cons (by omega) (by omega) (by omega)
  rw [if_neg h₁]
  by_cases h₂ : m ≤ 0x7f
  · -- one byte against a longer encoding: the first byte decides
    rw [if_pos h₂]
    split_ifs <;> exact parts_cons (by omega) (by omega) (by omega)
  rw [if_neg h₂]
  by_cases h₃ : n ≤ 0x7ff
  · rw [if_pos (by omega : m ≤ 0x7ff), if_pos h₃]
    exact parts_cons (by omega) (by omega) fun _ => parts_cons (by omega) (by omega) (by omega)
  rw [if_neg h₃]
  by_cases h₄ : m ≤ 0x7ff
  · rw [if_pos h₄]
    split_ifs <;> exact parts_cons (by omega) (by omega) (by omega)
  rw [if_neg h₄]
  by_cases h₅ : n ≤ 0xffff
  · rw [if_pos (by omega : m ≤ 0xffff), if_pos h₅]
    exact parts_cons (by omega) (by omega) fun _ => parts_cons (by omega) (by omega)
      fun _ => parts_cons (by omega) (by omega) (by omega)
  rw [if_neg h₅]
  by_cases h₆ : m ≤ 0xffff
  · rw [if_pos h₆]
    exact parts_cons (by omega) (by omega) (by omega)
  rw [if_neg h₆]
  exact parts_cons (by omega) (by omega) fun _ => parts_cons (by omega) (by omega)
    fun _ => parts_cons (by omega) (by omega) fun _ => parts_cons (by omega) (by omega) (by omega)

/-! ## Texts -/

theorem flatMap_utf8_lt {l m : List Char} (h : l < m) :
    l.flatMap utf8EncodeChar < m.flatMap utf8EncodeChar := by
  induction l generalizing m with
  | nil =>
    cases m with
    | nil => exact absurd h (List.not_lt_nil _)
    | cons d m =>
      rw [List.flatMap_nil, List.flatMap_cons]
      obtain ⟨b, x, hx⟩ := List.exists_cons_of_ne_nil (String.utf8EncodeChar_ne_nil (c := d))
      rw [hx, List.cons_append]
      exact List.nil_lt_cons ..
  | cons c l ih =>
    cases m with
    | nil => exact absurd h (List.not_lt_nil _)
    | cons d m =>
      rw [List.flatMap_cons, List.flatMap_cons]
      rcases List.cons_lt_cons_iff.1 h with hlt | ⟨rfl, hlt⟩
      · exact ((parts_utf8EncodeChar hlt).append ..).lt
      · exact List.append_left_lt (ih hlt)

theorem flatMap_utf8_isPrefix {l m : List Char} :
    l.flatMap utf8EncodeChar <+: m.flatMap utf8EncodeChar ↔ l <+: m := by
  induction l generalizing m with
  | nil => simp
  | cons c l ih =>
    cases m with
    | nil => simp [String.utf8EncodeChar_ne_nil]
    | cons d m =>
      rw [List.flatMap_cons, List.flatMap_cons, List.cons_prefix_cons]
      rcases lt_trichotomy c d with hlt | rfl | hgt
      · have hparts := (parts_utf8EncodeChar hlt).append (l.flatMap utf8EncodeChar)
          (m.flatMap utf8EncodeChar)
        exact iff_of_false hparts.not_isPrefix.1 fun h => absurd h.1 hlt.ne
      · rw [List.prefix_append_right_inj, ih]
        simp
      · have hparts := (parts_utf8EncodeChar hgt).append (m.flatMap utf8EncodeChar)
          (l.flatMap utf8EncodeChar)
        exact iff_of_false hparts.not_isPrefix.2 fun h => absurd h.1 hgt.ne'

/-- The UTF-8 bytes of a text. -/
def utf8Bytes (s : String) : List UInt8 := s.toUTF8.data.toList

theorem utf8Bytes_eq (s : String) : utf8Bytes s = s.toList.flatMap utf8EncodeChar := by
  rw [utf8Bytes, String.toUTF8_eq_toByteArray, ← String.utf8Encode_toList, List.utf8Encode,
    List.toList_data_toByteArray]

/-- **The bytes stand in the order of the code points.** -/
theorem utf8_lt_iff {s t : String} : utf8Bytes s < utf8Bytes t ↔ s < t := by
  rw [utf8Bytes_eq, utf8Bytes_eq, String.lt_iff_toList_lt]
  constructor
  · intro h
    by_contra hnot
    rcases eq_or_lt_of_le (not_lt.1 hnot) with heq | hlt
    · rw [heq] at h
      exact List.lt_irrefl _ h
    · exact List.lt_asymm h (flatMap_utf8_lt hlt)
  · exact flatMap_utf8_lt

/-- **A prefix of the text is a prefix of the bytes, and no other is.** -/
theorem utf8_isPrefix_iff {s t : String} :
    utf8Bytes s <+: utf8Bytes t ↔ s.toList <+: t.toList := by
  rw [utf8Bytes_eq, utf8Bytes_eq, flatMap_utf8_isPrefix]

end Vibapp
