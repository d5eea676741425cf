import Vibapp.Lib.Calendar

/-!
# The proleptic Gregorian calendar of all years

Dates of any integer year, with the year 0 before the year 1, and their place on the line of days.
A `DateTime` carries that it is one of the calendar. **Main results**: `DateTime.seconds_lt_iff`
and `DateTime.seconds_injective` (the count of seconds tells date-times apart and puts them in
calendar order), and `DateTime.chars_lt_chars_iff` (in the years 0 to 9999, so does the text).

Months and their lengths are those of `Calendar`.
-/

namespace Vibapp

namespace Gregorian

open Calendar

/-! ## Years -/

/-- A leap year: every fourth, of the centuries only every fourth. -/
def isLeapYear (y : Int) : Bool := y % 4 = 0 && (y % 100 ≠ 0 || y % 400 = 0)

/-- Days from 0001-01-01 to January 1st of year `y`. -/
def yearStart (y : Int) : Int := 365 * (y - 1) + (y - 1) / 4 - (y - 1) / 100 + (y - 1) / 400

theorem ediv_sub_one {y k : Int} (hk : k = 4 ∨ k = 100 ∨ k = 400) :
    y / k = (y - 1) / k + if y % k = 0 then 1 else 0 := by
  rcases hk with rfl | rfl | rfl <;> split_ifs <;> omega

theorem yearStart_succ (y : Int) : yearStart (y + 1) = yearStart y + daysInYear (isLeapYear y) := by
  have h4 := ediv_sub_one (y := y) (.inl rfl)
  have h100 := ediv_sub_one (y := y) (.inr (.inl rfl))
  have h400 := ediv_sub_one (y := y) (.inr (.inr rfl))
  have hcentury : y % 400 = 0 → y % 100 = 0 := by omega
  have hfourth : y % 100 = 0 → y % 4 = 0 := by omega
  rw [yearStart, yearStart, Int.add_sub_cancel, h4, h100, h400, isLeapYear, daysInYear]
  by_cases hy : y % 4 = 0
  · by_cases hc : y % 100 = 0
    · by_cases hg : y % 400 = 0 <;> simp [hy, hc, hg] <;> omega
    · have hg : y % 400 ≠ 0 := fun h => hc (hcentury h)
      simp [hy, hc, hg]
      omega
  · have hc : y % 100 ≠ 0 := fun h => hy (hfourth h)
    have hg : y % 400 ≠ 0 := fun h => hc (hcentury h)
    simp [hy, hc, hg]
    omega

theorem yearStart_mono {y z : Int} (h : y ≤ z) : yearStart y ≤ yearStart z := by
  unfold yearStart
  omega

/-! ## Dates -/

/-- A date of the calendar: a month, and a day of that month. -/
structure IsDate (y : Int) (m d : Nat) : Prop where
  month_pos : 1 ≤ m
  month_le : m ≤ 12
  day_pos : 1 ≤ d
  day_le : d ≤ daysInMonth (isLeapYear y) m

instance (y : Int) (m d : Nat) : Decidable (IsDate y m d) :=
  decidable_of_iff (1 ≤ m ∧ m ≤ 12 ∧ 1 ≤ d ∧ d ≤ daysInMonth (isLeapYear y) m)
    ⟨fun ⟨a, b, c, e⟩ => ⟨a, b, c, e⟩, fun ⟨a, b, c, e⟩ => ⟨a, b, c, e⟩⟩

/-- Days from 0001-01-01 to a date. -/
def dayNumber (y : Int) (m d : Nat) : Int :=
  yearStart y + daysBeforeMonth (isLeapYear y) m + (d - 1)

theorem dayNumber_lt {y : Int} {m d : Nat} (h : IsDate y m d) :
    yearStart y ≤ dayNumber y m d ∧ dayNumber y m d < yearStart (y + 1) := by
  obtain ⟨hlt, -⟩ := dayOfYear_lt (isLeapYear y) m h.month_le h.month_pos d h.day_le h.day_pos
  have hd := h.day_pos
  rw [yearStart_succ, dayNumber]
  omega

theorem month_lt_month : ∀ leap : Bool, ∀ m ≤ 12, ∀ n ≤ 12, m < n → 1 ≤ m →
    daysBeforeMonth leap m + daysInMonth leap m ≤ daysBeforeMonth leap n := by
  decide +kernel

/-- Dates in calendar order are days in numerical order. -/
theorem dayNumber_lt_of_lt {y z : Int} {m d n e : Nat} (h : IsDate y m d) (h' : IsDate z n e)
    (hlt : y < z ∨ y = z ∧ (m < n ∨ m = n ∧ d < e)) : dayNumber y m d < dayNumber z n e := by
  rcases hlt with hy | ⟨rfl, hmd⟩
  · have hbefore := (dayNumber_lt h).2
    have hafter := (dayNumber_lt h').1
    have hyears := yearStart_mono (y := y + 1) (z := z) (by omega)
    omega
  · have hd := h.day_le
    have hpos := h.day_pos
    have hpos' := h'.day_pos
    unfold dayNumber
    rcases hmd with hm | ⟨rfl, hd'⟩
    · have := month_lt_month (isLeapYear y) m h.month_le n h'.month_le hm h.month_pos
      omega
    · omega

end Gregorian

open Calendar Gregorian

/-! ## Date-times -/

/-- A date of the calendar and a second of its day. -/
structure DateTime where
  year : Int
  month : Nat
  day : Nat
  secondOfDay : Time
  isDate : IsDate year month day

namespace DateTime

/-- The day of a date-time, counted from 0001-01-01. -/
def days (t : DateTime) : Int := dayNumber t.year t.month t.day

/-- Seconds from 0001-01-01T00:00:00Z. -/
def seconds (t : DateTime) : Int := t.days * 86400 + (t.secondOfDay : Nat)

/-- Calendar order: by year, month, day and second of the day. -/
def Before (t u : DateTime) : Prop :=
  t.year < u.year ∨ t.year = u.year ∧ (t.month < u.month ∨ t.month = u.month ∧
    (t.day < u.day ∨ t.day = u.day ∧ t.secondOfDay < u.secondOfDay))

theorem before_or_eq_or_before (t u : DateTime) : t.Before u ∨ t = u ∨ u.Before t := by
  obtain ⟨y, m, d, s, h⟩ := t
  obtain ⟨z, n, e, r, h'⟩ := u
  simp only [Before, mk.injEq, Fin.lt_def, Fin.ext_iff]
  omega

theorem seconds_lt_of_before {t u : DateTime} (h : t.Before u) : t.seconds < u.seconds := by
  have ht := t.secondOfDay.isLt
  rcases h with hyear | ⟨hyear, hmonth | ⟨hmonth, hday | ⟨hday, hsecond⟩⟩⟩
  · have := dayNumber_lt_of_lt t.isDate u.isDate (.inl hyear)
    simp only [seconds, days]
    omega
  · have := dayNumber_lt_of_lt t.isDate u.isDate (.inr ⟨hyear, .inl hmonth⟩)
    simp only [seconds, days]
    omega
  · have := dayNumber_lt_of_lt t.isDate u.isDate (.inr ⟨hyear, .inr ⟨hmonth, hday⟩⟩)
    simp only [seconds, days]
    omega
  · rw [Fin.lt_def] at hsecond
    simp only [seconds, days, hyear, hmonth, hday]
    omega

/-- The count of seconds is the calendar's order. -/
theorem seconds_lt_iff {t u : DateTime} : t.seconds < u.seconds ↔ t.Before u := by
  refine ⟨fun h => ?_, seconds_lt_of_before⟩
  rcases before_or_eq_or_before t u with hlt | rfl | hgt
  · exact hlt
  · exact absurd h (lt_irrefl _)
  · exact absurd h (lt_asymm (seconds_lt_of_before hgt))

/-- The count of seconds tells date-times apart. -/
theorem seconds_injective : Function.Injective seconds := by
  intro t u h
  rcases before_or_eq_or_before t u with hlt | heq | hgt
  · exact absurd h (seconds_lt_of_before hlt).ne
  · exact heq
  · exact absurd h (seconds_lt_of_before hgt).ne'

/-! ## Texts -/

/-- `YYYY-MM-DDTHH:MM:SSZ`, for a year of four digits. -/
def chars (t : DateTime) : List Char :=
  pad 4 t.year.toNat ++ '-' :: (pad 2 t.month ++ '-' :: (pad 2 t.day ++ 'T' ::
    (t.secondOfDay.chars ++ ['Z'])))

def text (t : DateTime) : String := String.ofList t.chars

/-- The years whose text has four digits. -/
def FourDigits (t : DateTime) : Prop := 0 ≤ t.year ∧ t.year ≤ 9999

instance (t : DateTime) : Decidable t.FourDigits := inferInstanceAs (Decidable (_ ∧ _))

@[simp] theorem length_chars (t : DateTime) : t.chars.length = 20 := by simp [chars]

theorem chars_lt_chars_iff {t u : DateTime} (ht : t.FourDigits) (hu : u.FourDigits) :
    t.chars < u.chars ↔ t.Before u := by
  have hyear : t.year.toNat < 10 ^ 4 := by have := ht.2; omega
  have hyear' : u.year.toNat < 10 ^ 4 := by have := hu.2; omega
  have hmonth : t.month < 10 ^ 2 := lt_of_le_of_lt t.isDate.month_le (by decide)
  have hmonth' : u.month < 10 ^ 2 := lt_of_le_of_lt u.isDate.month_le (by decide)
  have hday : t.day < 10 ^ 2 :=
    lt_of_le_of_lt (t.isDate.day_le.trans (daysInMonth_le _ _)) (by decide)
  have hday' : u.day < 10 ^ 2 :=
    lt_of_le_of_lt (u.isDate.day_le.trans (daysInMonth_le _ _)) (by decide)
  have heq {w m n : Nat} (hm : m < 10 ^ w) (hn : n < 10 ^ w) : pad w m = pad w n ↔ m = n :=
    ⟨pad_inj hm hn, fun h => by rw [h]⟩
  have hlt : t.year.toNat < u.year.toNat ↔ t.year < u.year := by
    have := ht.1
    omega
  have hsame : t.year.toNat = u.year.toNat ↔ t.year = u.year := by
    have := ht.1
    have := hu.1
    omega
  rw [chars, chars, append_lt_append_iff (by simp), List.cons_lt_cons_iff,
    append_lt_append_iff (by simp), List.cons_lt_cons_iff, append_lt_append_iff (by simp),
    List.cons_lt_cons_iff, append_lt_append_iff (by simp), pad_lt_pad_iff hyear hyear',
    pad_lt_pad_iff hmonth hmonth', pad_lt_pad_iff hday hday', heq hyear hyear', heq hmonth hmonth',
    heq hday hday', Time.chars_lt_chars_iff, hlt, hsame, Before]
  simp only [lt_irrefl, true_and, false_or, and_false, or_false]

theorem text_lt_text_iff {t u : DateTime} (ht : t.FourDigits) (hu : u.FourDigits) :
    t.text < u.text ↔ t.seconds < u.seconds := by
  rw [seconds_lt_iff, ← chars_lt_chars_iff ht hu, text, text, String.lt_iff_toList_lt,
    String.toList_ofList, String.toList_ofList]

end DateTime

end Vibapp
