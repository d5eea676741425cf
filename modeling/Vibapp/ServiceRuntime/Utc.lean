import Vibapp.Lib.Gregorian

/-!
# The UTC text of a second count

`canonicalUtcFromUnixSeconds` with each operation on `i64` checked for overflow. **Main result**
(`canonicalUtcFromUnixSeconds_correct`): for every `i64` no operation overflows, and the result is
the text of the date-time with that count of seconds where its year has four digits, an error
otherwise.
-/

namespace Vibapp.ServiceRuntime

open Calendar Gregorian

/-! ## Arithmetic of `i64` -/

/-- The value of an operation on `i64` whose exact result is `n`; nothing where it overflows. -/
def i64 (n : Int) : Option Int := if -2 ^ 63 ≤ n ∧ n < 2 ^ 63 then some n else none

/-- `a / b`, towards zero. Every divisor below is a literal other than zero. -/
def i64Div (a b : Int) : Option Int := i64 (a.tdiv b)

/-- `a % b`, with the sign of `a`. -/
def i64Rem (a b : Int) : Option Int := i64 (a.tmod b)

theorem i64_eq {n : Int} (h : -2 ^ 63 ≤ n) (h' : n < 2 ^ 63) : i64 n = some n := if_pos ⟨h, h'⟩

theorem i64Div_eq {a b : Int} (ha : 0 ≤ a) (hb : 0 < b) (hlt : a < 2 ^ 63) :
    i64Div a b = some (a / b) := by
  have hle := Int.ediv_le_self b ha
  have hpos := Int.ediv_nonneg ha hb.le
  rw [i64Div, Int.tdiv_eq_ediv_of_nonneg ha, i64_eq (by omega) (by omega)]

theorem i64Rem_eq {a b : Int} (ha : 0 ≤ a) (hb : 0 < b) (hlt : a < 2 ^ 63) :
    i64Rem a b = some (a % b) := by
  have hle : a % b ≤ a := by
    have := mul_nonneg hb.le (Int.ediv_nonneg ha hb.le)
    rw [Int.emod_def]
    omega
  have hpos := Int.emod_nonneg a hb.ne'
  rw [i64Rem, Int.tmod_eq_emod_of_nonneg ha, i64_eq (by omega) (by omega)]

/-! ## The conversion -/

/-- `(day_of_era - day_of_era / 1_460 + day_of_era / 36_524 - day_of_era / 146_096) / 365`. -/
def yearOfEra (dayOfEra : Int) : Option Int := do
  let fourths ← i64Div dayOfEra 1460
  let days ← i64 (dayOfEra - fourths)
  let centuries ← i64Div dayOfEra 36524
  let days ← i64 (days + centuries)
  let eras ← i64Div dayOfEra 146096
  let days ← i64 (days - eras)
  i64Div days 365

/-- `day_of_era - (365 * year_of_era + year_of_era / 4 - year_of_era / 100)`. -/
def dayOfYear (dayOfEra yearOfEra : Int) : Option Int := do
  let days ← i64 (365 * yearOfEra)
  let fourths ← i64Div yearOfEra 4
  let days ← i64 (days + fourths)
  let centuries ← i64Div yearOfEra 100
  let days ← i64 (days - centuries)
  i64 (dayOfEra - days)

/-- `(5 * day_of_year + 2) / 153`, the month counted from March. -/
def monthPrime (dayOfYear : Int) : Option Int := do
  let days ← i64 (5 * dayOfYear)
  let days ← i64 (days + 2)
  i64Div days 153

/-- `day_of_year - (153 * month_prime + 2) / 5 + 1`. -/
def dayOfMonth (dayOfYear monthPrime : Int) : Option Int := do
  let days ← i64 (153 * monthPrime)
  let days ← i64 (days + 2)
  let days ← i64Div days 5
  let day ← i64 (dayOfYear - days)
  i64 (day + 1)

/-- Year, month and day of a day counted from 0000-03-01. -/
def dateFromShiftedDays (shiftedDays : Int) : Option (Int × Int × Int) := do
  let era ← i64 (shiftedDays / 146097)
  let eraDays ← i64 (era * 146097)
  let dayOfEra ← i64 (shiftedDays - eraDays)
  let yearOfEra ← yearOfEra dayOfEra
  let eraYears ← i64 (era * 400)
  let year ← i64 (yearOfEra + eraYears)
  let dayOfYear ← dayOfYear dayOfEra yearOfEra
  let monthPrime ← monthPrime dayOfYear
  let day ← dayOfMonth dayOfYear monthPrime
  let month ← i64 (monthPrime + if monthPrime < 10 then 3 else -9)
  let year ← i64 (year + if month ≤ 2 then 1 else 0)
  return (year, month, day)

/-- `{n:0w}`: at least `w` characters, the sign before the zeros. -/
def zeroPadded (w : Nat) (n : Int) : List Char :=
  let sign := if n < 0 then ['-'] else []
  let digits := Nat.toDigits 10 n.natAbs
  sign ++ (List.replicate (w - (sign.length + digits.length)) '0' ++ digits)

/-- `format!("{year:04}-{month:02}-{day:02}T{hour:02}:{minute:02}:{second:02}Z")`. -/
def instantText (year month day hour minute second : Int) : List Char :=
  zeroPadded 4 year ++ '-' :: (zeroPadded 2 month ++ '-' :: (zeroPadded 2 day ++ 'T' ::
    (zeroPadded 2 hour ++ ':' :: (zeroPadded 2 minute ++ ':' :: (zeroPadded 2 second ++ ['Z'])))))

/-- `canonical_utc_from_unix_seconds`; nothing where an operation overflows. `instant.len()` is
the number of characters, all of one byte. -/
def canonicalUtcFromUnixSeconds (unixSeconds : Int64) : Option (Except String String) := do
  let days ← i64 (unixSeconds.toInt / 86400)
  let secondsOfDay ← i64 (unixSeconds.toInt % 86400)
  match i64 (days + 719468) with
  | none => return .error "UTC day count is outside the supported range"
  | some shiftedDays =>
    let (year, month, day) ← dateFromShiftedDays shiftedDays
    if ¬(0 ≤ year ∧ year ≤ 9999) then
      return .error "UTC year is outside the four-digit contract range"
    else
      let hour ← i64Div secondsOfDay 3600
      let minutes ← i64Rem secondsOfDay 3600
      let minute ← i64Div minutes 60
      let second ← i64Rem secondsOfDay 60
      let instant := instantText year month day hour minute second
      if instant.length ≠ 20 then
        return .error "UTC instant did not satisfy the canonical wire length"
      else return .ok (String.ofList instant)

/-! ## The year of an era -/

/-- The days of an era less one for each leap day before them. -/
def commonDays (n : Int) : Int := n - n / 1460 + n / 36524 - n / 146096

theorem commonDays_le_succ (n : Int) : commonDays n ≤ commonDays (n + 1) := by
  have hfourth : (n + 1) / 1460 ≤ n / 1460 + 1 := by omega
  have hcentury : (n + 1) / 36524 = n / 36524 + if (n + 1) % 36524 = 0 then 1 else 0 := by
    split_ifs <;> omega
  have hera : (n + 1) / 146096 = n / 146096 + if (n + 1) % 146096 = 0 then 1 else 0 := by
    split_ifs <;> omega
  have hdvd : (n + 1) % 146096 = 0 → (n + 1) % 36524 = 0 := by omega
  rw [commonDays, commonDays, hcentury, hera]
  by_cases h : (n + 1) % 146096 = 0
  · rw [if_pos h, if_pos (hdvd h)]
    omega
  · rw [if_neg h]
    split_ifs <;> omega

theorem commonDays_mono {m n : Int} (h : m ≤ n) : commonDays m ≤ commonDays n := by
  induction n, h using Int.leInduction with
  | base => exact le_rfl
  | succ n _ ih => exact ih.trans (commonDays_le_succ n)

/-- The common days before a year of an era are `365` for each year. -/
theorem commonDays_yearStart : ∀ k : Nat, k < 400 →
    365 * (k : Int) ≤ commonDays (yearStart (k + 1)) ∧
      (0 < k → commonDays (yearStart (k + 1) - 1) < 365 * (k : Int)) := by
  decide +kernel

theorem yearOfEra_eq {n : Int} (h : 0 ≤ n) (h' : n < 146097) :
    yearOfEra n = some (commonDays n / 365) := by
  have hpos : 0 ≤ commonDays n := commonDays_mono h
  rw [commonDays] at hpos
  simp (disch := omega) only [yearOfEra, i64Div_eq, i64_eq, Option.bind_eq_bind, Option.bind_some,
    commonDays]

/-- The year of an era in which one of its days lies; years begin in March. -/
theorem yearOfEra_spec {n : Int} (h : 0 ≤ n) (h' : n < 146097) :
    0 ≤ commonDays n / 365 ∧ commonDays n / 365 < 400 ∧
      yearStart (commonDays n / 365 + 1) ≤ n ∧ n < yearStart (commonDays n / 365 + 1 + 1) := by
  have hpos : 0 ≤ commonDays n := commonDays_mono h
  have hlast : commonDays n ≤ 145999 := commonDays_mono (by omega : n ≤ 146096)
  obtain ⟨k, hk⟩ := Int.eq_ofNat_of_zero_le (Int.ediv_nonneg hpos (by decide : (0 : Int) ≤ 365))
  have hk400 : k < 400 := by omega
  rw [hk]
  refine ⟨by omega, by omega, ?_, ?_⟩
  · by_contra hlt
    rcases Nat.eq_zero_or_pos k with rfl | hk0
    · exact hlt h
    · have hle := commonDays_mono (by omega : n ≤ yearStart (k + 1) - 1)
      have := (commonDays_yearStart k hk400).2 hk0
      omega
  · by_cases hnext : k + 1 < 400
    · by_contra hlt
      have hle := commonDays_mono (not_lt.1 hlt)
      have := (commonDays_yearStart (k + 1) hnext).1
      push_cast at this
      omega
    · obtain rfl : k = 399 := by omega
      exact h'

/-! ## The date -/

theorem dayOfYear_eq {n k : Int} (hk : 0 ≤ k) (hk' : k < 400) (h : yearStart (k + 1) ≤ n)
    (h' : n < 146097) : dayOfYear n k = some (n - yearStart (k + 1)) := by
  have hstart : yearStart (k + 1) = 365 * k + k / 4 - k / 100 := by
    rw [yearStart, Int.add_sub_cancel]
    omega
  rw [hstart] at h ⊢
  simp (disch := omega) only [dayOfYear, i64Div_eq, i64_eq, Option.bind_eq_bind, Option.bind_some]

theorem monthPrime_eq {n : Int} (h : 0 ≤ n) (h' : n < 366) :
    monthPrime n = some ((5 * n + 2) / 153) := by
  simp (disch := omega) only [monthPrime, i64Div_eq, i64_eq, Option.bind_eq_bind, Option.bind_some]

theorem dayOfMonth_eq {n k : Int} (h : 0 ≤ n) (h' : n < 366) (hk : 0 ≤ k) (hk' : k < 12) :
    dayOfMonth n k = some (n - (153 * k + 2) / 5 + 1) := by
  simp (disch := omega) only [dayOfMonth, i64Div_eq, i64_eq, Option.bind_eq_bind,
    Option.bind_some]

/-- March to December: the month and the day in it, by the day of the year that begins in March. -/
theorem marchToDecember : ∀ leap : Bool, ∀ n < 306,
    (5 * n + 2) / 153 < 10 ∧ (153 * ((5 * n + 2) / 153) + 2) / 5 ≤ n ∧
      n - (153 * ((5 * n + 2) / 153) + 2) / 5 < daysInMonth leap ((5 * n + 2) / 153 + 3) ∧
      daysBeforeMonth leap ((5 * n + 2) / 153 + 3) + (n - (153 * ((5 * n + 2) / 153) + 2) / 5) +
        306 = n + daysInYear leap := by
  decide +kernel

/-- January and February, in the year after. -/
theorem januaryFebruary : ∀ leap : Bool, ∀ n < daysInYear leap, 306 ≤ n →
    10 ≤ (5 * n + 2) / 153 ∧ (5 * n + 2) / 153 < 12 ∧
      (153 * ((5 * n + 2) / 153) + 2) / 5 ≤ n ∧
      n - (153 * ((5 * n + 2) / 153) + 2) / 5 < daysInMonth leap ((5 * n + 2) / 153 - 9) ∧
      daysBeforeMonth leap ((5 * n + 2) / 153 - 9) + (n - (153 * ((5 * n + 2) / 153) + 2) / 5) +
        306 = n := by
  decide +kernel

theorem isLeapYear_add_eras (y era : Int) : isLeapYear (y + era * 400) = isLeapYear y := by
  have h4 : (y + era * 400) % 4 = y % 4 := by omega
  have h100 : (y + era * 400) % 100 = y % 100 := by omega
  rw [isLeapYear, isLeapYear, h4, h100, Int.add_mul_emod_self_right]

theorem yearStart_add_eras (y era : Int) :
    yearStart (y + era * 400) = yearStart y + era * 146097 := by
  unfold yearStart
  omega

/-- A day counted from 0000-03-01 gets its date, without overflow. -/
theorem dateFromShiftedDays_eq {n : Int} (h : -2 ^ 62 ≤ n) (h' : n < 2 ^ 62) :
    ∃ y : Int, ∃ m d : Nat, dateFromShiftedDays n = some (y, (m : Int), (d : Int)) ∧
      IsDate y m d ∧ dayNumber y m d = n - 306 := by
  have hera : n - n / 146097 * 146097 = n % 146097 := by omega
  obtain ⟨hk, hk', hstart, hend⟩ :=
    yearOfEra_spec (Int.emod_nonneg n (by decide)) (Int.emod_lt_of_pos n (by decide))
  have hyear := yearOfEra_eq (Int.emod_nonneg n (by decide)) (Int.emod_lt_of_pos n (by decide))
  generalize commonDays (n % 146097) / 365 = k at hk hk' hstart hend hyear
  have hleap := yearStart_succ (k + 1)
  obtain ⟨i, hi⟩ := Int.eq_ofNat_of_zero_le (sub_nonneg.2 hstart)
  have hday := dayOfYear_eq hk hk' hstart (Int.emod_lt_of_pos n (by decide))
  rw [hi] at hday
  have hlen : i < daysInYear (isLeapYear (k + 1)) := by omega
  have hi366 : i < 366 := lt_of_lt_of_le hlen (by unfold daysInYear; split_ifs <;> decide)
  have hmonth := monthPrime_eq (n := i) (by omega) (by omega)
  have hdays := dayOfMonth_eq (n := i) (k := (5 * i + 2) / 153) (by omega) (by omega) (by omega)
    (by omega)
  have hn : n = n / 146097 * 146097 + yearStart (k + 1) + i := by omega
  have hrun : dateFromShiftedDays n = (do
      let month ← i64 ((5 * i + 2) / 153 + if (5 * (i : Int) + 2) / 153 < 10 then 3 else -9)
      let year ← i64 (k + n / 146097 * 400 + if month ≤ 2 then 1 else 0)
      return (year, month, i - (153 * ((5 * i + 2) / 153) + 2) / 5 + 1)) := by
    rw [dateFromShiftedDays, i64_eq (n := n / 146097) (by omega) (by omega), Option.bind_eq_bind,
      Option.bind_some, i64_eq (n := n / 146097 * 146097) (by omega) (by omega), Option.bind_some,
      hera, i64_eq (n := n % 146097) (by omega) (by omega), Option.bind_some, hyear,
      Option.bind_some, i64_eq (n := n / 146097 * 400) (by omega) (by omega), Option.bind_some,
      i64_eq (n := k + n / 146097 * 400) (by omega) (by omega), Option.bind_some, hday,
      Option.bind_some, hmonth, Option.bind_some, hdays, Option.bind_some]
  rw [hrun]
  by_cases hmarch : i < 306
  · obtain ⟨hten, hle, hlast, hsum⟩ :=
      marchToDecember (isLeapYear (k + n / 146097 * 400)) i hmarch
    refine ⟨k + n / 146097 * 400, (5 * i + 2) / 153 + 3,
      i - (153 * ((5 * i + 2) / 153) + 2) / 5 + 1, ?_, ?_, ?_⟩
    · rw [if_pos (by omega), i64_eq (by omega) (by omega), Option.bind_eq_bind, Option.bind_some,
        if_neg (by omega), i64_eq (by omega) (by omega), Option.bind_some, add_zero]
      push_cast [Nat.cast_sub hle]
      rfl
    · exact ⟨by omega, by omega, by omega, by omega⟩
    · have hnext := yearStart_succ (k + n / 146097 * 400)
      have heras := yearStart_add_eras (k + 1) (n / 146097)
      rw [Int.add_right_comm, hnext] at heras
      rw [dayNumber]
      omega
  · obtain ⟨hten, htwelve, hle, hlast, hsum⟩ :=
      januaryFebruary (isLeapYear (k + 1)) i hlen (not_lt.1 hmarch)
    have hcomm : k + n / 146097 * 400 + 1 = k + 1 + n / 146097 * 400 := Int.add_right_comm k _ 1
    refine ⟨k + n / 146097 * 400 + 1, (5 * i + 2) / 153 - 9,
      i - (153 * ((5 * i + 2) / 153) + 2) / 5 + 1, ?_, ?_, ?_⟩
    · rw [if_neg (by omega), i64_eq (by omega) (by omega), Option.bind_eq_bind, Option.bind_some,
        if_pos (by omega), i64_eq (by omega) (by omega), Option.bind_some]
      push_cast [Nat.cast_sub hle, Nat.cast_sub (by omega : 9 ≤ (5 * i + 2) / 153)]
      rfl
    · rw [hcomm]
      refine ⟨by omega, by omega, by omega, ?_⟩
      rw [isLeapYear_add_eras]
      omega
    · rw [dayNumber, hcomm, isLeapYear_add_eras, yearStart_add_eras]
      omega

/-! ## The text -/

theorem pad_zero (w : Nat) : pad w 0 = List.replicate w '0' := by
  induction w with
  | zero => rfl
  | succ w ih => rw [pad, Nat.zero_mod, ih, Nat.zero_div, List.replicate_succ]; rfl

/-- A padded number ends in its last digit. -/
theorem pad_succ_eq {w n : Nat} (h : n < 10 ^ (w + 1)) :
    pad (w + 1) n = pad w (n / 10) ++ [digit (n % 10)] := by
  induction w generalizing n with
  | zero =>
    rw [zero_add, pow_one] at h
    rw [pad, pad, pad, pow_zero, Nat.div_one, Nat.mod_eq_of_lt h]
    rfl
  | succ w ih =>
    have hdiv : n / 10 / 10 ^ w = n / 10 ^ (w + 1) := by
      rw [Nat.div_div_eq_div_mul, ← pow_succ']
    have hmod : n % 10 ^ (w + 1) / 10 = n / 10 % 10 ^ w := by
      rw [pow_succ', Nat.mod_mul_right_div_self]
    have hlast : n % 10 ^ (w + 1) % 10 = n % 10 :=
      Nat.mod_mod_of_dvd n (Dvd.intro_left _ (pow_succ 10 w).symm)
    rw [pad, ih (Nat.mod_lt n (by positivity)), hmod, hlast, pad, hdiv, List.cons_append]

theorem digitChar_eq_digit {n : Nat} (h : n < 10) : n.digitChar = digit n := by
  interval_cases n <;> rfl

/-- The decimal digits after zeros are the padded number. -/
theorem replicate_append_toDigits {w n : Nat} (h : n < 10 ^ (w + 1)) :
    List.replicate (w + 1 - (Nat.toDigits 10 n).length) '0' ++ Nat.toDigits 10 n =
      pad (w + 1) n := by
  induction w generalizing n with
  | zero =>
    have hten : n < 10 := h
    rw [Nat.toDigits_of_lt_base hten, pad_succ_eq h, digitChar_eq_digit hten,
      Nat.mod_eq_of_lt hten]
    rfl
  | succ w ih =>
    rw [pad_succ_eq h]
    by_cases hten : n < 10
    · rw [Nat.toDigits_of_lt_base hten, Nat.div_eq_of_lt hten, Nat.mod_eq_of_lt hten,
        digitChar_eq_digit hten, pad_zero]
      rfl
    · have hdiv : n / 10 < 10 ^ (w + 1) := Nat.div_lt_of_lt_mul (by rwa [pow_succ'] at h)
      rw [Nat.toDigits_of_base_le (by decide) (not_lt.1 hten), List.length_append,
        List.length_singleton, ← List.append_assoc, Nat.add_sub_add_right, ih hdiv,
        digitChar_eq_digit (Nat.mod_lt n (by decide))]

theorem zeroPadded_eq {w n : Nat} (h : n < 10 ^ (w + 1)) :
    zeroPadded (w + 1) n = pad (w + 1) n := by
  rw [zeroPadded, if_neg (by omega), Int.natAbs_natCast, List.length_nil, Nat.zero_add,
    List.nil_append, replicate_append_toDigits h]

/-! ## Correctness -/

/-- The seconds of a date-time since 1970-01-01T00:00:00Z. -/
def unixSeconds (t : DateTime) : Int := t.seconds - dayNumber 1970 1 1 * 86400

theorem dayNumber_epoch : dayNumber 1970 1 1 = 719162 := by decide

theorem instantText_eq {t : DateTime} (h : t.FourDigits) :
    instantText t.year t.month t.day ((t.secondOfDay : Nat) / 3600 : Nat)
      ((t.secondOfDay : Nat) % 3600 / 60 : Nat) ((t.secondOfDay : Nat) % 60 : Nat) = t.chars := by
  have hsecond := t.secondOfDay.isLt
  have hday := t.isDate.day_le.trans (daysInMonth_le _ _)
  have hmonth := t.isDate.month_le
  obtain ⟨y, hy⟩ := Int.eq_ofNat_of_zero_le h.1
  have hyear := h.2
  have hminute : (t.secondOfDay : Nat) % 3600 / 60 = t.secondOfDay / 60 % 60 := by omega
  rw [instantText, DateTime.chars, hy, Int.toNat_natCast, zeroPadded_eq (by omega),
    zeroPadded_eq (by omega), zeroPadded_eq (by omega), zeroPadded_eq (by omega),
    zeroPadded_eq (by omega), zeroPadded_eq (by omega), hminute]
  rfl

/-- No operation overflows, and the result is that of the date-time with this count. -/
theorem canonicalUtcFromUnixSeconds_eq (s : Int64) : ∃ t : DateTime, unixSeconds t = s.toInt ∧
    canonicalUtcFromUnixSeconds s = some (if t.FourDigits then .ok t.text
      else .error "UTC year is outside the four-digit contract range") := by
  have hlow := s.le_toInt
  have hhigh := s.toInt_lt
  obtain ⟨y, m, d, hdate, hvalid, hnumber⟩ :=
    dateFromShiftedDays_eq (n := s.toInt / 86400 + 719468) (by omega) (by omega)
  have hsecond : 0 ≤ s.toInt % 86400 := Int.emod_nonneg s.toInt (by decide)
  obtain ⟨r, hr⟩ := Int.eq_ofNat_of_zero_le hsecond
  have hlt : r < 86400 := by omega
  refine ⟨⟨y, m, d, ⟨r, hlt⟩, hvalid⟩, ?_, ?_⟩
  · rw [unixSeconds, dayNumber_epoch, DateTime.seconds, DateTime.days, hnumber]
    change (s.toInt / 86400 + 719468 - 306) * 86400 + (r : Int) - 719162 * 86400 = s.toInt
    omega
  · rw [canonicalUtcFromUnixSeconds, i64_eq (n := s.toInt / 86400) (by omega) (by omega),
      Option.bind_eq_bind, Option.bind_some, i64_eq (n := s.toInt % 86400) (by omega) (by omega),
      Option.bind_eq_bind, Option.bind_some, i64_eq (by omega) (by omega)]
    simp only [hdate, hr, Option.bind_some]
    by_cases hyear : DateTime.FourDigits ⟨y, m, d, ⟨r, hlt⟩, hvalid⟩
    · have htext := instantText_eq hyear
      have hrange : 0 ≤ y ∧ y ≤ 9999 := hyear
      push_cast at htext
      rw [if_pos hyear, if_neg (not_not.2 hrange), i64Div_eq (by omega) (by omega) (by omega),
        Option.bind_some, i64Rem_eq (by omega) (by omega) (by omega), Option.bind_some,
        i64Div_eq (by omega) (by omega) (by omega), Option.bind_some,
        i64Rem_eq (by omega) (by omega) (by omega), Option.bind_some, htext,
        DateTime.length_chars, if_neg (by decide)]
      rfl
    · have hrange : ¬(0 ≤ y ∧ y ≤ 9999) := hyear
      rw [if_neg hyear, if_pos hrange]
      rfl

theorem unixSeconds_injective {t u : DateTime} (h : unixSeconds t = unixSeconds u) : t = u := by
  apply DateTime.seconds_injective
  unfold unixSeconds at h
  omega

/-- A date-time of a year of four digits has a count in `i64`. -/
theorem exists_toInt_eq {t : DateTime} (h : t.FourDigits) :
    ∃ s : Int64, s.toInt = unixSeconds t := by
  have hsecond := t.secondOfDay.isLt
  have hdays := dayNumber_lt t.isDate
  have hlow := yearStart_mono h.1
  have hhigh := yearStart_mono (by have := h.2; omega : t.year + 1 ≤ 10000)
  have hfirst : yearStart 0 = -366 := by decide
  have hlast : yearStart 10000 = 3652059 := by decide
  refine ⟨Int64.ofInt (unixSeconds t), Int64.toInt_ofInt_of_le ?_ ?_⟩ <;>
    simp only [unixSeconds, dayNumber_epoch, DateTime.seconds, DateTime.days] <;> omega

/-- **Main result.** For every `i64` no operation overflows; the result is the text of the one
date-time with that count of seconds where its year has four digits, an error otherwise. Every
date-time of these years is that of its count, and texts are equal and ordered as the counts are. -/
theorem canonicalUtcFromUnixSeconds_correct :
    (∀ s : Int64, ∃ t : DateTime,
      unixSeconds t = s.toInt ∧ (∀ u, unixSeconds u = s.toInt → u = t) ∧
        canonicalUtcFromUnixSeconds s = some (if t.FourDigits then .ok t.text
          else .error "UTC year is outside the four-digit contract range")) ∧
    (∀ t : DateTime, t.FourDigits → ∃ s : Int64,
      s.toInt = unixSeconds t ∧ canonicalUtcFromUnixSeconds s = some (.ok t.text)) ∧
    ∀ s u : Int64, ∀ a b : String, canonicalUtcFromUnixSeconds s = some (.ok a) →
      canonicalUtcFromUnixSeconds u = some (.ok b) → (a = b ↔ s = u) ∧ (a < b ↔ s < u) := by
  have hok : ∀ {s : Int64} {a : String}, canonicalUtcFromUnixSeconds s = some (.ok a) →
      ∃ t : DateTime, t.FourDigits ∧ unixSeconds t = s.toInt ∧ a = t.text := by
    intro s a hs
    obtain ⟨t, ht, heq⟩ := canonicalUtcFromUnixSeconds_eq s
    rw [heq] at hs
    by_cases hfour : t.FourDigits
    · rw [if_pos hfour] at hs
      cases hs
      exact ⟨t, hfour, ht, rfl⟩
    · rw [if_neg hfour] at hs
      cases hs
  refine ⟨fun s => ?_, fun t ht => ?_, fun s u a b hs hu => ?_⟩
  · obtain ⟨t, ht, heq⟩ := canonicalUtcFromUnixSeconds_eq s
    exact ⟨t, ht, fun u hu => unixSeconds_injective (hu.trans ht.symm), heq⟩
  · obtain ⟨s, hs⟩ := exists_toInt_eq ht
    obtain ⟨u, hu, heq⟩ := canonicalUtcFromUnixSeconds_eq s
    obtain rfl := unixSeconds_injective (hu.trans hs)
    rw [if_pos ht] at heq
    exact ⟨s, hs, heq⟩
  · obtain ⟨t, ht, hcount, rfl⟩ := hok hs
    obtain ⟨v, hv, hcount', rfl⟩ := hok hu
    have horder : t.text < v.text ↔ s < u := by
      rw [DateTime.text_lt_text_iff ht hv, Int64.lt_iff_toInt_lt, ← hcount, ← hcount', unixSeconds,
        unixSeconds]
      omega
    have hback : v.text < t.text ↔ u < s := by
      rw [DateTime.text_lt_text_iff hv ht, Int64.lt_iff_toInt_lt, ← hcount, ← hcount', unixSeconds,
        unixSeconds]
      omega
    refine ⟨⟨fun heq => ?_, fun heq => ?_⟩, horder⟩
    · rw [heq] at horder hback
      apply Int64.toInt_inj.1
      have hle : ¬s < u := fun h => lt_irrefl _ (horder.2 h)
      have hge : ¬u < s := fun h => lt_irrefl _ (hback.2 h)
      rw [Int64.lt_iff_toInt_lt] at hle hge
      omega
    · rw [← heq, ← hcount] at hcount'
      rw [unixSeconds_injective hcount']

example : canonicalUtcFromUnixSeconds 951782400 = some (.ok "2000-02-29T00:00:00Z") := by
  decide +kernel

end Vibapp.ServiceRuntime
