import Mathlib.Data.String.Basic
import Mathlib.Data.List.Lex
import Mathlib.Order.Fin.Basic
import Mathlib.Tactic.IntervalCases
import Mathlib.Tactic.Linarith

/-!
# The proleptic Gregorian calendar of years 1 to 9999

Dates are days since 0001-01-01, instants are seconds since 0001-01-01T00:00:00Z; both types
hold exactly the values Python's `date` and second-precision UTC `datetime` can represent, so
arithmetic that would leave the range is an explicit `none`.

`ord2ymd` and `ymd2ord` are the conversions of `datetime`; `ymd2ord_ord2ymd` and
`ord2ymd_ymd2ord` make them inverse. The canonical texts `YYYY-MM-DD` and
`YYYY-MM-DDTHH:MM:SSZ` have fixed width, so comparing texts is comparing times:
`Instant.text_lt_text_iff`.
-/

namespace Vibapp

namespace Calendar

/-! ## Years and months -/

/-- `calendar.isleap`. -/
def isLeap (y : Nat) : Bool := y % 4 = 0 && (y % 100 ≠ 0 || y % 400 = 0)

/-- Days before January 1st of year `y`, for `y ≥ 1`. -/
def daysBeforeYear (y : Nat) : Nat := 365 * (y - 1) + (y - 1) / 4 - (y - 1) / 100 + (y - 1) / 400

/-- Days in month `m` of a year, by leapness; `0` outside `1..12`. -/
def daysInMonth (leap : Bool) (m : Nat) : Nat :=
  if m = 2 then if leap then 29 else 28
  else [0, 31, 28, 31, 30, 31, 30, 31, 31, 30, 31, 30, 31].getD m 0

/-- Days of a year before the first of month `m`. -/
def daysBeforeMonth (leap : Bool) (m : Nat) : Nat :=
  [0, 0, 31, 59, 90, 120, 151, 181, 212, 243, 273, 304, 334].getD m 0 +
    if 2 < m ∧ leap then 1 else 0

/-- Days in a year, by leapness. -/
def daysInYear (leap : Bool) : Nat := if leap then 366 else 365

/-- Days from 0001-01-01 to the given date. -/
def ymd2ord (y m d : Nat) : Nat := daysBeforeYear y + daysBeforeMonth (isLeap y) m + (d - 1)

/-- Month and day of the `n`-th day of a year. `32` overestimates a month's length by at most
one month, which the test repairs. -/
def monthDay (leap : Bool) (n : Nat) : Nat × Nat :=
  let month := (n + 50) / 32
  if n < daysBeforeMonth leap month then
    (month - 1, n - daysBeforeMonth leap (month - 1) + 1)
  else (month, n - daysBeforeMonth leap month + 1)

/-- Year, month and day of the `n`-th day after 0001-01-01: 400-, 100-, 4- and 1-year cycles
are divided out in turn, and the last day of a cycle's last leap year is the exception. -/
def ord2ymd (n : Nat) : Nat × Nat × Nat :=
  let n400 := n / 146097
  let r400 := n % 146097
  let n100 := r400 / 36524
  let r100 := r400 % 36524
  let n4 := r100 / 1461
  let r4 := r100 % 1461
  let n1 := r4 / 365
  let r1 := r4 % 365
  let year := n400 * 400 + 1 + n100 * 100 + n4 * 4 + n1
  if n1 = 4 ∨ n100 = 4 then (year - 1, 12, 31)
  else
    let leap := n1 = 3 ∧ (n4 ≠ 24 ∨ n100 = 3)
    (year, monthDay leap r1)

/-- A date of the calendar: year `1..9999`, a month, and a day of that month. -/
structure IsDate (y m d : Nat) : Prop where
  year_pos : 1 ≤ y
  year_le : y ≤ 9999
  month_pos : 1 ≤ m
  month_le : m ≤ 12
  day_pos : 1 ≤ d
  day_le : d ≤ daysInMonth (isLeap y) m

instance (y m d : Nat) : Decidable (IsDate y m d) :=
  decidable_of_iff (1 ≤ y ∧ y ≤ 9999 ∧ 1 ≤ m ∧ m ≤ 12 ∧ 1 ≤ d ∧ d ≤ daysInMonth (isLeap y) m)
    ⟨fun ⟨a, b, c, e, f, g⟩ => ⟨a, b, c, e, f, g⟩,
      fun ⟨a, b, c, e, f, g⟩ => ⟨a, b, c, e, f, g⟩⟩

/-- One more than the last day of 9999. -/
def dayCount : Nat := 3652059

theorem monthDay_spec : ∀ leap : Bool, ∀ n < daysInYear leap,
    1 ≤ (monthDay leap n).1 ∧ (monthDay leap n).1 ≤ 12 ∧ 1 ≤ (monthDay leap n).2 ∧
      (monthDay leap n).2 ≤ daysInMonth leap (monthDay leap n).1 ∧
      daysBeforeMonth leap (monthDay leap n).1 + ((monthDay leap n).2 - 1) = n := by
  decide +kernel

theorem daysBeforeYear_cycles {a b c d : Nat} (hb : b ≤ 3) (hc : c ≤ 24) (hd : d ≤ 3) :
    daysBeforeYear (a * 400 + 1 + b * 100 + c * 4 + d) =
      146097 * a + 36524 * b + 1461 * c + 365 * d := by
  unfold daysBeforeYear
  omega

theorem isLeap_cycles {a b c d : Nat} (hb : b ≤ 3) (hc : c ≤ 24) (hd : d ≤ 3) :
    isLeap (a * 400 + 1 + b * 100 + c * 4 + d) = decide (d = 3 ∧ (c ≠ 24 ∨ b = 3)) := by
  have h4 : (a * 400 + 1 + b * 100 + c * 4 + d) % 4 = 0 ↔ d = 3 := by omega
  have h100 : (a * 400 + 1 + b * 100 + c * 4 + d) % 100 = 0 ↔ c = 24 ∧ d = 3 := by omega
  have h400 : (a * 400 + 1 + b * 100 + c * 4 + d) % 400 = 0 ↔ b = 3 ∧ c = 24 ∧ d = 3 := by omega
  rw [Bool.eq_iff_iff]
  simp only [isLeap, Bool.and_eq_true, Bool.or_eq_true, decide_eq_true_eq, ne_eq, h4, h100, h400]
  omega

/-- Every year has its place in the 400-, 100-, 4- and 1-year cycles. -/
theorem exists_cycles {y : Nat} (hy : 1 ≤ y) :
    ∃ a b c d, b ≤ 3 ∧ c ≤ 24 ∧ d ≤ 3 ∧ y = a * 400 + 1 + b * 100 + c * 4 + d := by
  refine ⟨(y - 1) / 400, (y - 1) % 400 / 100, (y - 1) % 100 / 4, (y - 1) % 4, ?_, ?_, ?_, ?_⟩ <;>
    omega

theorem daysBeforeYear_succ {y : Nat} (hy : 1 ≤ y) :
    daysBeforeYear (y + 1) = daysBeforeYear y + daysInYear (isLeap y) := by
  obtain ⟨a, b, c, d, hb, hc, hd, rfl⟩ := exists_cycles hy
  rw [isLeap_cycles hb hc hd, daysBeforeYear_cycles hb hc hd, daysInYear]
  by_cases h3 : d = 3
  · by_cases h24 : c = 24
    · by_cases hb3 : b = 3
      · have := daysBeforeYear_cycles (a := a + 1) (Nat.zero_le 3) (Nat.zero_le 24) (Nat.zero_le 3)
        rw [if_pos (by simp [h3, hb3]),
          show a * 400 + 1 + b * 100 + c * 4 + d + 1 = (a + 1) * 400 + 1 + 0 * 100 + 0 * 4 + 0 by
            omega, this]
        omega
      · have := daysBeforeYear_cycles (a := a) (b := b + 1) (by omega) (Nat.zero_le 24) (Nat.zero_le 3)
        rw [if_neg (by simp [h24, hb3]),
          show a * 400 + 1 + b * 100 + c * 4 + d + 1 = a * 400 + 1 + (b + 1) * 100 + 0 * 4 + 0 by
            omega, this]
        omega
    · have := daysBeforeYear_cycles (a := a) (c := c + 1) hb (by omega) (Nat.zero_le 3)
      rw [if_pos (by simp [h3, h24]),
        show a * 400 + 1 + b * 100 + c * 4 + d + 1 = a * 400 + 1 + b * 100 + (c + 1) * 4 + 0 by
          omega, this]
      omega
  · have := daysBeforeYear_cycles (a := a) (d := d + 1) hb hc (by omega)
    rw [if_neg (by simp [h3]),
      show a * 400 + 1 + b * 100 + c * 4 + d + 1 = a * 400 + 1 + b * 100 + c * 4 + (d + 1) by
        omega, this]
    omega

theorem daysBeforeYear_mono {y z : Nat} (hy : 1 ≤ y) (h : y ≤ z) :
    daysBeforeYear y ≤ daysBeforeYear z := by
  induction z, h using Nat.le_induction with
  | base => exact le_rfl
  | succ z hz ih => rw [daysBeforeYear_succ (by omega)]; omega

/-! ## The conversions are inverse -/

theorem december {y : Nat} (hl : isLeap y = true) (h1 : 1 ≤ y) (h9 : y ≤ 9999) :
    IsDate y 12 31 :=
  ⟨h1, h9, by decide, by decide, by decide, by rw [hl]; decide⟩

theorem ord2ymd_spec {n : Nat} (hn : n < dayCount) :
    IsDate (ord2ymd n).1 (ord2ymd n).2.1 (ord2ymd n).2.2 ∧
      ymd2ord (ord2ymd n).1 (ord2ymd n).2.1 (ord2ymd n).2.2 = n := by
  unfold dayCount at hn
  obtain ⟨a, ha⟩ : ∃ a, n / 146097 = a := ⟨_, rfl⟩
  obtain ⟨r, hr⟩ : ∃ r, n % 146097 = r := ⟨_, rfl⟩
  obtain ⟨b, hb⟩ : ∃ b, r / 36524 = b := ⟨_, rfl⟩
  obtain ⟨s, hs⟩ : ∃ s, r % 36524 = s := ⟨_, rfl⟩
  obtain ⟨c, hc⟩ : ∃ c, s / 1461 = c := ⟨_, rfl⟩
  obtain ⟨t, ht⟩ : ∃ t, s % 1461 = t := ⟨_, rfl⟩
  obtain ⟨d, hd⟩ : ∃ d, t / 365 = d := ⟨_, rfl⟩
  obtain ⟨u, hu⟩ : ∃ u, t % 365 = u := ⟨_, rfl⟩
  have hn' : n = 146097 * a + 36524 * b + 1461 * c + 365 * d + u := by omega
  have hval : ord2ymd n = if d = 4 ∨ b = 4 then (a * 400 + 1 + b * 100 + c * 4 + d - 1, 12, 31)
      else (a * 400 + 1 + b * 100 + c * 4 + d, monthDay (d = 3 ∧ (c ≠ 24 ∨ b = 3)) u) := by
    simp only [ord2ymd, ha, hr, hb, hs, hc, ht, hd, hu]
  rw [hval]
  by_cases hlast : d = 4 ∨ b = 4
  · -- the last day of a leap year: the year before has `d = 3`, or `b = 3, c = 24, d = 3`
    rw [if_pos hlast]
    rcases hlast with h4 | h4
    · have hu0 : u = 0 := by omega
      have hb3 : b ≤ 3 := by omega
      have hc24 : c ≤ 24 := by omega
      have hcb : c ≠ 24 ∨ b = 3 := by omega
      have hy : a * 400 + 1 + b * 100 + c * 4 + d - 1 = a * 400 + 1 + b * 100 + c * 4 + 3 := by omega
      have hl : isLeap (a * 400 + 1 + b * 100 + c * 4 + 3) = true := by
        rw [isLeap_cycles hb3 hc24 le_rfl]
        simpa using hcb
      rw [hy]
      refine ⟨december hl (by omega) (by omega), ?_⟩
      rw [ymd2ord, daysBeforeYear_cycles hb3 hc24 le_rfl, hl]
      show _ + 335 + 30 = n
      omega
    · have hz : s = 0 ∧ c = 0 ∧ d = 0 ∧ u = 0 := by omega
      obtain ⟨-, rfl, rfl, rfl⟩ := hz
      subst h4
      have hy : a * 400 + 1 + 4 * 100 + 0 * 4 + 0 - 1 = a * 400 + 1 + 3 * 100 + 24 * 4 + 3 := by omega
      have hl : isLeap (a * 400 + 1 + 3 * 100 + 24 * 4 + 3) = true := by
        rw [isLeap_cycles le_rfl le_rfl le_rfl]; rfl
      rw [hy]
      refine ⟨december hl (by omega) (by omega), ?_⟩
      rw [ymd2ord, daysBeforeYear_cycles le_rfl le_rfl le_rfl, hl]
      show _ + 335 + 30 = n
      omega
  · rw [if_neg hlast]
    have hb3 : b ≤ 3 := by omega
    have hc24 : c ≤ 24 := by omega
    have hd3 : d ≤ 3 := by omega
    have hl := isLeap_cycles (a := a) hb3 hc24 hd3
    have hu366 : u < daysInYear (decide (d = 3 ∧ (c ≠ 24 ∨ b = 3))) := by
      unfold daysInYear
      split <;> omega
    obtain ⟨h1, h2, h3, h4, h5⟩ := monthDay_spec _ u hu366
    refine ⟨⟨by omega, by omega, h1, h2, h3, by rw [hl]; exact h4⟩, ?_⟩
    rw [ymd2ord, daysBeforeYear_cycles hb3 hc24 hd3, hl]
    dsimp only
    omega

theorem dayOfYear_lt : ∀ leap : Bool, ∀ m ≤ 12, 1 ≤ m → ∀ d ≤ daysInMonth leap m, 1 ≤ d →
    daysBeforeMonth leap m + (d - 1) < daysInYear leap ∧
      monthDay leap (daysBeforeMonth leap m + (d - 1)) = (m, d) := by
  decide +kernel

theorem ymd2ord_lt {y m d : Nat} (h : IsDate y m d) :
    daysBeforeYear y ≤ ymd2ord y m d ∧ ymd2ord y m d < daysBeforeYear (y + 1) := by
  have hlt := (dayOfYear_lt (isLeap y) m h.month_le h.month_pos d h.day_le h.day_pos).1
  rw [daysBeforeYear_succ h.year_pos, ymd2ord]
  omega

theorem ymd2ord_lt_dayCount {y m d : Nat} (h : IsDate y m d) : ymd2ord y m d < dayCount := by
  have hlt := (ymd2ord_lt h).2
  have hle := daysBeforeYear_mono (y := y + 1) (z := 10000) (by omega) (by have := h.year_le; omega)
  have hmax : daysBeforeYear 10000 = dayCount := by decide
  omega

theorem daysInMonth_le (leap : Bool) (m : Nat) : daysInMonth leap m ≤ 31 := by
  unfold daysInMonth
  split
  · split <;> omega
  · rename_i h
    by_cases hm : m < 13
    · interval_cases m <;> simp
    · rw [List.getD_eq_getElem?_getD, List.getElem?_eq_none (by simpa using hm)]
      simp

/-- Dates in chronological order are days in numerical order. -/
theorem ymd2ord_lt_of_lt {y m d y' m' d' : Nat} (h : IsDate y m d) (h' : IsDate y' m' d')
    (hlt : y < y' ∨ y = y' ∧ (m < m' ∨ m = m' ∧ d < d')) : ymd2ord y m d < ymd2ord y' m' d' := by
  rcases hlt with hy | ⟨rfl, hmd⟩
  · have h1 := (ymd2ord_lt h).2
    have h2 := (ymd2ord_lt h').1
    have h3 := daysBeforeYear_mono (y := y + 1) (z := y') (by omega) hy
    omega
  · have key : ∀ leap : Bool, ∀ m ≤ 12, ∀ m' ≤ 12, m < m' → 1 ≤ m →
        daysBeforeMonth leap m + daysInMonth leap m ≤ daysBeforeMonth leap m' := by decide +kernel
    have hd := h.day_le
    have hd1 := h.day_pos
    have hd1' := h'.day_pos
    unfold ymd2ord
    rcases hmd with hm | ⟨rfl, hd'⟩
    · have := key (isLeap y) m h.month_le m' h'.month_le hm h.month_pos
      omega
    · omega

theorem ymd2ord_injective {y m d y' m' d' : Nat} (h : IsDate y m d) (h' : IsDate y' m' d')
    (heq : ymd2ord y m d = ymd2ord y' m' d') : (y, m, d) = (y', m', d') := by
  by_contra hne
  have hcase : (y < y' ∨ y = y' ∧ (m < m' ∨ m = m' ∧ d < d')) ∨
      (y' < y ∨ y' = y ∧ (m' < m ∨ m' = m ∧ d' < d)) := by
    simp only [Prod.mk.injEq] at hne
    omega
  rcases hcase with hlt | hlt
  · have := ymd2ord_lt_of_lt h h' hlt; omega
  · have := ymd2ord_lt_of_lt h' h hlt; omega

theorem ord2ymd_ymd2ord {y m d : Nat} (h : IsDate y m d) : ord2ymd (ymd2ord y m d) = (y, m, d) := by
  obtain ⟨h1, h2⟩ := ord2ymd_spec (ymd2ord_lt_dayCount h)
  exact ymd2ord_injective h1 h h2

/-! ## Digits -/

/-- The digit character of `n < 10`. -/
def digit (n : Nat) : Char := Char.ofNat (48 + n)

/-- The value of a digit character. -/
def digitVal (c : Char) : Option Nat :=
  if 48 ≤ c.toNat ∧ c.toNat ≤ 57 then some (c.toNat - 48) else none

/-- `n < 10 ^ w` in decimal, zero-padded to `w` digits. -/
def pad : Nat → Nat → List Char
  | 0, _ => []
  | w + 1, n => digit (n / 10 ^ w) :: pad w (n % 10 ^ w)

/-- Read a run of digits. -/
def number : List Char → Option Nat
  | [] => some 0
  | c :: cs => do
    let v ← digitVal c
    let r ← number cs
    return v * 10 ^ cs.length + r

theorem toNat_digit {n : Nat} (h : n < 10) : (digit n).toNat = 48 + n := by
  interval_cases n <;> rfl

theorem digitVal_digit {n : Nat} (h : n < 10) : digitVal (digit n) = some n := by
  interval_cases n <;> rfl

theorem digit_of_digitVal {c : Char} {n : Nat} (h : digitVal c = some n) : digit n = c ∧ n < 10 := by
  unfold digitVal at h
  split at h
  · rename_i hc
    have hn : n = c.toNat - 48 := (Option.some.inj h).symm
    refine ⟨?_, by omega⟩
    rw [hn, digit, Nat.add_sub_cancel' hc.1, Char.ofNat_toNat]
  · exact absurd h (by simp)

@[simp] theorem length_pad (w n : Nat) : (pad w n).length = w := by
  induction w generalizing n with
  | zero => rfl
  | succ w ih => simp [pad, ih]

theorem div_pow_lt {w n : Nat} (h : n < 10 ^ (w + 1)) : n / 10 ^ w < 10 :=
  Nat.div_lt_of_lt_mul (by rwa [pow_succ] at h)

theorem number_pad {w n : Nat} (h : n < 10 ^ w) : number (pad w n) = some n := by
  induction w generalizing n with
  | zero => simp [pad, number] at *; omega
  | succ w ih =>
    simp only [pad, number, digitVal_digit (div_pow_lt h), ih (Nat.mod_lt n (by positivity)),
      Option.bind_eq_bind, Option.bind_some, length_pad]
    rw [Nat.div_add_mod']
    rfl

theorem pad_of_number {cs : List Char} {n : Nat} (h : number cs = some n) :
    pad cs.length n = cs ∧ n < 10 ^ cs.length := by
  induction cs generalizing n with
  | nil => simp only [number, Option.some.injEq] at h; simp [pad, ← h]
  | cons c cs ih =>
    simp only [number, Option.bind_eq_bind, Option.bind_eq_some_iff, Option.pure_def,
      Option.some.injEq] at h
    obtain ⟨v, hv, r, hr, rfl⟩ := h
    obtain ⟨hc, hv10⟩ := digit_of_digitVal hv
    obtain ⟨hcs, hr10⟩ := ih hr
    have hpos : 0 < 10 ^ cs.length := by positivity
    have hdiv : (v * 10 ^ cs.length + r) / 10 ^ cs.length = v := by
      rw [Nat.add_comm, Nat.add_mul_div_right _ _ hpos, Nat.div_eq_of_lt hr10, Nat.zero_add]
    have hmod : (v * 10 ^ cs.length + r) % 10 ^ cs.length = r := by
      rw [Nat.add_comm, Nat.add_mul_mod_self_right, Nat.mod_eq_of_lt hr10]
    refine ⟨by rw [List.length_cons, pad, hdiv, hmod, hc, hcs], ?_⟩
    rw [List.length_cons, pow_succ]
    nlinarith

theorem pad_inj {w m n : Nat} (hm : m < 10 ^ w) (hn : n < 10 ^ w) (h : pad w m = pad w n) :
    m = n := by
  have := congrArg number h
  rwa [number_pad hm, number_pad hn, Option.some.injEq] at this

/-- Texts that start with runs of one length compare by these runs first. -/
theorem append_lt_append_iff {l₁ l₂ r₁ r₂ : List Char} (h : l₁.length = l₂.length) :
    l₁ ++ r₁ < l₂ ++ r₂ ↔ l₁ < l₂ ∨ l₁ = l₂ ∧ r₁ < r₂ := by
  induction l₁ generalizing l₂ with
  | nil =>
    obtain rfl : l₂ = [] := List.length_eq_zero_iff.1 h.symm
    simp
  | cons a l₁ ih =>
    obtain ⟨b, l₂, rfl⟩ : ∃ b t, l₂ = b :: t := List.exists_cons_of_length_eq_add_one h.symm
    simp only [List.cons_append, List.cons_lt_cons_iff, ih (Nat.succ.inj h), List.cons.injEq]
    tauto

/-- Zero-padded numbers of one width compare as numbers. -/
theorem pad_lt_pad_iff {w m n : Nat} (hm : m < 10 ^ w) (hn : n < 10 ^ w) :
    pad w m < pad w n ↔ m < n := by
  induction w generalizing m n with
  | zero => simp [pad] at *; omega
  | succ w ih =>
    have hpos : 0 < 10 ^ w := by positivity
    have hdm := div_pow_lt hm
    have hdn := div_pow_lt hn
    have hlt : digit (m / 10 ^ w) < digit (n / 10 ^ w) ↔ m / 10 ^ w < n / 10 ^ w := by
      rw [Char.lt_def, UInt32.lt_iff_toNat_lt]
      show (digit _).toNat < (digit _).toNat ↔ _
      rw [toNat_digit hdm, toNat_digit hdn]
      omega
    have heq : digit (m / 10 ^ w) = digit (n / 10 ^ w) ↔ m / 10 ^ w = n / 10 ^ w := by
      refine ⟨fun h => ?_, fun h => by rw [h]⟩
      have := congrArg Char.toNat h
      rw [toNat_digit hdm, toNat_digit hdn] at this
      omega
    rw [pad, pad, List.cons_lt_cons_iff, hlt, heq, ih (Nat.mod_lt m hpos) (Nat.mod_lt n hpos)]
    have h1 := Nat.div_add_mod m (10 ^ w)
    have h2 := Nat.div_add_mod n (10 ^ w)
    have h3 := Nat.mod_lt m hpos
    have h4 := Nat.mod_lt n hpos
    constructor
    · rintro (h | ⟨h, h'⟩)
      · by_contra hle
        have := Nat.div_le_div_right (c := 10 ^ w) (not_lt.1 hle)
        omega
      · rw [h] at h1; omega
    · intro h
      rcases lt_or_eq_of_le (Nat.div_le_div_right (c := 10 ^ w) h.le) with hlt | heq
      · exact Or.inl hlt
      · rw [heq] at h1
        exact Or.inr ⟨heq, by omega⟩

end Calendar

open Calendar

/-! ## Dates -/

/-- A `datetime.date`: days since 0001-01-01. -/
abbrev Date := Fin dayCount

namespace Date

/-- Year, month and day. -/
def ymd (d : Date) : Nat × Nat × Nat := ord2ymd d

/-- `date(y, m, d)`. -/
def ofYmd? (y m d : Nat) : Option Date :=
  if h : IsDate y m d then some ⟨ymd2ord y m d, ymd2ord_lt_dayCount h⟩ else none

/-- `d + timedelta(days=1)`. -/
def succ? (d : Date) : Option Date := if h : d.val + 1 < dayCount then some ⟨d + 1, h⟩ else none

/-- `d.weekday()`: Monday is `0`. The first day of the calendar is a Monday. -/
def weekday (d : Date) : Nat := d % 7

/-- The characters of `d.isoformat()`. -/
def chars (d : Date) : List Char :=
  pad 4 d.ymd.1 ++ '-' :: (pad 2 d.ymd.2.1 ++ '-' :: pad 2 d.ymd.2.2)

/-- `d.isoformat()`. -/
def isoformat (d : Date) : String := String.ofList d.chars

theorem isDate_ymd (d : Date) : IsDate d.ymd.1 d.ymd.2.1 d.ymd.2.2 := (ord2ymd_spec d.isLt).1

theorem ymd2ord_ymd (d : Date) : ymd2ord d.ymd.1 d.ymd.2.1 d.ymd.2.2 = d := (ord2ymd_spec d.isLt).2

theorem ofYmd?_ymd (d : Date) : ofYmd? d.ymd.1 d.ymd.2.1 d.ymd.2.2 = some d := by
  rw [ofYmd?, dif_pos d.isDate_ymd]
  exact congrArg some (Fin.ext d.ymd2ord_ymd)

theorem ymd_of_ofYmd? {y m d : Nat} {x : Date} (h : ofYmd? y m d = some x) : x.ymd = (y, m, d) := by
  unfold ofYmd? at h
  split at h
  · rename_i hd
    rw [← Option.some.inj h]
    exact ord2ymd_ymd2ord hd
  · exact absurd h (by simp)

theorem succ?_eq_some {d e : Date} (h : d.succ? = some e) : (e : Nat) = d + 1 := by
  unfold succ? at h
  split at h
  · rw [← Option.some.inj h]
  · exact absurd h (by simp)

theorem lt_of_succ? {d e : Date} (h : d.succ? = some e) : d < e := by
  have := succ?_eq_some h
  exact Fin.lt_def.2 (by omega)

@[simp] theorem length_chars (d : Date) : d.chars.length = 10 := by simp [chars]

theorem chars_lt_chars_iff (d e : Date) : d.chars < e.chars ↔ d < e := by
  have hd := d.isDate_ymd
  have he := e.isDate_ymd
  have h31 : ∀ {y m k : Nat}, IsDate y m k → k < 10 ^ 2 := by
    intro y m k h
    exact lt_of_le_of_lt (h.day_le.trans (daysInMonth_le _ m)) (by decide)
  have hy := pad_lt_pad_iff (w := 4) (lt_of_le_of_lt hd.year_le (by decide))
    (lt_of_le_of_lt he.year_le (by decide))
  have hm := pad_lt_pad_iff (w := 2) (lt_of_le_of_lt hd.month_le (by decide))
    (lt_of_le_of_lt he.month_le (by decide))
  have hday := pad_lt_pad_iff (w := 2) (h31 hd) (h31 he)
  have hyi := pad_inj (w := 4) (lt_of_le_of_lt hd.year_le (by decide))
    (lt_of_le_of_lt he.year_le (by decide))
  have hmi := pad_inj (w := 2) (lt_of_le_of_lt hd.month_le (by decide))
    (lt_of_le_of_lt he.month_le (by decide))
  rw [chars, chars, append_lt_append_iff (by simp), List.cons_lt_cons_self,
    append_lt_append_iff (by simp), List.cons_lt_cons_self, hy, hm, hday, Fin.lt_def,
    ← ymd2ord_ymd d, ← ymd2ord_ymd e]
  constructor
  · rintro (h | ⟨h, h' | ⟨h', h''⟩⟩)
    · exact ymd2ord_lt_of_lt hd he (Or.inl h)
    · exact ymd2ord_lt_of_lt hd he (Or.inr ⟨hyi h, Or.inl h'⟩)
    · exact ymd2ord_lt_of_lt hd he (Or.inr ⟨hyi h, Or.inr ⟨hmi h', h''⟩⟩)
  · intro h
    rcases lt_trichotomy d.ymd.1 e.ymd.1 with h1 | h1 | h1
    · exact Or.inl h1
    · refine Or.inr ⟨by rw [h1], ?_⟩
      rcases lt_trichotomy d.ymd.2.1 e.ymd.2.1 with h2 | h2 | h2
      · exact Or.inl h2
      · refine Or.inr ⟨by rw [h2], ?_⟩
        by_contra hle
        rcases lt_or_eq_of_le (not_lt.1 hle) with h3 | h3
        · have := ymd2ord_lt_of_lt he hd (Or.inr ⟨h1.symm, Or.inr ⟨h2.symm, h3⟩⟩)
          omega
        · rw [h1, h2, h3] at h
          exact absurd h (lt_irrefl _)
      · have := ymd2ord_lt_of_lt he hd (Or.inr ⟨h1.symm, Or.inl h2⟩)
        omega
    · have := ymd2ord_lt_of_lt he hd (Or.inl h1)
      omega

theorem chars_injective : Function.Injective chars := by
  intro d e h
  rcases lt_trichotomy d e with hlt | rfl | hlt
  · exact absurd (h ▸ (chars_lt_chars_iff d e).2 hlt) (lt_irrefl _)
  · rfl
  · exact absurd (h ▸ (chars_lt_chars_iff e d).2 hlt) (lt_irrefl _)

end Date

/-! ## Times of day -/

/-- A `datetime.time` without sub-second part: seconds since midnight. -/
abbrev Time := Fin 86400

namespace Time

def hour (t : Time) : Nat := t / 3600
def minute (t : Time) : Nat := t / 60 % 60
def second (t : Time) : Nat := t % 60

/-- `time(h, m, s)`. -/
def ofHms? (h m s : Nat) : Option Time :=
  if hv : h < 24 ∧ m < 60 ∧ s < 60 then some ⟨h * 3600 + m * 60 + s, by omega⟩ else none

/-- The characters `HH:MM:SS`. -/
def chars (t : Time) : List Char := pad 2 t.hour ++ ':' :: (pad 2 t.minute ++ ':' :: pad 2 t.second)

theorem hour_lt (t : Time) : t.hour < 24 := by unfold hour; have := t.isLt; omega
theorem minute_lt (t : Time) : t.minute < 60 := by unfold minute; omega
theorem second_lt (t : Time) : t.second < 60 := by unfold second; omega

theorem val_eq (t : Time) : (t : Nat) = t.hour * 3600 + t.minute * 60 + t.second := by
  unfold hour minute second; omega

theorem ofHms?_hms (t : Time) : ofHms? t.hour t.minute t.second = some t := by
  rw [ofHms?, dif_pos ⟨t.hour_lt, t.minute_lt, t.second_lt⟩]
  exact congrArg some (Fin.ext t.val_eq.symm)

theorem hms_of_ofHms? {h m s : Nat} {t : Time} (ht : ofHms? h m s = some t) :
    t.hour = h ∧ t.minute = m ∧ t.second = s := by
  unfold ofHms? at ht
  split at ht
  · rw [← Option.some.inj ht]
    refine ⟨?_, ?_, ?_⟩ <;> simp only [hour, minute, second] <;> omega
  · exact absurd ht (by simp)

@[simp] theorem length_chars (t : Time) : t.chars.length = 8 := by simp [chars]

theorem chars_lt_chars_iff (t u : Time) : t.chars < u.chars ↔ t < u := by
  have h1 := t.hour_lt
  have h2 := t.minute_lt
  have h3 := t.second_lt
  have k1 := u.hour_lt
  have k2 := u.minute_lt
  have k3 := u.second_lt
  have hh : pad 2 t.hour = pad 2 u.hour ↔ t.hour = u.hour :=
    ⟨pad_inj (by omega) (by omega), fun h => by rw [h]⟩
  have hm : pad 2 t.minute = pad 2 u.minute ↔ t.minute = u.minute :=
    ⟨pad_inj (by omega) (by omega), fun h => by rw [h]⟩
  rw [chars, chars, append_lt_append_iff (by simp), List.cons_lt_cons_self,
    append_lt_append_iff (by simp), List.cons_lt_cons_self,
    pad_lt_pad_iff (by omega) (by omega), pad_lt_pad_iff (by omega) (by omega),
    pad_lt_pad_iff (by omega) (by omega), hh, hm, Fin.lt_def, t.val_eq, u.val_eq]
  omega

theorem chars_injective : Function.Injective chars := by
  intro t u h
  rcases lt_trichotomy t u with hlt | rfl | hlt
  · exact absurd (h ▸ (chars_lt_chars_iff t u).2 hlt) (lt_irrefl _)
  · rfl
  · exact absurd (h ▸ (chars_lt_chars_iff u t).2 hlt) (lt_irrefl _)

end Time

/-! ## Instants -/

/-- One more than the last second of 9999. -/
def Calendar.secondCount : Nat := dayCount * 86400

/-- A UTC `datetime` without sub-second part: seconds since 0001-01-01T00:00:00Z. -/
abbrev Instant := Fin secondCount

namespace Instant

/-- `datetime.combine(date, time)`, as seconds of the naive calendar. -/
def combine (d : Date) (t : Time) : Instant :=
  ⟨d * 86400 + t, by have := d.isLt; have := t.isLt; unfold secondCount; omega⟩

def date (t : Instant) : Date := ⟨t / 86400, by have := t.isLt; unfold secondCount at this; omega⟩

def time (t : Instant) : Time := ⟨t % 86400, Nat.mod_lt _ (by decide)⟩

/-- `t + timedelta(seconds=k)`; `none` is `OverflowError`. -/
def add? (t : Instant) (k : Int) : Option Instant :=
  if h : 0 ≤ (t : Int) + k ∧ (t : Int) + k < secondCount then
    some ⟨((t : Int) + k).toNat, by omega⟩
  else none

/-- The characters `YYYY-MM-DDTHH:MM:SSZ`. -/
def chars (t : Instant) : List Char := t.date.chars ++ 'T' :: (t.time.chars ++ ['Z'])

/-- The canonical text of an instant. -/
def text (t : Instant) : String := String.ofList t.chars

/-- Read a canonical text. -/
def ofText? (s : String) : Option Instant :=
  match s.toList with
  | [y1, y2, y3, y4, c1, m1, m2, c2, d1, d2, c3, h1, h2, c4, n1, n2, c5, s1, s2, c6] =>
    if c1 = '-' ∧ c2 = '-' ∧ c3 = 'T' ∧ c4 = ':' ∧ c5 = ':' ∧ c6 = 'Z' then do
      let d ← Date.ofYmd? (← number [y1, y2, y3, y4]) (← number [m1, m2]) (← number [d1, d2])
      let t ← Time.ofHms? (← number [h1, h2]) (← number [n1, n2]) (← number [s1, s2])
      return combine d t
    else none
  | _ => none

@[simp] theorem date_combine (d : Date) (t : Time) : (combine d t).date = d :=
  Fin.ext (by have := t.isLt; simp only [combine, date]; omega)

@[simp] theorem time_combine (d : Date) (t : Time) : (combine d t).time = t :=
  Fin.ext (by have := t.isLt; simp only [combine, time]; omega)

@[simp] theorem combine_date_time (t : Instant) : combine t.date t.time = t :=
  Fin.ext (by simp only [combine, date, time]; omega)

theorem add?_eq_some {t u : Instant} {k : Int} (h : t.add? k = some u) : (u : Int) = t + k := by
  unfold add? at h
  split at h
  · rw [← Option.some.inj h]
    simp only
    omega
  · exact absurd h (by simp)

@[simp] theorem length_chars (t : Instant) : t.chars.length = 20 := by simp [chars]

/-- **Comparing canonical texts is comparing instants.** -/
theorem chars_lt_chars_iff (t u : Instant) : t.chars < u.chars ↔ t < u := by
  rw [chars, chars, append_lt_append_iff (by simp), List.cons_lt_cons_self,
    append_lt_append_iff (by simp), Date.chars_lt_chars_iff, Time.chars_lt_chars_iff,
    Date.chars_injective.eq_iff, Fin.lt_def, Fin.lt_def, Fin.lt_def, Fin.ext_iff]
  simp only [date, time, lt_irrefl, and_false, or_false]
  omega

theorem text_lt_text_iff (t u : Instant) : t.text < u.text ↔ t < u := by
  rw [String.lt_iff_toList_lt, text, text, String.toList_ofList, String.toList_ofList,
    chars_lt_chars_iff]

theorem text_injective : Function.Injective text := by
  intro t u h
  rcases lt_trichotomy t u with hlt | rfl | hlt
  · exact absurd (h ▸ (text_lt_text_iff t u).2 hlt) (lt_irrefl _)
  · rfl
  · exact absurd (h ▸ (text_lt_text_iff u t).2 hlt) (lt_irrefl _)

/-- Comparing canonical texts is comparing instants, for `<=`. -/
theorem text_le_text_iff (t u : Instant) : t.text ≤ u.text ↔ t ≤ u := by
  rw [← not_lt, ← not_lt, text_lt_text_iff]

/-- **A canonical text reads back as its instant.** -/
theorem ofText?_text (t : Instant) : ofText? t.text = some t := by
  have hd := t.date.isDate_ymd
  have hday := le_trans hd.day_le (daysInMonth_le _ _)
  have hyear := number_pad (w := 4) (lt_of_le_of_lt hd.year_le (by decide))
  have hmonth := number_pad (w := 2) (lt_of_le_of_lt hd.month_le (by decide))
  have hdom := number_pad (w := 2) (lt_of_le_of_lt hday (by decide))
  have hhour := number_pad (w := 2) (lt_trans t.time.hour_lt (by decide))
  have hminute := number_pad (w := 2) (lt_trans t.time.minute_lt (by decide))
  have hsecond := number_pad (w := 2) (lt_trans t.time.second_lt (by decide))
  simp only [pad] at hyear hmonth hdom hhour hminute hsecond
  simp only [ofText?, text, String.toList_ofList, chars, Date.chars, Time.chars, pad,
    List.cons_append, List.nil_append, and_self, if_true, hyear, hmonth, hdom, hhour, hminute,
    hsecond, Option.bind_eq_bind, Option.bind_some, Date.ofYmd?_ymd, Time.ofHms?_hms,
    combine_date_time]
  rfl

/-- **What reads as an instant is its canonical text.** -/
theorem text_of_ofText? {s : String} {t : Instant} (h : ofText? s = some t) : t.text = s := by
  unfold ofText? at h
  split at h
  · rename_i y1 y2 y3 y4 c1 m1 m2 c2 d1 d2 c3 h1 h2 c4 n1 n2 c5 s1 s2 c6 hs
    split at h
    · rename_i hc
      obtain ⟨rfl, rfl, rfl, rfl, rfl, rfl⟩ := hc
      simp only [Option.bind_eq_bind, Option.bind_eq_some_iff, Option.pure_def,
        Option.some.injEq] at h
      obtain ⟨y, hy, m, hm, k, hk, d, hd, hh, hhh, mi, hmi, sec, hsec, tm, htm, rfl⟩ := h
      have hymd := Date.ymd_of_ofYmd? hd
      obtain ⟨e1, e2, e3⟩ := Time.hms_of_ofHms? htm
      have p1 : pad 4 y = [y1, y2, y3, y4] := (pad_of_number hy).1
      have p2 : pad 2 m = [m1, m2] := (pad_of_number hm).1
      have p3 : pad 2 k = [d1, d2] := (pad_of_number hk).1
      have p4 : pad 2 hh = [h1, h2] := (pad_of_number hhh).1
      have p5 : pad 2 mi = [n1, n2] := (pad_of_number hmi).1
      have p6 : pad 2 sec = [s1, s2] := (pad_of_number hsec).1
      rw [text, ← String.ofList_toList (s := s), hs, chars, date_combine, time_combine,
        Date.chars, Time.chars, hymd, e1, e2, e3, p1, p2, p3, p4, p5, p6]
      rfl
    · exact absurd h (by simp)
  · exact absurd h (by simp)

end Instant

end Vibapp
