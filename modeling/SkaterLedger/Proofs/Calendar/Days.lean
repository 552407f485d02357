import Mathlib.Data.Int.Notation
import Mathlib.Data.List.Basic
import Mathlib.Tactic.IntervalCases
import Mathlib.Tactic.SplitIfs
import SkaterLedger.Calendar.Date

/-!
# Dates and days

Every day has a date that exists (`isValid_ofDays`) and counts back to it (`toDays_ofDays`). In a
period of 400 years a year is found by taking out the leap days: what is left grows with the day and
is 365 times the year at the year's first day, so that division by 365 finds the year.
-/

namespace SkaterLedger.Date

variable {n y : ℕ}

/-- The days of a period before one of its years. -/
def yearStart (y : ℕ) : ℕ := 365 * y + y / 4 - y / 100

/-- The days of a period before a day, without leap days. -/
def plainDays (n : ℕ) : ℕ := n - n / 1460 + n / 36524 - n / 146096

/-- Later days have more days before them. -/
theorem plainDays_mono {n' : ℕ} (h : n ≤ n') (h' : n' < 146097) : plainDays n ≤ plainDays n' := by
  have hfour : n - n / 1460 ≤ n' - n' / 1460 := by omega
  have hhundred : n / 36524 ≤ n' / 36524 := Nat.div_le_div_right h
  have hlast : n' / 146096 = 0 ∨ n' = 146096 := by omega
  unfold plainDays
  rcases hlast with hlast | rfl
  · omega
  · omega

/-- The first day of a year, by its centuries, its groups of four years and its years. -/
theorem yearStart_eq {c q r : ℕ} (hq : q < 25) (hr : r < 4) :
    yearStart (100 * c + 4 * q + r) = 1460 * (25 * c + q) + (24 * c + q + 365 * r) := by
  unfold yearStart
  omega

/-- A year of a period by its centuries, its groups of four years and its years. -/
theorem exists_parts (hy : y < 400) :
    ∃ c q r, c < 4 ∧ q < 25 ∧ r < 4 ∧ y = 100 * c + 4 * q + r :=
  ⟨y / 100, y % 100 / 4, y % 4, by omega, by omega, by omega, by omega⟩

/-- The first day of a year has 365 days before it for every year before, and the day before that
has less. -/
theorem plainDays_yearStart (hy : y < 400) :
    plainDays (yearStart y) = 365 * y ∧ ∀ n < yearStart y, plainDays n < 365 * y := by
  obtain ⟨c, q, r, hc, hq, hr, rfl⟩ := exists_parts hy
  have hstart := yearStart_eq (c := c) hq hr
  generalize yearStart (100 * c + 4 * q + r) = start at *
  have hfour : start / 1460 = 25 * c + q := by omega
  have hhundred : start / 36524 = c := by omega
  have hlast : start / 146096 = 0 := by omega
  refine ⟨by unfold plainDays; omega, fun n hn => ?_⟩
  have hmono := plainDays_mono (Nat.le_sub_one_of_lt hn) (by omega)
  -- The day before a year's first day lies in the same group of 1460 days.
  have hfour' : (start - 1) / 1460 = 25 * c + q := by omega
  have hhundred' : (start - 1) / 36524 ≤ c := by omega
  have hbefore : plainDays (start - 1) < 365 * (100 * c + 4 * q + r) := by
    unfold plainDays
    omega
  omega

/-- The year of a day: the day does not lie before the year, nor after it. -/
theorem yearStart_le (hn : n < 146097) (hy : y = plainDays n / 365) :
    y < 400 ∧ yearStart y ≤ n ∧ (y = 399 ∨ n < yearStart (y + 1)) := by
  have hlast : plainDays n ≤ plainDays 146096 := plainDays_mono (by omega) (by omega)
  have hlt : y < 400 := by
    have hvalue : plainDays 146096 = 145999 := rfl
    omega
  refine ⟨hlt, ?_, ?_⟩
  · by_contra hbefore
    have hless := (plainDays_yearStart hlt).2 n (Nat.not_le.mp hbefore)
    omega
  · by_contra hafter
    rw [not_or, Nat.not_lt] at hafter
    have hnext := (plainDays_yearStart (show y + 1 < 400 by omega)).1
    have hmore := plainDays_mono hafter.2 hn
    omega

/-- A year is followed by 366 days only if the next year is a leap year. -/
theorem yearStart_succ_le (h : (y + 1) % 4 ≠ 0 ∨ (y + 1) % 100 = 0) :
    yearStart (y + 1) ≤ yearStart y + 365 := by
  unfold yearStart
  rcases h with h | h
  · have hfour : (y + 1) / 4 = y / 4 := by omega
    have hhundred : y / 100 ≤ (y + 1) / 100 := by omega
    omega
  · have hfour : (y + 1) / 4 ≤ y / 4 + 1 := by omega
    have hhundred : (y + 1) / 100 = y / 100 + 1 := by omega
    omega

/-- The date of a day of a year that starts in March. -/
def ofDayOfYear (year : ℤ) (n : ℕ) : Date :=
  let month := (5 * n + 2) / 153
  let day := n - (153 * month + 2) / 5 + 1
  if month < 10 then ⟨year, month + 3, day⟩ else ⟨year + 1, month - 9, day⟩

/-- The date of a day, by its period of 400 years, the year in it, and the day of that year. A year
has a 366th day only if the next year, in which its February lies, is a leap year. -/
theorem exists_ofDays (days : ℤ) : ∃ (period : ℤ) (y n : ℕ),
    days + epochDays = 146097 * period + yearStart y + n ∧ y < 400 ∧ n ≤ 365 ∧
      (n = 365 → isLeapYear (400 * period + y + 1) = true) ∧
      ofDays days = ofDayOfYear (400 * period + y) n := by
  have hdays := Int.emod_add_mul_ediv (days + epochDays) 146097
  have hnonneg := Int.emod_nonneg (days + epochDays) (b := 146097) (by decide)
  have hlt := Int.emod_lt_of_pos (days + epochDays) (b := 146097) (by decide)
  obtain ⟨k, hk⟩ := Int.eq_ofNat_of_zero_le hnonneg
  have hyear := yearStart_le (n := k) (by omega) rfl
  refine ⟨(days + epochDays) / 146097, plainDays k / 365, k - yearStart (plainDays k / 365), ?_⟩
  have hdate : ofDays days = ofDayOfYear
      (400 * ((days + epochDays) / 146097) + (plainDays k / 365 : ℕ))
      (k - yearStart (plainDays k / 365)) := by
    unfold ofDays
    dsimp only
    rw [hk]
    rfl
  generalize plainDays k / 365 = y at *
  generalize (days + epochDays) / 146097 = period at *
  obtain ⟨hy, hstart, hnext⟩ := hyear
  refine ⟨by omega, hy, ?_, fun hleap => ?_, hdate⟩
  · rcases hnext with rfl | hnext
    · have hlast : yearStart 399 = 145731 := rfl
      omega
    · unfold yearStart at *
      omega
  · have hyear : y = 399 ∨ (y + 1) % 4 = 0 ∧ (y + 1) % 100 ≠ 0 := by
      by_contra hplain
      have hsucc := yearStart_succ_le (y := y) (by omega)
      omega
    unfold isLeapYear
    simp only [Bool.and_eq_true, Bool.or_eq_true, beq_iff_eq, bne_iff_ne, ne_eq]
    omega

/-- A month from March to December has the days up to the next one. -/
theorem le_daysInMonth {month : ℕ} (h : month < 10) (year : ℤ) :
    (153 * (month + 1) + 2) / 5 ≤ (153 * month + 2) / 5 + daysInMonth year (month + 3) := by
  interval_cases month <;> simp [daysInMonth]

/-- No month has more than 31 days. -/
theorem daysInMonth_le (year : ℤ) (month : ℕ) : daysInMonth year month ≤ 31 := by
  unfold daysInMonth
  split_ifs <;> decide

/-- A date exists if its month and its day do. -/
theorem isValid_iff {d : Date} : d.isValid = true ↔
    1 ≤ d.month ∧ d.month ≤ 12 ∧ 1 ≤ d.day ∧ d.day ≤ daysInMonth d.year d.month := by
  simp [isValid, and_assoc]

/-- A day of a year has a date that exists. -/
theorem isValid_ofDayOfYear {year : ℤ} (hn : n ≤ 365)
    (hleap : n = 365 → isLeapYear (year + 1) = true) : (ofDayOfYear year n).isValid = true := by
  have hmonth : (5 * n + 2) / 153 < 12 := by omega
  have hday : n < (153 * ((5 * n + 2) / 153 + 1) + 2) / 5 := by omega
  rw [isValid_iff]
  unfold ofDayOfYear
  dsimp only
  generalize (5 * n + 2) / 153 = month at *
  split_ifs with hturn <;> dsimp only
  · have hlength := le_daysInMonth hturn year
    exact ⟨by omega, by omega, by omega, by omega⟩
  · -- What is left of the year is January and February.
    have hlast : month = 10 ∨ month = 11 := by omega
    rcases hlast with rfl | rfl
    · exact ⟨by omega, by omega, by omega, by simp [daysInMonth]; omega⟩
    · have hlength : daysInMonth (year + 1) 2 = if isLeapYear (year + 1) then 29 else 28 := rfl
      refine ⟨by omega, by omega, by omega, ?_⟩
      rw [hlength]
      split_ifs with hnext
      · omega
      · have hshort : n ≠ 365 := fun h => hnext (hleap h)
        omega

/-- A date of a year counts back to its day. -/
theorem toDays_ofDayOfYear {year : ℤ} (hn : n ≤ 365) : (ofDayOfYear year n).toDays =
    365 * year + year / 4 - year / 100 + year / 400 + n - epochDays := by
  have hmonth : (5 * n + 2) / 153 < 12 ∧ (153 * ((5 * n + 2) / 153) + 2) / 5 ≤ n := by omega
  unfold ofDayOfYear toDays
  dsimp only
  generalize (5 * n + 2) / 153 = month at *
  by_cases hturn : month < 10
  · have hmarch : ¬ month + 3 ≤ 2 := by omega
    have hback : (month + 3 + 9) % 12 = month := by omega
    simp only [hturn, if_true, hmarch, if_false, hback]
    omega
  · have hjanuary : month - 9 ≤ 2 := by omega
    have hback : (month - 9 + 9) % 12 = month := by omega
    simp only [hturn, if_true, hjanuary, if_false, hback]
    omega

/-- Every day has a date that exists. -/
theorem isValid_ofDays (days : ℤ) : (ofDays days).isValid = true := by
  obtain ⟨period, y, n, -, -, hn, hleap, hdate⟩ := exists_ofDays days
  rw [hdate]
  exact isValid_ofDayOfYear hn hleap

/-- The date of a day counts back to it. -/
theorem toDays_ofDays (days : ℤ) : (ofDays days).toDays = days := by
  obtain ⟨period, y, n, hdays, hy, hn, -, hdate⟩ := exists_ofDays days
  rw [hdate, toDays_ofDayOfYear hn]
  unfold yearStart at hdays
  omega

end SkaterLedger.Date
