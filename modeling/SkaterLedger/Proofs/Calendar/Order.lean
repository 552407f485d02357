import Mathlib.Data.Prod.Lex
import Mathlib.Order.Nat
import SkaterLedger.Proofs.Calendar.Notation
import SkaterLedger.Proofs.Text.ByteOrder
import SkaterLedger.Proofs.Text.Records

/-!
# Timestamps sort as texts

A later day has a later date (`Date.ofDays_before`): a year that starts in March is over before the
next one, and the days of one such year have ascending dates. On one day the clock shows later times
for later seconds, and a leap second as the 60th of its minute (`Instant.parts_lt_of_time`). A
timestamp is a record of these numbers, so the timestamps of years with four digits are ordered by
their bytes just as the instants are by their microseconds (`Instant.timestamp_lt_iff`).
-/

namespace SkaterLedger

/-! ## Dates -/

namespace Date

variable {n n' : ℕ} {year year' days days' : ℤ}

/-- A date comes before another one in the calendar: by its year, then by its month, and then by its
day. -/
def Before (d d' : Date) : Prop :=
  d.year < d'.year ∨
    d.year = d'.year ∧ (d.month < d'.month ∨ d.month = d'.month ∧ d.day < d'.day)

/-- Later days of a year that starts in March have later dates. -/
theorem ofDayOfYear_before (hlt : n < n') (hn' : n' ≤ 365) :
    (ofDayOfYear year n).Before (ofDayOfYear year n') := by
  have hmonth : (5 * n + 2) / 153 ≤ (5 * n' + 2) / 153 := by omega
  have hstart : (153 * ((5 * n + 2) / 153) + 2) / 5 ≤ n := by omega
  have hlast : (5 * n' + 2) / 153 < 12 := by omega
  unfold ofDayOfYear Before
  dsimp only
  generalize (5 * n + 2) / 153 = month at *
  generalize (5 * n' + 2) / 153 = month' at *
  split_ifs <;> dsimp only <;> omega

/-- The dates of a year that starts in March lie before those of a later one. -/
theorem ofDayOfYear_before_of_lt (hlt : year < year') (hn : n ≤ 365) :
    (ofDayOfYear year n).Before (ofDayOfYear year' n') := by
  have hmonth : (5 * n + 2) / 153 < 12 := by omega
  unfold ofDayOfYear Before
  dsimp only
  split_ifs <;> dsimp only <;> omega

/-- The days from 0000-03-01 to the first of March of a year. -/
def marchStart (year : ℤ) : ℤ := 365 * year + year / 4 - year / 100 + year / 400

/-- A day of a year that starts in March comes before the next such year. -/
theorem marchStart_add_lt (hn : n ≤ 365) (hleap : n = 365 → isLeapYear (year + 1) = true)
    (hlt : year < year') : marchStart year + n < marchStart year' := by
  have hnext : marchStart year + n < marchStart (year + 1) := by
    unfold marchStart
    by_cases hlast : n = 365
    · have hleap := hleap hlast
      simp only [isLeapYear, Bool.and_eq_true, Bool.or_eq_true, beq_iff_eq, bne_iff_ne] at hleap
      omega
    · omega
  have hmono : marchStart (year + 1) ≤ marchStart year' := by
    unfold marchStart
    omega
  omega

/-- A later day has a later date. -/
theorem ofDays_before (h : days < days') : (ofDays days).Before (ofDays days') := by
  obtain ⟨period, y, n, hdays, hy, hn, hleap, hdate⟩ := exists_ofDays days
  obtain ⟨period', y', n', hdays', hy', hn', hleap', hdate'⟩ := exists_ofDays days'
  have hstart : days + epochDays = marchStart (400 * period + y) + n := by
    unfold yearStart at hdays
    unfold marchStart
    omega
  have hstart' : days' + epochDays = marchStart (400 * period' + y') + n' := by
    unfold yearStart at hdays'
    unfold marchStart
    omega
  rw [hdate, hdate']
  generalize 400 * period + (y : ℤ) = year at *
  generalize 400 * period' + (y' : ℤ) = year' at *
  rcases lt_trichotomy year year' with hlt | rfl | hlt
  · exact ofDayOfYear_before_of_lt hlt hn
  · exact ofDayOfYear_before (by omega) hn'
  · -- A day of an earlier year would be an earlier day.
    have hback := marchStart_add_lt hn' hleap' hlt
    omega

end Date

/-! ## Instants -/

namespace Instant

/-- The second and the nanosecond of an instant, the second first. -/
def key (t : Instant) : ℤ ×ₗ ℕ := toLex (t.seconds, t.nanos)

/-- Instants are ordered by second and then by nanosecond; so a leap second lies between the second
before it and the next minute. -/
instance (priority := low) linearOrder : LinearOrder Instant :=
  LinearOrder.lift' key fun a b h => by
    cases a
    cases b
    simpa [key] using h

/-- The second and the microsecond of an instant, the second first. -/
def microsecond (t : Instant) : ℤ ×ₗ ℕ := toLex (t.seconds, t.nanos / 1000)

/-- Four digits write the year of an instant. -/
def HasPlainYear (t : Instant) : Prop := 0 ≤ t.toCivil.date.year ∧ t.toCivil.date.year ≤ 9999

instance decidableHasPlainYear (t : Instant) : Decidable t.HasPlainYear :=
  inferInstanceAs (Decidable (_ ∧ _))

/-- The numbers that a timestamp consists of. -/
def parts (t : Instant) : List ℕ :=
  [t.toCivil.date.year.toNat, t.toCivil.date.month, t.toCivil.date.day, t.toCivil.hour,
    t.toCivil.minute, t.toCivil.second, t.nanos % nanosPerSecond / 1000]

/-- The widths of these numbers, and what stands behind each of them. -/
def layout : List (ℕ × Char) :=
  [(4, '-'), (2, '-'), (2, 'T'), (2, ':'), (2, ':'), (2, '.'), (6, 'Z')]

variable {a b t : Instant}

/-- The order of instants. -/
theorem lt_iff : a < b ↔ a.seconds < b.seconds ∨ a.seconds = b.seconds ∧ a.nanos < b.nanos :=
  Prod.Lex.lt_iff

/-- The order of their microseconds. -/
theorem microsecond_lt_iff : a.microsecond < b.microsecond ↔
    a.seconds < b.seconds ∨ a.seconds = b.seconds ∧ a.nanos / 1000 < b.nanos / 1000 :=
  Prod.Lex.lt_iff

/-- No later instant has an earlier microsecond. -/
theorem microsecond_mono (h : a ≤ b) : a.microsecond ≤ b.microsecond := by
  rw [← not_lt, microsecond_lt_iff]
  rw [← not_lt, lt_iff] at h
  omega

/-- A timestamp with a year of four digits is the record of its parts. -/
theorem write_eq_record (ht : t.HasPlainYear) :
    t.write .six = Text.record layout t.parts := by
  obtain ⟨hlow, hhigh⟩ := ht
  have hyear : CivilTime.yearDigits t.toCivil.date.year =
      Text.paddedDecimal 4 t.toCivil.date.year.toNat := by
    have hsize : t.toCivil.date.year.natAbs = t.toCivil.date.year.toNat := by omega
    unfold CivilTime.yearDigits
    rw [if_neg (by omega), if_neg (by omega), hsize]
  unfold write CivilTime.dateDigits CivilTime.clockDigits fractionDigits
  dsimp only
  rw [hyear]
  simp [Text.record, layout, parts]

/-- The parts of a timestamp with a year of four digits fit their widths. -/
theorem forall₂_fitsPlace_parts (ht : t.Valid) (hyear : t.HasPlainYear) :
    List.Forall₂ Text.FitsPlace layout t.parts := by
  obtain ⟨k, hk, -, hdate, hhour, hminute, hsecond, -⟩ := Rfc3339.exists_secondOfDay ht
  have hvalid := Date.isValid_iff.mp (Date.isValid_ofDays (t.seconds / secondsPerDay))
  have hlength := Date.daysInMonth_le t.toCivil.date.year t.toCivil.date.month
  rw [← hdate] at hvalid
  have hclock : t.toCivil.second < 100 := by
    rw [hsecond]
    split_ifs <;> omega
  have hfraction : t.nanos % nanosPerSecond < nanosPerSecond := Nat.mod_lt _ (by decide)
  obtain ⟨hlow, hhigh⟩ := hyear
  unfold nanosPerSecond at hfraction
  simp only [layout, parts, List.forall₂_cons, Text.FitsPlace, List.Forall₂.nil, and_true]
  unfold nanosPerSecond
  refine ⟨?_, ?_, ?_, ?_, ?_, ?_, ?_⟩ <;> refine ⟨by decide, ?_⟩ <;> norm_num <;> omega

/-- Instants of one microsecond have the same timestamp. -/
theorem parts_eq (h : a.microsecond = b.microsecond) : a.parts = b.parts := by
  obtain ⟨hseconds, hmicros⟩ : a.seconds = b.seconds ∧ a.nanos / 1000 = b.nanos / 1000 := by
    simpa [microsecond] using h
  have hleap : a.isLeapSecond = b.isLeapSecond := by
    unfold isLeapSecond nanosPerSecond
    rw [Bool.eq_iff_iff, decide_eq_true_eq, decide_eq_true_eq]
    omega
  have hcivil : a.toCivil = b.toCivil := by
    unfold toCivil
    rw [hseconds, hleap]
  have hfraction : a.nanos % nanosPerSecond / 1000 = b.nanos % nanosPerSecond / 1000 := by
    unfold nanosPerSecond
    omega
  unfold parts
  rw [hcivil, hfraction]

/-- A later date makes a later timestamp, whatever the time of day is. -/
theorem parts_lt_of_date (ha : a.HasPlainYear) (hb : b.HasPlainYear)
    (h : a.toCivil.date.Before b.toCivil.date) : a.parts < b.parts := by
  unfold HasPlainYear at ha hb
  unfold Date.Before at h
  simp only [parts, List.cons_lt_cons_iff]
  omega

/-- On one day the later second makes the later timestamp, and in one second the later microsecond.
A leap second is written as the second 60, so it comes behind the last second of its minute. -/
theorem parts_lt_of_time (ha : a.Valid) (hb : b.Valid)
    (hday : a.seconds / secondsPerDay = b.seconds / secondsPerDay)
    (h : a.microsecond < b.microsecond) : a.parts < b.parts := by
  obtain ⟨k, hk, hseconds, hdate, hhour, hminute, hsecond, hleap⟩ := Rfc3339.exists_secondOfDay ha
  obtain ⟨k', hk', hseconds', hdate', hhour', hminute', hsecond', hleap'⟩ :=
    Rfc3339.exists_secondOfDay hb
  have hnanos := ha.nanos
  have hnanos' := hb.nanos
  have hsame : a.toCivil.date = b.toCivil.date := by rw [hdate, hdate', hday]
  rw [← hday] at hseconds'
  rw [microsecond_lt_iff] at h
  simp only [parts, List.cons_lt_cons_iff, hsame, lt_irrefl, false_or, true_and, hhour, hminute,
    hsecond, hhour', hminute', hsecond', and_false, or_false]
  unfold isLeapSecond at *
  unfold nanosPerSecond at *
  simp only [decide_eq_true_eq] at *
  split_ifs <;> omega

/-- A later microsecond makes a later timestamp. -/
theorem parts_lt (ha : a.Valid) (hb : b.Valid) (ha' : a.HasPlainYear) (hb' : b.HasPlainYear)
    (h : a.microsecond < b.microsecond) : a.parts < b.parts := by
  have hday : a.seconds / secondsPerDay ≤ b.seconds / secondsPerDay := by
    rw [microsecond_lt_iff] at h
    exact Int.ediv_le_ediv (by decide) (by omega)
  rcases hday.lt_or_eq with hlt | heq
  · exact parts_lt_of_date ha' hb' (Date.ofDays_before hlt)
  · exact parts_lt_of_time ha hb heq h

/-- The timestamps of instants with years of four digits are ordered as their microseconds. -/
theorem timestamp_lt_iff (ha : a.Valid) (hb : b.Valid) (ha' : a.HasPlainYear)
    (hb' : b.HasPlainYear) :
    Text.Precedes a.timestamp b.timestamp ↔ a.microsecond < b.microsecond := by
  have hparts : a.parts < b.parts ↔ a.microsecond < b.microsecond := by
    refine ⟨fun h => ?_, parts_lt ha hb ha' hb'⟩
    rcases lt_trichotomy a.microsecond b.microsecond with hlt | heq | hlt
    · exact hlt
    · rw [parts_eq heq] at h
      exact absurd h (List.lt_irrefl _)
    · exact absurd (parts_lt hb ha hb' ha' hlt) (List.lt_asymm h)
  rw [Text.precedes_iff_lt, String.lt_iff, timestamp, timestamp, String.toList_ofList,
    String.toList_ofList, write_eq_record ha', write_eq_record hb',
    Text.record_lt_iff (forall₂_fitsPlace_parts ha ha') (forall₂_fitsPlace_parts hb hb'), hparts]

/-- Timestamps sort as texts: the timestamp of a later instant does not come before that of an
earlier one in the order of their bytes, and it comes behind it if the instants lie in different
microseconds. -/
theorem timestamp_sorts (ha : a.Valid) (hb : b.Valid) (ha' : a.HasPlainYear)
    (hb' : b.HasPlainYear) :
    (a ≤ b → Text.bytesOfString a.timestamp ≤ Text.bytesOfString b.timestamp) ∧
      (a < b → a.microsecond ≠ b.microsecond →
        Text.bytesOfString a.timestamp < Text.bytesOfString b.timestamp) := by
  constructor
  · intro hle
    have hnot : ¬ Text.Precedes b.timestamp a.timestamp := by
      rw [timestamp_lt_iff hb ha hb' ha', not_lt]
      exact microsecond_mono hle
    exact hnot
  · intro hlt hne
    exact (timestamp_lt_iff ha hb ha' hb').mpr (lt_of_le_of_ne (microsecond_mono hlt.le) hne)

/-- The last microsecond of the leap second at the end of 2016 comes before the first one of 2017.
-/
theorem timestamp_sorts_newYear :
    let a : Instant := ⟨1483228799, 1999999999⟩
    let b : Instant := ⟨1483228800, 0⟩
    a.Valid ∧ b.Valid ∧ a.HasPlainYear ∧ b.HasPlainYear ∧ a < b ∧ a.microsecond ≠ b.microsecond ∧
      a.timestamp = "2016-12-31T23:59:60.999999Z" ∧ b.timestamp = "2017-01-01T00:00:00.000000Z" ∧
      Text.bytesOfString a.timestamp < Text.bytesOfString b.timestamp := by
  intro a b
  have ha : a.Valid := ⟨by decide, by decide, by decide⟩
  have hb : b.Valid := ⟨by decide, by decide, by decide⟩
  have ha' : a.HasPlainYear := by decide
  have hb' : b.HasPlainYear := by decide
  have hlt : a < b := by decide
  have hne : a.microsecond ≠ b.microsecond := by decide
  exact ⟨ha, hb, ha', hb', hlt, hne, by decide +kernel, by decide +kernel,
    (timestamp_sorts ha hb ha' hb').2 hlt hne⟩

end Instant

end SkaterLedger
