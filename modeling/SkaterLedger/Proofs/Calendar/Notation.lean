import SkaterLedger.Calendar.Rfc3339
import SkaterLedger.Proofs.Calendar.Days
import SkaterLedger.Proofs.Text.Blanks
import SkaterLedger.Proofs.Text.Decimal

/-!
# Timestamps are read back

An instant within the calendar's range is read back from its notation in documents, with its
nanoseconds and also within a leap second (`lenient?_toDocument`). The parts of the notation are read
one by one, each up to the character behind it; `instant?_toCivil` puts them together.
-/

namespace SkaterLedger

/-- An instant of the calendar: its year is in range, and it lies in a leap second only at the end of
a minute. -/
structure Instant.Valid (t : Instant) : Prop where
  /-- The year is in range. -/
  year : Rfc3339.yearInRange t.toCivil.date.year = true
  /-- A second has its nanoseconds, and a leap second as many again. -/
  nanos : t.nanos < 2 * Instant.nanosPerSecond
  /-- Leap seconds follow the last second of a minute. -/
  leap : t.isLeapSecond = true → t.seconds % 60 = 59

namespace Rfc3339

open Text (Digits paddedDecimal)

variable {n width : ℕ} {c : Char} {ds rest : List Char} {t : Instant}

/-! ## Parts -/

/-- Digits are read up to the first other character. -/
theorem number?_append (least most : ℕ) (hds : Digits ds) (hleast : least ≤ ds.length)
    (hmost : ds.length ≤ most) (hc : Text.isAsciiDigit c = false) :
    number? least most (ds ++ c :: rest) = some (Text.numberOfDigits ds, c :: rest) := by
  have htake : ((ds ++ c :: rest).take most).takeWhile Text.isAsciiDigit = ds := by
    rw [List.take_append, List.take_of_length_le hmost]
    refine Text.takeWhile_append_of_head? hds.2 fun d hd => ?_
    obtain rfl : c = d := by
      cases hroom : most - ds.length with
      | zero => simp [hroom] at hd
      | succ room => simpa [hroom] using hd
    exact hc
  unfold number?
  rw [htake, if_neg (Nat.not_lt.mpr hleast), List.drop_left]

/-- A text that does not start with a blank is left as it is. -/
theorem trimStart_append (hds : Digits ds) (rest : List Char) :
    Text.trimStart (ds ++ rest) = ds ++ rest := by
  obtain ⟨d, ds', rfl⟩ := List.exists_cons_of_ne_nil hds.1
  exact Text.trimStart_cons (Text.isBlank_of_isAsciiDigit (hds.2 d List.mem_cons_self))

/-- A number of two digits is read, up to the first other character. -/
theorem number?_padded (hn : n < 100) (hc : Text.isAsciiDigit c = false) :
    number? 1 2 (Text.trimStart (paddedDecimal 2 n ++ c :: rest)) = some (n, c :: rest) := by
  have hds := Text.digits_paddedDecimal 2 n
  have hlength := Text.length_paddedDecimal (w := 2) (by decide) hn
  rw [trimStart_append hds, number?_append 1 2 hds (by omega) (by omega) hc,
    Text.numberOfDigits_paddedDecimal]

/-- The character that is expected is passed over. -/
theorem expect?_cons (hc : Text.isBlank c = false) :
    expect? c (Text.trimStart (c :: rest)) = some rest := by
  rw [Text.trimStart_cons hc]
  simp [expect?]

/-- A year is read, with its sign and all its digits. -/
theorem signedYear?_append (year : ℤ) (hc : Text.isAsciiDigit c = false) :
    signedYear? (Text.trimStart (CivilTime.yearDigits year ++ c :: rest)) =
      some (year, c :: rest) := by
  have hds := Text.digits_paddedDecimal 4 year.natAbs
  have hvalue := Text.numberOfDigits_paddedDecimal 4 year.natAbs
  have hread {most : ℕ} (hmost : (paddedDecimal 4 year.natAbs).length ≤ most) :
      number? 1 most (paddedDecimal 4 year.natAbs ++ c :: rest) =
        some (year.natAbs, c :: rest) := by
    rw [number?_append 1 most hds (List.length_pos_iff.mpr hds.1) hmost hc, hvalue]
  unfold CivilTime.yearDigits
  dsimp only
  split_ifs with hneg hlarge
  · rw [List.cons_append, Text.trimStart_cons (by decide)]
    simp only [signedYear?]
    rw [hread (by simp), Option.map_some]
    congr 2
    omega
  · rw [List.cons_append, Text.trimStart_cons (by decide)]
    simp only [signedYear?]
    rw [hread (by simp), Option.map_some]
    congr 2
    omega
  · have hlength := Text.length_paddedDecimal (w := 4) (n := year.natAbs) (by decide) (by omega)
    rw [trimStart_append hds]
    -- A year without a sign starts with a digit.
    have hplain : signedYear? (paddedDecimal 4 year.natAbs ++ c :: rest) =
        (number? 1 4 (paddedDecimal 4 year.natAbs ++ c :: rest)).map fun p => (↑p.1, p.2) := by
      cases hcases : paddedDecimal 4 year.natAbs with
      | nil => exact absurd hcases hds.1
      | cons d ds =>
        have hd := hds.2 d (hcases ▸ List.mem_cons_self)
        have hminus : d ≠ '-' := by
          rintro rfl
          exact absurd hd (by decide)
        have hplus : d ≠ '+' := by
          rintro rfl
          exact absurd hd (by decide)
        simp [signedYear?, hminus, hplus]
    rw [hplain, hread (by omega), Option.map_some]
    congr 2
    omega

/-- A fraction of up to nine digits is read as nanoseconds. -/
theorem nanos?_padded (hwidth : 0 < width) (hnine : width ≤ 9) (hn : n < 10 ^ width)
    (hc : Text.isAsciiDigit c = false) :
    nanos? ('.' :: paddedDecimal width n ++ c :: rest) =
      some (n * 10 ^ (9 - width), c :: rest) := by
  have hds := Text.digits_paddedDecimal width n
  have hlength := Text.length_paddedDecimal hwidth hn
  have hread : number? 1 9 (paddedDecimal width n ++ c :: rest) = some (n, c :: rest) := by
    rw [number?_append 1 9 hds (by omega) (by omega) hc, Text.numberOfDigits_paddedDecimal]
  have hused : (paddedDecimal width n ++ c :: rest).length - (c :: rest).length = width := by
    rw [List.length_append, hlength, Nat.add_sub_cancel]
  rw [List.cons_append]
  simp only [nanos?, hread, Option.bind_eq_bind, Option.bind_some, hused]
  simp [hc]

/-- The fraction of a second is read, however many digits it needs. -/
theorem nanos?_fractionDigits (hn : n < Instant.nanosPerSecond) :
    nanos? (Instant.fractionDigits .asNeeded n ++ 'Z' :: rest) = some (n, 'Z' :: rest) := by
  have hnine : n < 10 ^ 9 := hn
  unfold Instant.fractionDigits
  dsimp only
  simp only [beq_iff_eq]
  split_ifs with hzero hmilli hmicro
  · rw [hzero]
    rfl
  · rw [nanos?_padded (by decide) (by decide) (by omega) (by decide)]
    congr 2
    omega
  · rw [nanos?_padded (by decide) (by decide) (by omega) (by decide)]
    congr 2
    omega
  · rw [nanos?_padded (by decide) (by decide) hnine (by decide)]
    congr 2
    omega

/-! ## Instants -/

/-- The second of the day tells the time of day, and a leap second comes at the end of a minute. -/
theorem exists_secondOfDay (ht : t.Valid) : ∃ k : ℕ, k < 86400 ∧
    t.seconds = t.seconds / Instant.secondsPerDay * Instant.secondsPerDay + k ∧
    t.toCivil.date = .ofDays (t.seconds / Instant.secondsPerDay) ∧ t.toCivil.hour = k / 3600 ∧
    t.toCivil.minute = k / 60 % 60 ∧
    t.toCivil.second = k % 60 + (if t.isLeapSecond then 1 else 0) ∧
    (t.isLeapSecond = true → k % 60 = 59) := by
  have hday : (Instant.secondsPerDay : ℤ) = 86400 := rfl
  obtain ⟨k, hk⟩ := Int.eq_ofNat_of_zero_le
    (Int.emod_nonneg t.seconds (b := Instant.secondsPerDay) (by decide))
  have hsecond : (t.seconds % Instant.secondsPerDay).toNat = k := by omega
  refine ⟨k, ?_, ?_, rfl, ?_, ?_, ?_, fun h => ?_⟩
  · rw [hday] at hk
    omega
  · rw [hday] at hk ⊢
    omega
  · rw [← hsecond]
    rfl
  · rw [← hsecond]
    rfl
  · rw [← hsecond]
    rfl
  · have hminute := ht.leap h
    rw [hday] at hk
    omega

/-- The parts of an instant in universal time name it. -/
theorem instant?_toCivil (ht : t.Valid) :
    instant? t.toCivil (t.nanos % Instant.nanosPerSecond) 0 = some t := by
  obtain ⟨k, hk, hseconds, hdate, hhour, hminute, hsecond, hleap⟩ := exists_secondOfDay ht
  have hvalid := Date.isValid_ofDays (t.seconds / Instant.secondsPerDay)
  have hdays := Date.toDays_ofDays (t.seconds / Instant.secondsPerDay)
  rw [← hdate] at hvalid hdays
  have hnanos : Instant.nanosPerSecond ≤ t.nanos ↔ t.isLeapSecond = true := by
    simp [Instant.isLeapSecond]
  -- The seconds that are counted, and the nanoseconds that a leap second has on top.
  have hcount :
      (if t.toCivil.second == 60 then (59, Instant.nanosPerSecond) else (t.toCivil.second, 0)) =
        (k % 60, if t.isLeapSecond then Instant.nanosPerSecond else 0) := by
    cases h : t.isLeapSecond with
    | true => simp [hsecond, h, hleap h]
    | false =>
      have hother : k % 60 ≠ 60 := by omega
      simp [hsecond, h, hother]
  have hsame : (⟨t.toCivil.date.toDays * Instant.secondsPerDay +
      (t.toCivil.hour * 3600 + t.toCivil.minute * 60 + k % 60 : ℕ) - 0,
      t.nanos % Instant.nanosPerSecond + if t.isLeapSecond then Instant.nanosPerSecond else 0⟩ :
        Instant) = t := by
    have hclock : k / 3600 * 3600 + k / 60 % 60 * 60 + k % 60 = k := by omega
    have hfraction : t.nanos % Instant.nanosPerSecond +
        (if t.isLeapSecond then Instant.nanosPerSecond else 0) = t.nanos := by
      have hlt := ht.nanos
      split_ifs with h
      · have hle := hnanos.mpr h
        rw [Nat.mod_eq_sub_mod hle, Nat.mod_eq_of_lt (by omega)]
        omega
      · exact Nat.mod_eq_of_lt (Nat.not_le.mp (mt hnanos.mp h))
    rw [hdays, hhour, hminute, hclock, hfraction, Int.sub_zero, ← hseconds]
  have hsecond' : t.toCivil.second ≤ 60 := by
    rw [hsecond]
    split_ifs <;> omega
  unfold instant?
  rw [if_neg]
  · simp only [hcount]
    rw [hsame, if_pos ht.year]
  · have hhour' : ¬ 23 < t.toCivil.hour := by omega
    have hminute' : ¬ 59 < t.toCivil.minute := by omega
    have hday : Instant.secondsPerDay ≠ 0 := by decide
    simp [hvalid, ht.year, hhour', hminute', hsecond', hday]

/-- An instant of the calendar is read back from its notation in documents. -/
theorem lenient?_toDocument (ht : t.Valid) : lenient? t.toDocument = some t := by
  have hnamed := instant?_toCivil ht
  obtain ⟨k, hk, -, hdate, hhour, hminute, hsecond, hleap⟩ := exists_secondOfDay ht
  have hclock : t.toCivil.hour < 100 ∧ t.toCivil.minute < 100 ∧ t.toCivil.second < 100 := by
    rw [hhour, hminute, hsecond]
    split_ifs <;> omega
  have hday : t.toCivil.date.month < 100 ∧ t.toCivil.date.day < 100 := by
    have hvalid := Date.isValid_iff.mp (Date.isValid_ofDays (t.seconds / Instant.secondsPerDay))
    have hlength := Date.daysInMonth_le t.toCivil.date.year t.toCivil.date.month
    rw [← hdate] at hvalid
    omega
  have hfraction : t.nanos % Instant.nanosPerSecond < Instant.nanosPerSecond :=
    Nat.mod_lt _ (by decide)
  -- What follows the seconds is the point of a fraction or the `Z`.
  obtain ⟨c, cs, hcs, hc⟩ : ∃ c cs, Instant.fractionDigits .asNeeded
      (t.nanos % Instant.nanosPerSecond) ++ ['Z'] = c :: cs ∧ Text.isAsciiDigit c = false := by
    unfold Instant.fractionDigits
    dsimp only
    split_ifs <;> exact ⟨_, _, rfl, by decide⟩
  unfold lenient? Instant.toDocument Instant.write CivilTime.dateDigits CivilTime.clockDigits
  rw [String.toList_ofList]
  simp only [List.append_assoc, List.cons_append, hcs]
  refine Option.bind_eq_some_iff.mpr ⟨_, signedYear?_append _ (by decide), ?_⟩
  refine Option.bind_eq_some_iff.mpr ⟨_, expect?_cons (by decide), ?_⟩
  refine Option.bind_eq_some_iff.mpr ⟨_, number?_padded hday.1 (by decide), ?_⟩
  refine Option.bind_eq_some_iff.mpr ⟨_, expect?_cons (by decide), ?_⟩
  refine Option.bind_eq_some_iff.mpr ⟨_, number?_padded hday.2 (by decide), ?_⟩
  refine Option.bind_eq_some_iff.mpr ⟨_, rfl, ?_⟩
  refine Option.bind_eq_some_iff.mpr ⟨_, number?_padded hclock.1 (by decide), ?_⟩
  refine Option.bind_eq_some_iff.mpr ⟨_, expect?_cons (by decide), ?_⟩
  refine Option.bind_eq_some_iff.mpr ⟨_, number?_padded hclock.2.1 (by decide), ?_⟩
  refine Option.bind_eq_some_iff.mpr ⟨_, expect?_cons (by decide), ?_⟩
  refine Option.bind_eq_some_iff.mpr ⟨_, number?_padded hclock.2.2 hc, ?_⟩
  refine Option.bind_eq_some_iff.mpr ⟨_, hcs ▸ nanos?_fractionDigits hfraction, ?_⟩
  exact hnamed

end Rfc3339

end SkaterLedger
