import SkaterLedger.Proofs.Calendar.Order

/-!
# Stored timestamps are read back

The timestamp of an instant is a record of numbers of fixed widths. The strict reader takes the
numbers one by one, each at its width, so an instant of whole microseconds with a year of four
digits is read back from its timestamp (`strict?_timestamp`).
-/

namespace SkaterLedger.Rfc3339

open Text (paddedDecimal)

variable {n w : ℕ} {c : Char} {rest : List Char} {t : Instant}

/-- A number that fits a width is read at that width, up to the character behind it. -/
theorem number?_paddedDecimal (hw : 0 < w) (hn : n < 10 ^ w) (hc : Text.isAsciiDigit c = false) :
    number? w w (paddedDecimal w n ++ c :: rest) = some (n, c :: rest) := by
  have hds := Text.digits_paddedDecimal w n
  have hlength := Text.length_paddedDecimal hw hn
  rw [number?_append w w hds hlength.ge hlength.le hc, Text.numberOfDigits_paddedDecimal]

/-- The character that is expected is passed over. -/
theorem expect?_self (c : Char) (rest : List Char) : expect? c (c :: rest) = some rest := by
  simp [expect?]

/-- An instant of whole microseconds is read back from its timestamp. -/
theorem strict?_timestamp (ht : t.Valid) (hyear : t.HasPlainYear) (hwhole : t.nanos % 1000 = 0) :
    strict? t.timestamp = some t := by
  have hfits := Instant.forall₂_fitsPlace_parts ht hyear
  simp only [Instant.layout, Instant.parts, List.forall₂_cons, Text.FitsPlace] at hfits
  obtain ⟨⟨-, hy⟩, ⟨-, hmonth⟩, ⟨-, hday⟩, ⟨-, hhour⟩, ⟨-, hminute⟩, ⟨-, hsecond⟩, ⟨-, hmicros⟩,
    -⟩ := hfits
  have hnamed : instant? ⟨⟨(t.toCivil.date.year.toNat : ℤ), t.toCivil.date.month,
      t.toCivil.date.day⟩, t.toCivil.hour, t.toCivil.minute, t.toCivil.second⟩
      (t.nanos % Instant.nanosPerSecond / 1000 * 10 ^ (9 - 6)) 0 = some t := by
    have hsame : (t.toCivil.date.year.toNat : ℤ) = t.toCivil.date.year :=
      Int.toNat_of_nonneg hyear.1
    have hnanos : t.nanos % Instant.nanosPerSecond / 1000 * 10 ^ (9 - 6) =
        t.nanos % Instant.nanosPerSecond := by
      unfold Instant.nanosPerSecond
      omega
    rw [hsame, hnanos]
    exact instant?_toCivil ht
  unfold strict? Instant.timestamp
  rw [String.toList_ofList, Instant.write_eq_record hyear]
  simp only [Text.record, Instant.layout, Instant.parts]
  refine Option.bind_eq_some_iff.mpr ⟨_, number?_paddedDecimal (by decide) hy (by decide), ?_⟩
  refine Option.bind_eq_some_iff.mpr ⟨_, expect?_self _ _, ?_⟩
  refine Option.bind_eq_some_iff.mpr ⟨_, number?_paddedDecimal (by decide) hmonth (by decide), ?_⟩
  refine Option.bind_eq_some_iff.mpr ⟨_, expect?_self _ _, ?_⟩
  refine Option.bind_eq_some_iff.mpr ⟨_, number?_paddedDecimal (by decide) hday (by decide), ?_⟩
  refine Option.bind_eq_some_iff.mpr ⟨_, rfl, ?_⟩
  refine Option.bind_eq_some_iff.mpr ⟨_, number?_paddedDecimal (by decide) hhour (by decide), ?_⟩
  refine Option.bind_eq_some_iff.mpr ⟨_, expect?_self _ _, ?_⟩
  refine Option.bind_eq_some_iff.mpr ⟨_, number?_paddedDecimal (by decide) hminute (by decide), ?_⟩
  refine Option.bind_eq_some_iff.mpr ⟨_, expect?_self _ _, ?_⟩
  refine Option.bind_eq_some_iff.mpr ⟨_, number?_paddedDecimal (by decide) hsecond (by decide), ?_⟩
  refine Option.bind_eq_some_iff.mpr
    ⟨_, nanos?_padded (by decide) (by decide) hmicros (by decide), ?_⟩
  exact hnamed

end SkaterLedger.Rfc3339
