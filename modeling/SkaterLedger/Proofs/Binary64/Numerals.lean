import Mathlib.Data.List.Basic
import SkaterLedger.Binary64.Decimal
import SkaterLedger.Proofs.Text.Decimal

/-!
# Reading numerals

What the digits of a numeral are read as, with and without a point among them. Only the digits of
ASCII belong to a numeral, so a text that has a digit of another script is none.
-/

namespace SkaterLedger

open Text (Digits)

namespace Decimal

variable {whole fraction ds tail cs : List Char} {c : Char} {e : ℤ}

/-- Digits without a point, and what follows them. -/
theorem ofText?_append (hwhole : Digits whole)
    (htail : ∀ c ∈ tail.head?, Text.isAsciiDigit c = false ∧ c ≠ '.')
    (he : exponentOf? tail = some e) :
    ofText? (whole ++ tail) = some ⟨Text.numberOfDigits whole, e⟩ := by
  have hdigit : ∀ c ∈ tail.head?, Text.isAsciiDigit c = false := fun c hc => (htail c hc).1
  unfold ofText?
  rw [Text.takeWhile_append_of_head? hwhole.2 hdigit,
    Text.dropWhile_append_of_head? hwhole.2 hdigit]
  cases tail with
  | nil => simp [hwhole.1, he]
  | cons c tail => simp [hwhole.1, (htail c rfl).2, he]

/-- Digits with a point among or behind them, and what follows them. -/
theorem ofText?_append_point (hwhole : Digits whole)
    (hfraction : ∀ c ∈ fraction, Text.isAsciiDigit c = true)
    (htail : ∀ c ∈ tail.head?, Text.isAsciiDigit c = false) (he : exponentOf? tail = some e) :
    ofText? (whole ++ '.' :: (fraction ++ tail)) =
      some ⟨Text.numberOfDigits (whole ++ fraction), e - fraction.length⟩ := by
  have hpoint : ∀ c ∈ ('.' :: (fraction ++ tail)).head?, Text.isAsciiDigit c = false := by
    rintro c ⟨⟩
    rfl
  unfold ofText?
  rw [Text.takeWhile_append_of_head? hwhole.2 hpoint,
    Text.dropWhile_append_of_head? hwhole.2 hpoint]
  simp [Text.takeWhile_append_of_head? hfraction htail,
    Text.dropWhile_append_of_head? hfraction htail, hwhole.1, he]

/-- No exponent starts with a digit. -/
theorem exponentOf?_eq_none (hc : Text.isDigit c = true) : exponentOf? (c :: cs) = none := by
  have he : c ≠ 'e' := by
    rintro rfl
    exact absurd hc (by decide)
  have hE : c ≠ 'E' := by
    rintro rfl
    exact absurd hc (by decide)
  simp [exponentOf?, he, hE]

/-- If not all digits are of ASCII then another one stands behind those at the start. -/
theorem exists_dropWhile_eq_cons (hds : ∀ c ∈ ds, Text.isDigit c = true)
    (hwide : ∃ c ∈ ds, Text.isAsciiDigit c = false) (rest : List Char) :
    ∃ c cs, (ds ++ rest).dropWhile Text.isAsciiDigit = c :: cs ∧ Text.isDigit c = true := by
  induction ds with
  | nil => simp at hwide
  | cons d ds ih =>
    rw [List.forall_mem_cons] at hds
    cases hd : Text.isAsciiDigit d with
    | true =>
      obtain ⟨c, hc, hcwide⟩ := hwide
      have hne : c ≠ d := by
        rintro rfl
        rw [hd] at hcwide
        cases hcwide
      rw [List.cons_append, List.dropWhile_cons_of_pos hd]
      exact ih hds.2 ⟨c, (List.mem_cons.mp hc).resolve_left hne, hcwide⟩
    | false => exact ⟨d, ds ++ rest, by simp [hd], hds.1⟩

/-- Digits that are not all of ASCII are no numeral, whatever follows them. -/
theorem ofText?_wide (hds : ∀ c ∈ ds, Text.isDigit c = true)
    (hwide : ∃ c ∈ ds, Text.isAsciiDigit c = false) (rest : List Char) :
    ofText? (ds ++ rest) = none := by
  obtain ⟨c, cs, hdrop, hc⟩ := exists_dropWhile_eq_cons hds hwide rest
  have hpoint : c ≠ '.' := by
    rintro rfl
    exact absurd hc (by decide)
  unfold ofText?
  rw [hdrop]
  simp [hpoint, exponentOf?_eq_none hc]

/-- Nor are they behind a point. -/
theorem ofText?_point_wide (hwhole : ∀ c ∈ whole, Text.isAsciiDigit c = true)
    (hds : ∀ c ∈ ds, Text.isDigit c = true) (hwide : ∃ c ∈ ds, Text.isAsciiDigit c = false) :
    ofText? (whole ++ '.' :: ds) = none := by
  have hpoint : ∀ c ∈ ('.' :: ds).head?, Text.isAsciiDigit c = false := by
    rintro c ⟨⟩
    rfl
  obtain ⟨c, cs, hdrop, hc⟩ := exists_dropWhile_eq_cons hds hwide []
  rw [List.append_nil] at hdrop
  unfold ofText?
  rw [Text.dropWhile_append_of_head? hwhole hpoint]
  simp [hdrop, exponentOf?_eq_none hc]

end Decimal

/-- A numeral that starts with a digit has no sign. -/
theorem Binary64.ofText?_cons {c : Char} (hc : Text.isDigit c = true) (cs : List Char) :
    ofText? (c :: cs) = (Decimal.ofText? (c :: cs)).map fun d => ⟨false, d.toMagnitude⟩ := by
  have hminus : c ≠ '-' := by
    rintro rfl
    exact absurd hc (by decide)
  have hplus : c ≠ '+' := by
    rintro rfl
    exact absurd hc (by decide)
  simp [ofText?, hminus, hplus]

end SkaterLedger
