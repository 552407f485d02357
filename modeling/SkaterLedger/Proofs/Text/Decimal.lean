import Mathlib.Data.List.Basic
import Mathlib.Data.List.Induction
import Mathlib.Data.Nat.Digits.Defs
import SkaterLedger.Text.Digit

/-!
# Decimal notation

The digits of a number are digits, there is at least one, and they read back to the number, so that
different numbers have different digits. Only zero has a zero in front. Digits are found at the front
of a text if no further digit follows them.
-/

namespace SkaterLedger.Text

variable {n n' : ℕ} {c : Char}

/-- The test for a digit is the library's. -/
theorem isAsciiDigit_eq (c : Char) : isAsciiDigit c = c.isDigit := rfl

/-- The digits of ASCII are digits. -/
theorem isDigit_of_isAsciiDigit (h : isAsciiDigit c = true) : isDigit c = true := by
  unfold isDigit
  rw [h, Bool.true_or]

/-- The digits of a number are digits. -/
theorem isAsciiDigit_of_mem_decimal (h : c ∈ decimal n) : isAsciiDigit c = true := by
  rw [isAsciiDigit_eq]
  exact Nat.isDigit_of_mem_toDigits (by omega) (by omega) h

/-- Every number has a digit. -/
theorem decimal_ne_nil (n : ℕ) : decimal n ≠ [] := Nat.toDigits_ne_nil

/-- The digits of a number read back to it. -/
theorem numberOfDigits_decimal (n : ℕ) : numberOfDigits (decimal n) = n :=
  Nat.ofDigitChars_ten_toDigits

/-- Numbers with the same digits are the same. -/
theorem decimal_inj : decimal n = decimal n' ↔ n = n' := by
  constructor
  · intro h
    rw [← numberOfDigits_decimal n, h, numberOfDigits_decimal]
  · rintro rfl
    rfl

/-- The first digit of a number other than zero is not zero. -/
theorem head?_decimal_ne (h : n ≠ 0) : (decimal n).head? ≠ some '0' := by
  have hdigit : ∀ k < 10, k ≠ 0 → k.digitChar ≠ '0' := by decide
  -- Taking off the last digit leaves the first one, as long as another one is left.
  induction n using Nat.strongRecOn with
  | ind n ih =>
    unfold decimal at ih ⊢
    rw [Nat.toDigits_eq_if (by decide)]
    split
    · rename_i hlt
      simpa using hdigit n hlt h
    · rename_i hle
      rw [List.head?_append_of_ne_nil _ Nat.toDigits_ne_nil]
      exact ih (n / 10) (by omega) (by omega)

/-- Digits: there is one, and there is nothing else. -/
def Digits (ds : List Char) : Prop := ds ≠ [] ∧ ∀ d ∈ ds, isAsciiDigit d = true

/-- The digits of a number are digits and nothing else. -/
theorem digits_decimal (n : ℕ) : Digits (decimal n) :=
  ⟨decimal_ne_nil n, fun _ => isAsciiDigit_of_mem_decimal⟩

/-! ## Length -/

/-- A number has at most as many digits as the power of ten that exceeds it. -/
theorem length_decimal_le {k : ℕ} (hk : 0 < k) (h : n < 10 ^ k) : (decimal n).length ≤ k :=
  Nat.toDigits_length 10 n k hk h

/-- One more digit. -/
theorem numberOfDigits_concat (ds : List Char) (d : Char) :
    numberOfDigits (ds ++ [d]) = 10 * numberOfDigits ds + digitValue d := by
  unfold numberOfDigits
  rw [List.foldl_append]
  rfl

/-- A digit is less than ten. -/
theorem digitValue_lt (h : isAsciiDigit c = true) : digitValue c < 10 := by
  have hc : c.toNat ≤ '9'.toNat := by
    simp only [isAsciiDigit, Bool.and_eq_true, decide_eq_true_eq] at h
    exact h.2
  have hnine : '9'.toNat = 57 := rfl
  have hzero : '0'.toNat = 48 := rfl
  unfold digitValue
  omega

/-- The number that digits write is their value in base ten. -/
theorem numberOfDigits_eq_ofDigits (ds : List Char) :
    numberOfDigits ds = Nat.ofDigits 10 (ds.reverse.map digitValue) := by
  induction ds using List.reverseRecOn with
  | nil => rfl
  | append_singleton ds d ih =>
    rw [numberOfDigits_concat, ih, List.reverse_concat, List.map_cons, Nat.ofDigits_cons,
      Nat.add_comm]

/-- Digits write a number below the power of ten of their count. -/
theorem numberOfDigits_lt {ds : List Char} (h : ∀ d ∈ ds, isAsciiDigit d = true) :
    numberOfDigits ds < 10 ^ ds.length := by
  induction ds using List.reverseRecOn with
  | nil => decide
  | append_singleton ds d ih =>
    rw [List.forall_mem_append] at h
    have hd := digitValue_lt (h.2 d List.mem_cons_self)
    have hds := ih h.1
    rw [numberOfDigits_concat, List.length_append, List.length_singleton, Nat.pow_succ]
    omega

/-- One more digit in front. -/
theorem numberOfDigits_cons (d : Char) (ds : List Char) :
    numberOfDigits (d :: ds) = digitValue d * 10 ^ ds.length + numberOfDigits ds := by
  induction ds using List.reverseRecOn with
  | nil => simp [numberOfDigits]
  | append_singleton ds c ih =>
    rw [← List.cons_append, numberOfDigits_concat, ih, numberOfDigits_concat, List.length_append,
      List.length_singleton, Nat.pow_succ, ← Nat.mul_assoc]
    omega

/-- Digits without a leading zero write at least a power of ten. -/
theorem pow_le_numberOfDigits {d : Char} (hd : isAsciiDigit d = true) (hzero : d ≠ '0')
    (ds : List Char) : 10 ^ ds.length ≤ numberOfDigits (d :: ds) := by
  have hvalue : 0 < digitValue d := by
    simp only [isAsciiDigit, Bool.and_eq_true, decide_eq_true_eq] at hd
    have hle : '0'.toNat ≤ d.toNat := hd.1
    have hne : d.toNat ≠ '0'.toNat := fun h => hzero (Char.toNat_inj.mp h)
    unfold digitValue
    omega
  rw [numberOfDigits_cons]
  exact Nat.le_add_right_of_le (Nat.le_mul_of_pos_left _ hvalue)

/-- A number has more digits than the power of ten that it reaches. -/
theorem lt_length_decimal {k : ℕ} (h : 10 ^ k ≤ n) : k < (decimal n).length := by
  have hlt := numberOfDigits_lt (digits_decimal n).2
  rw [numberOfDigits_decimal] at hlt
  exact (Nat.pow_lt_pow_iff_right (by decide)).mp (Nat.lt_of_le_of_lt h hlt)

/-- Zeros behind digits multiply what they write by a power of ten. -/
theorem numberOfDigits_append_replicate (ds : List Char) (k : ℕ) :
    numberOfDigits (ds ++ List.replicate k '0') = numberOfDigits ds * 10 ^ k := by
  have hzero : digitValue '0' = 0 := rfl
  induction k with
  | zero => simp
  | succ k ih =>
    rw [List.replicate_succ', ← List.append_assoc, numberOfDigits_concat, ih, hzero, Nat.add_zero,
      Nat.mul_comm, Nat.mul_assoc, Nat.pow_succ]

/-- Multiplying a number by a power of ten puts zeros behind its digits. -/
theorem decimal_mul_pow (h : n ≠ 0) (k : ℕ) :
    decimal (n * 10 ^ k) = decimal n ++ List.replicate k '0' := by
  induction k with
  | zero => simp
  | succ k ih =>
    have hpos : 0 < n * 10 ^ k := Nat.mul_pos (Nat.pos_of_ne_zero h) (Nat.pow_pos (by decide))
    have hsucc : n * 10 ^ (k + 1) = n * 10 ^ k * 10 := by rw [Nat.pow_succ, Nat.mul_assoc]
    have hlarge : ¬ n * 10 ^ k * 10 < 10 := by omega
    rw [hsucc]
    unfold decimal at *
    rw [Nat.toDigits_eq_if (by decide), if_neg hlarge, Nat.mul_div_cancel _ (by decide),
      Nat.mul_mod_left, ih, List.replicate_succ', List.append_assoc]
    rfl

/-! ## Padding -/

/-- Zeros in front do not change what digits write. -/
theorem numberOfDigits_replicate_append (k : ℕ) (ds : List Char) :
    numberOfDigits (List.replicate k '0' ++ ds) = numberOfDigits ds := by
  induction k with
  | zero => rfl
  | succ k ih => rw [List.replicate_succ, List.cons_append, ← ih]; rfl

/-- The padded digits of a number read back to it. -/
theorem numberOfDigits_paddedDecimal (w n : ℕ) : numberOfDigits (paddedDecimal w n) = n := by
  unfold paddedDecimal
  rw [numberOfDigits_replicate_append, numberOfDigits_decimal]

/-- The padded digits of a number are digits. -/
theorem digits_paddedDecimal (w n : ℕ) : Digits (paddedDecimal w n) := by
  obtain ⟨hne, hdigits⟩ := digits_decimal n
  refine ⟨by simp [paddedDecimal, hne], fun d hd => ?_⟩
  rcases List.mem_append.mp hd with hd | hd
  · rw [List.eq_of_mem_replicate hd]
    decide
  · exact hdigits d hd

/-- A number that fits its width is padded to it. -/
theorem length_paddedDecimal {w n : ℕ} (hw : 0 < w) (h : n < 10 ^ w) :
    (paddedDecimal w n).length = w := by
  have hlength := length_decimal_le hw h
  unfold paddedDecimal
  rw [List.length_append, List.length_replicate]
  omega

section Front

variable {p : Char → Bool} {ds rest : List Char}

/-- Characters are taken up to the first one that a test rejects. -/
theorem takeWhile_append_of_head? (hds : ∀ d ∈ ds, p d = true)
    (hrest : ∀ c ∈ rest.head?, p c = false) : (ds ++ rest).takeWhile p = ds := by
  rw [List.takeWhile_append_of_pos hds]
  cases rest with
  | nil => simp
  | cons c rest => simp [hrest c rfl]

/-- Characters are dropped up to the first one that a test rejects. -/
theorem dropWhile_append_of_head? (hds : ∀ d ∈ ds, p d = true)
    (hrest : ∀ c ∈ rest.head?, p c = false) : (ds ++ rest).dropWhile p = rest := by
  rw [List.dropWhile_append_of_pos hds]
  cases rest with
  | nil => rfl
  | cons c rest => simp [hrest c rfl]

end Front

end SkaterLedger.Text
