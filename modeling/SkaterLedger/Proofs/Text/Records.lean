import Mathlib.Data.List.Forall2
import Mathlib.Order.Nat
import SkaterLedger.Proofs.Text.Decimal

/-!
# Records of numbers

Digits of one length are ordered as the numbers that they write (`append_lt_append_iff`). So a
record, in which numbers of fixed widths stand one behind the other with a character after each of
them, comes before another one of the same layout exactly if its list of numbers does
(`record_lt_iff`).
-/

namespace SkaterLedger.Text

variable {n n' w : ℕ} {c d : Char} {ds ds' xs ys : List Char}

/-! ## Digits of one length -/

/-- The code point of a digit is that of zero and its value. -/
theorem toNat_eq_digitValue (h : isAsciiDigit c = true) : c.toNat = '0'.toNat + digitValue c := by
  simp only [isAsciiDigit, Bool.and_eq_true, decide_eq_true_eq] at h
  have hzero : '0'.toNat ≤ c.toNat := h.1
  unfold digitValue
  rw [Nat.add_sub_cancel' hzero]

/-- Digits are ordered as their values. -/
theorem digitValue_lt_iff (hc : isAsciiDigit c = true) (hd : isAsciiDigit d = true) :
    digitValue c < digitValue d ↔ c < d := by
  have hlt : c < d ↔ c.toNat < d.toNat := Iff.rfl
  rw [hlt, toNat_eq_digitValue hc, toNat_eq_digitValue hd, Nat.add_lt_add_iff_left]

/-- Digits are the same if their values are. -/
theorem digitValue_inj (hc : isAsciiDigit c = true) (hd : isAsciiDigit d = true) :
    digitValue c = digitValue d ↔ c = d := by
  rw [← Char.toNat_inj, toNat_eq_digitValue hc, toNat_eq_digitValue hd, Nat.add_left_cancel_iff]

/-- Texts that start with digits of one length are ordered as the numbers that these write, and then
as what follows. -/
theorem append_lt_append_iff (hds : ∀ d ∈ ds, isAsciiDigit d = true)
    (hds' : ∀ d ∈ ds', isAsciiDigit d = true) (hlength : ds.length = ds'.length) :
    ds ++ xs < ds' ++ ys ↔
      numberOfDigits ds < numberOfDigits ds' ∨
        numberOfDigits ds = numberOfDigits ds' ∧ xs < ys := by
  induction ds generalizing ds' with
  | nil =>
    obtain rfl : ds' = [] := List.eq_nil_of_length_eq_zero hlength.symm
    simp
  | cons d ds ih =>
    obtain ⟨d', ds', rfl⟩ := List.exists_cons_of_length_eq_add_one hlength.symm
    rw [List.forall_mem_cons] at hds hds'
    have hlength : ds.length = ds'.length := Nat.succ.inj hlength
    have hrest := numberOfDigits_lt hds.2
    have hrest' := numberOfDigits_lt hds'.2
    rw [← hlength] at hrest'
    rw [List.cons_append, List.cons_append, List.cons_lt_cons_iff, ih hds.2 hds'.2 hlength,
      ← digitValue_lt_iff hds.1 hds'.1, ← digitValue_inj hds.1 hds'.1, numberOfDigits_cons,
      numberOfDigits_cons, ← hlength]
    -- A larger first digit is worth more than all the digits behind the smaller one.
    have hworth {a b : ℕ} (h : a < b) :
        a * 10 ^ ds.length + 10 ^ ds.length ≤ b * 10 ^ ds.length := by
      rw [← Nat.succ_mul]
      exact Nat.mul_le_mul_right _ h
    rcases Nat.lt_trichotomy (digitValue d) (digitValue d') with h | h | h
    · have hmore := hworth h
      omega
    · rw [h, Nat.add_lt_add_iff_left, Nat.add_left_cancel_iff]
      simp
    · have hmore := hworth h
      omega

/-- Numbers that fit a width are written as texts that are ordered as they are. -/
theorem paddedDecimal_append_lt_iff (hw : 0 < w) (hn : n < 10 ^ w) (hn' : n' < 10 ^ w) :
    paddedDecimal w n ++ xs < paddedDecimal w n' ++ ys ↔ n < n' ∨ n = n' ∧ xs < ys := by
  have hlength : (paddedDecimal w n).length = (paddedDecimal w n').length := by
    rw [length_paddedDecimal hw hn, length_paddedDecimal hw hn']
  rw [append_lt_append_iff (digits_paddedDecimal w n).2 (digits_paddedDecimal w n').2 hlength,
    numberOfDigits_paddedDecimal, numberOfDigits_paddedDecimal]

/-! ## Records -/

/-- Numbers one behind the other, each padded to its width and with a character after it. -/
def record : List (ℕ × Char) → List ℕ → List Char
  | (w, c) :: layout, n :: ns => paddedDecimal w n ++ c :: record layout ns
  | _, _ => []

/-- A number fits the width of its place in a record. -/
def FitsPlace (place : ℕ × Char) (n : ℕ) : Prop := 0 < place.1 ∧ n < 10 ^ place.1

variable {layout : List (ℕ × Char)} {ns ns' : List ℕ}

/-- Records are ordered as their numbers. -/
theorem record_lt_iff (hns : List.Forall₂ FitsPlace layout ns)
    (hns' : List.Forall₂ FitsPlace layout ns') :
    record layout ns < record layout ns' ↔ ns < ns' := by
  induction hns generalizing ns' with
  | nil =>
    cases hns'
    simp [record]
  | @cons place n layout ns hn _ ih =>
    obtain ⟨n', rest, hn', hrest, rfl⟩ := List.forall₂_cons_left_iff.mp hns'
    rw [record, record, paddedDecimal_append_lt_iff hn.1 hn.2 hn'.2, List.cons_lt_cons_iff,
      List.cons_lt_cons_iff, ih hrest]
    simp

end SkaterLedger.Text
