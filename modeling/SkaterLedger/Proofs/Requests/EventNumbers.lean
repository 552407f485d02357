import Mathlib.Tactic.SplitIfs
import SkaterLedger.Proofs.Text.Decimal
import SkaterLedger.Requests.Line

/-!
# Event numbers

A word is read as an event number exactly if it writes one (`eventNumber?_eq_some_iff`): behind at
most one plus sign it consists of digits, however many, and their value has 32 bits.

The number is computed without a bound and compared with the largest one at the end. Taking in the
digits one by one in 32 bits, and giving up before a product or a sum would wrap, comes to the same
(`eventNumber?_eq_foldlM`). Such a reader may give up early, but a number that is too large does not
become smaller by the digits that follow.
-/

namespace SkaterLedger.LineKind

variable {word sign ds : List Char} {n : ℕ} {c : Char}

/-- A word writes an event number: it consists of digits, possibly with a plus sign in front, and
their value in base ten is the number and has 32 bits. -/
def WritesEvent (word : List Char) (n : ℕ) : Prop :=
  ∃ sign ds, word = sign ++ ds ∧ (sign = [] ∨ sign = ['+']) ∧ Text.Digits ds ∧
    Nat.ofDigits 10 (ds.reverse.map Text.digitValue) = n ∧ n ≤ 4294967295

/-! ## The numbers that are read -/

/-- Digits are read as the number that they write, with and without a plus sign, unless it is too
large. -/
theorem eventNumber?_append (hsign : sign = [] ∨ sign = ['+']) (hds : Text.Digits ds) :
    eventNumber? (sign ++ ds) =
      if Text.numberOfDigits ds ≤ maxEvent then some (Text.numberOfDigits ds) else none := by
  obtain ⟨hne, hall⟩ := hds
  have hempty : ds.isEmpty = false := List.isEmpty_eq_false_iff.mpr hne
  have hdigits : ds.all Text.isAsciiDigit = true := List.all_eq_true.mpr hall
  have hread : eventNumber? (sign ++ ds) =
      if ds.isEmpty || !ds.all Text.isAsciiDigit then none
      else if Text.numberOfDigits ds ≤ maxEvent then some (Text.numberOfDigits ds) else none := by
    rcases hsign with rfl | rfl
    · -- A digit is no plus sign, so no sign is taken off.
      obtain ⟨d, ds, rfl⟩ := List.exists_cons_of_ne_nil hne
      have hd : d ≠ '+' := by
        rintro rfl
        exact absurd (hall '+' List.mem_cons_self) (by decide)
      unfold eventNumber?
      split
      · rename_i heq
        exact absurd (List.cons.inj heq).1 hd
      · rfl
    · rfl
  rw [hread, hempty, hdigits]
  rfl

/-- Only digits are read, with or without a plus sign in front. -/
theorem exists_digits_of_eventNumber? (h : eventNumber? word = some n) :
    ∃ sign ds, word = sign ++ ds ∧ (sign = [] ∨ sign = ['+']) ∧ Text.Digits ds := by
  have hdigits {ds : List Char} (hds : ¬ (ds.isEmpty || !ds.all Text.isAsciiDigit) = true) :
      Text.Digits ds := by
    rw [Bool.or_eq_true, not_or, List.isEmpty_iff, Bool.not_eq_true', Bool.not_eq_false,
      List.all_eq_true] at hds
    exact hds
  unfold eventNumber? at h
  dsimp only at h
  split at h
  · rename_i rest
    split_ifs at h with hds
    exact ⟨['+'], rest, rfl, .inr rfl, hdigits hds⟩
  · split_ifs at h with hds
    exact ⟨[], word, rfl, .inl rfl, hdigits hds⟩

/-- A word is read as a number exactly if it writes the number. -/
theorem eventNumber?_eq_some_iff : eventNumber? word = some n ↔ WritesEvent word n := by
  constructor
  · intro h
    obtain ⟨sign, ds, rfl, hsign, hds⟩ := exists_digits_of_eventNumber? h
    rw [eventNumber?_append hsign hds] at h
    split_ifs at h with hle
    obtain rfl := Option.some.inj h
    exact ⟨sign, ds, rfl, hsign, hds, (Text.numberOfDigits_eq_ofDigits ds).symm, hle⟩
  · rintro ⟨sign, ds, rfl, hsign, hds, hvalue, hle⟩
    have hmax : n ≤ maxEvent := hle
    rw [← Text.numberOfDigits_eq_ofDigits] at hvalue
    rw [eventNumber?_append hsign hds, hvalue, if_pos hmax]

/-- A number that is read has 32 bits. -/
theorem eventNumber?_le (h : eventNumber? word = some n) : n ≤ maxEvent := by
  obtain ⟨-, -, -, -, -, -, hle⟩ := eventNumber?_eq_some_iff.mp h
  exact hle

/-- The digits of an event number are read as the number. -/
theorem eventNumber?_decimal (h : n < 2 ^ 32) : eventNumber? (Text.decimal n) = some n := by
  have hle : n ≤ maxEvent := Nat.le_of_lt_succ h
  have hread := eventNumber?_append (.inl rfl) (Text.digits_decimal n)
  rwa [Text.numberOfDigits_decimal, if_pos hle] at hread

/-! ## Reading in 32 bits -/

/-- One more digit behind a number of 32 bits; `none` if the product or the sum would wrap. -/
def pushDigit? (n : UInt32) (c : Char) : Option UInt32 :=
  let digit := c.val - '0'.val
  if n ≤ 4294967295 / 10 ∧ digit ≤ 4294967295 - n * 10 then some (n * 10 + digit) else none

section Step

variable {m digit : UInt32}

/-- A product does not wrap if the number is at most a tenth of the largest one. -/
theorem toNat_mul_ten (h : m.toNat ≤ maxEvent / 10) : (m * 10).toNat = 10 * m.toNat := by
  have hten : (10 : UInt32).toNat = 10 := rfl
  unfold maxEvent at h
  rw [UInt32.toNat_mul, hten]
  omega

/-- A digit is taken in exactly if the result has 32 bits. -/
theorem fits_iff : m ≤ 4294967295 / 10 ∧ digit ≤ 4294967295 - m * 10 ↔
    10 * m.toNat + digit.toNat ≤ maxEvent := by
  have hmax : (4294967295 : UInt32).toNat = maxEvent := rfl
  have htenth : (4294967295 / 10 : UInt32).toNat = maxEvent / 10 := rfl
  have hroom (h : m.toNat ≤ maxEvent / 10) :
      (4294967295 - m * 10).toNat = maxEvent - 10 * m.toNat := by
    have hle : m * 10 ≤ 4294967295 := by
      rw [UInt32.le_iff_toNat_le, toNat_mul_ten h, hmax]
      omega
    rw [UInt32.toNat_sub_of_le _ _ hle, toNat_mul_ten h, hmax]
  rw [UInt32.le_iff_toNat_le, UInt32.le_iff_toNat_le, htenth]
  constructor
  · rintro ⟨hsmall, hdigit⟩
    rw [hroom hsmall] at hdigit
    omega
  · intro hfits
    have hsmall : m.toNat ≤ maxEvent / 10 := by omega
    rw [hroom hsmall]
    exact ⟨hsmall, by omega⟩

/-- What a digit makes of a number in 32 bits. -/
theorem toNat_pushDigit? (m : UInt32) (hc : Text.isAsciiDigit c = true) :
    (pushDigit? m c).map UInt32.toNat =
      if 10 * m.toNat + Text.digitValue c ≤ maxEvent then
        some (10 * m.toNat + Text.digitValue c)
      else none := by
  have hzero : '0'.val ≤ c.val := by
    simp only [Text.isAsciiDigit, Bool.and_eq_true, decide_eq_true_eq] at hc
    exact hc.1
  have hdigit : (c.val - '0'.val).toNat = Text.digitValue c := UInt32.toNat_sub_of_le _ _ hzero
  unfold pushDigit?
  rw [← hdigit]
  by_cases hfits : 10 * m.toNat + (c.val - '0'.val).toNat ≤ maxEvent
  · have hsum : (m * 10 + (c.val - '0'.val)).toNat =
        10 * m.toNat + (c.val - '0'.val).toNat := by
      have hlt := Nat.lt_succ_of_le hfits
      rw [UInt32.toNat_add, toNat_mul_ten (by omega)]
      exact Nat.mod_eq_of_lt hlt
    rw [if_pos hfits, if_pos (fits_iff.mpr hfits), Option.map_some, hsum]
  · rw [if_neg hfits, if_neg (mt fits_iff.mp hfits), Option.map_none]

end Step

/-- Digits that are taken in one by one give the number that they write, unless it is too large. -/
theorem toNat_foldlM_pushDigit? (h : ∀ d ∈ ds, Text.isAsciiDigit d = true) :
    (ds.foldlM pushDigit? 0).map UInt32.toNat =
      if Text.numberOfDigits ds ≤ maxEvent then some (Text.numberOfDigits ds) else none := by
  induction ds using List.reverseRecOn with
  | nil => rfl
  | append_singleton ds d ih =>
    rw [List.forall_mem_append, List.forall_mem_singleton] at h
    have hread := ih h.1
    rw [Text.numberOfDigits_concat, List.foldlM_append]
    by_cases hfits : Text.numberOfDigits ds ≤ maxEvent
    · rw [if_pos hfits] at hread
      obtain ⟨m, hm, hvalue⟩ := Option.map_eq_some_iff.mp hread
      rw [hm, ← hvalue, ← toNat_pushDigit? m h.2]
      simp
    · -- The reader has given up, and the number has grown further.
      rw [if_neg hfits, Option.map_eq_none_iff] at hread
      rw [hread, if_neg (by omega)]
      rfl

/-- An event number is what its digits give in 32 bits. -/
theorem eventNumber?_eq_foldlM (hsign : sign = [] ∨ sign = ['+']) (hds : Text.Digits ds) :
    eventNumber? (sign ++ ds) = (ds.foldlM pushDigit? 0).map UInt32.toNat := by
  rw [eventNumber?_append hsign hds, toNat_foldlM_pushDigit? hds.2]

end SkaterLedger.LineKind
