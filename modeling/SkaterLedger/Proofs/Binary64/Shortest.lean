import Mathlib.Data.Int.Notation
import Mathlib.Data.List.DropRight
import SkaterLedger.Binary64.Shortest
import SkaterLedger.Proofs.Binary64.Rounding
import SkaterLedger.Proofs.Text.Decimal

/-!
# Shortest decimal notation reads back

The magnitude nearest to a decimal number depends on its value alone, not on how its digits and its
power of ten are chosen (`toMagnitude_mul_pow`). The shortest decimal number of a finite magnitude
reads back to it (`toMagnitude_shortest`): the candidates on the grids are tested for this, and the
exact notation, which is left if none passes, is an exact multiple of the unit.
-/

namespace SkaterLedger

namespace Decimal

variable {d j : ℕ} {e : ℤ}

/-- Zeros at the end of the digits may be taken into the power of ten. -/
theorem toMagnitude_mul_pow (d j : ℕ) (e : ℤ) :
    toMagnitude ⟨d * 10 ^ j, e⟩ = toMagnitude ⟨d, e + j⟩ := by
  by_cases hd : d = 0
  · simp [hd, toMagnitude]
  have hdigits : d * 10 ^ j ≠ 0 := Nat.mul_ne_zero hd (by positivity)
  have hplaces : ((Text.decimal (d * 10 ^ j)).length : ℤ) + e =
      (Text.decimal d).length + (e + j) := by
    rw [Text.decimal_mul_pow hd, List.length_append, List.length_replicate]
    omega
  unfold toMagnitude
  simp only [hplaces, beq_iff_eq, hd, hdigits, if_false]
  split_ifs with h₁ h₂ h₃ h₄ h₄
  · rfl
  · rfl
  · have hexponent : (e + j).toNat = j + e.toNat := by omega
    rw [hexponent, Nat.pow_eq, Nat.pow_eq, Nat.pow_add, Nat.mul_assoc]
  · omega
  · have hexponent : j = (-e).toNat + (e + j).toNat := by omega
    generalize (-e).toNat = a at *
    generalize (e + j).toNat = b at *
    have hfactor := Magnitude.ofQuotient_mul_left (k := 10 ^ a) (by positivity) (d * 10 ^ b) 1
    rw [Nat.pow_eq, Nat.pow_eq, ← hfactor, hexponent, Nat.pow_add, Nat.mul_one, Nat.mul_left_comm]
  · have hexponent : (-e).toNat = j + (-(e + j)).toNat := by omega
    generalize (-(e + j)).toNat = b at *
    have hfactor := Magnitude.ofQuotient_mul_left (k := 10 ^ j) (by positivity) d (10 ^ b)
    rw [hexponent, Nat.pow_eq, Nat.pow_eq, Nat.pow_add, ← hfactor, Nat.mul_comm d]

/-- A decimal number with some places behind the point, as long as it is within the places that are
looked at, is read as a quotient. -/
theorem toMagnitude_neg {k : ℕ} (hd : d ≠ 0) (hk : 0 < k)
    (hlow : k ≤ (Text.decimal d).length + 400) (hhigh : (Text.decimal d).length ≤ 400 + k) :
    toMagnitude ⟨d, -k⟩ = Magnitude.ofQuotient d (10 ^ k) := by
  have hplaces : ¬ placesLimit < ((Text.decimal d).length : ℤ) + -k := by
    unfold placesLimit
    omega
  have hplaces' : ¬ ((Text.decimal d).length : ℤ) + -k < -placesLimit := by
    unfold placesLimit
    omega
  have hneg : ¬ (0 : ℤ) ≤ -k := by omega
  have hexponent : (-(-k : ℤ)).toNat = k := by omega
  unfold toMagnitude
  simp only [beq_iff_eq, hd, if_false, hplaces, hplaces', hneg, hexponent]
  rw [Nat.pow_eq]

end Decimal

namespace Magnitude

variable {m : Magnitude}

/-- A magnitude of a rank other than zero has units. -/
theorem units_ne_zero (h : m.rank ≠ 0) : m.units ≠ 0 := by
  have hpow (k : ℕ) : 0 < Nat.pow 2 k := Nat.pow_pos (by decide)
  unfold units
  split
  · exact h
  · exact Nat.mul_ne_zero (Nat.ne_of_gt (Nat.add_pos_left (by decide) _)) (Nat.ne_of_gt (hpow _))

/-- The shortest decimal number of a magnitude other than zero is the first one on the grids that
reads back, and the exact one if there is none. -/
theorem shortest_eq (h : m.rank ≠ 0) :
    m.shortest =
      ((((List.range maxDigits).map fun (n : ℕ) => m.leadingExponent - n).flatMap
        m.gridNeighbours).find? fun d => d.toMagnitude == m).getD m.exactDecimal := by
  unfold shortest
  exact if_neg (by simpa using h)

/-- The exact decimal number of a magnitude that has units is not zero. -/
theorem digits_exactDecimal_ne (h : m.units ≠ 0) : m.exactDecimal.digits ≠ 0 := by
  unfold exactDecimal
  generalize 1074 = k
  exact Nat.mul_ne_zero h (Nat.ne_of_gt (Nat.pow_pos (by decide)))

/-- The shortest decimal number of a magnitude other than zero is not zero. -/
theorem digits_shortest_ne (h : m.rank ≠ 0) : m.shortest.digits ≠ 0 := by
  have hzero : zero.rank = 0 := Nat.zero_min _
  have hfound {candidates : List Decimal} {d : Decimal}
      (hfind : candidates.find? (fun d => d.toMagnitude == m) = some d) : d.digits ≠ 0 := by
    -- What was found reads back to the magnitude, and zero would read back to zero.
    intro hd
    have hread := List.find?_some (p := fun d : Decimal => d.toMagnitude == m) hfind
    unfold Decimal.toMagnitude at hread
    rw [if_pos (by simpa using hd), beq_iff_eq] at hread
    rw [← hread, hzero] at h
    exact h rfl
  rw [shortest_eq h]
  generalize List.flatMap _ _ = candidates
  cases hfind : candidates.find? fun d => d.toMagnitude == m with
  | none =>
    rw [Option.getD_none]
    exact digits_exactDecimal_ne (units_ne_zero h)
  | some d =>
    rw [Option.getD_some]
    exact hfound hfind

/-- Powers of two and of five, as many of each and some more of two, stay below powers of ten. -/
theorem two_pow_mul_five_pow_le (i k : ℕ) : 2 ^ (3 * i + k) * 5 ^ k ≤ 10 ^ (i + k) := by
  calc 2 ^ (3 * i + k) * 5 ^ k = 8 ^ i * 10 ^ k := by
        rw [Nat.pow_add, Nat.mul_assoc, ← Nat.mul_pow, Nat.pow_mul]
    _ ≤ 10 ^ i * 10 ^ k := Nat.mul_le_mul_right _ (Nat.pow_le_pow_left (by decide) i)
    _ = 10 ^ (i + k) := (Nat.pow_add ..).symm

/-- Three powers of five exceed two powers of ten. -/
theorem ten_pow_le_five_pow (i : ℕ) : 10 ^ (2 * i) ≤ 5 ^ (3 * i) := by
  rw [Nat.pow_mul, Nat.pow_mul]
  exact Nat.pow_le_pow_left (by decide) i

/-- The digits of the exact notation stay within the places that are looked at. -/
theorem length_exactDecimal (hfinite : m.isInfinite = false) (hunits : m.units ≠ 0) {i k : ℕ}
    (hi : i = 358) (hk : k = 3 * i) : 2 * i < (Text.decimal (m.units * 5 ^ k)).length ∧
      (Text.decimal (m.units * 5 ^ k)).length ≤ 400 + k := by
  constructor
  · apply Text.lt_length_decimal
    calc 10 ^ (2 * i) ≤ 5 ^ (3 * i) := ten_pow_le_five_pow i
      _ = 5 ^ k := by rw [hk]
      _ ≤ m.units * 5 ^ k := Nat.le_mul_of_pos_left _ (Nat.pos_of_ne_zero hunits)
  · obtain ⟨s, hs, hlt⟩ := exists_units_lt hfinite
    refine Text.length_decimal_le (by omega) ?_
    calc m.units * 5 ^ k < 2 ^ 53 * 2 ^ s * 5 ^ k :=
          Nat.mul_lt_mul_of_pos_right hlt (Nat.pow_pos (by decide))
      _ ≤ 2 ^ (3 * 400 + k) * 5 ^ k := by
        rw [← Nat.pow_add]
        exact Nat.mul_le_mul_right _ (Nat.pow_le_pow_right (by decide) (by omega))
      _ ≤ 10 ^ (400 + k) := two_pow_mul_five_pow_le 400 k

/-- The exact notation of a finite magnitude reads back to it. -/
theorem toMagnitude_exactDecimal (hfinite : m.isInfinite = false) (hunits : m.units ≠ 0) :
    m.exactDecimal.toMagnitude = m := by
  -- The number of places has a name, so that no step tries to compute a power of it.
  obtain ⟨k, hk⟩ : ∃ k, k = 1074 := ⟨_, rfl⟩
  have hexact : m.exactDecimal = ⟨m.units * 5 ^ k, -(k : ℤ)⟩ := by
    have hplaces : (-1074 : ℤ) = -(k : ℤ) := by omega
    unfold exactDecimal
    rw [hplaces, ← hk, Nat.pow_eq]
  obtain ⟨hlow, hhigh⟩ := length_exactDecimal hfinite hunits rfl hk
  have hdigits : m.units * 5 ^ k ≠ 0 := Nat.mul_ne_zero hunits (by positivity)
  have hquotient : ofQuotient (m.units * 5 ^ k) (10 ^ k) = m := by
    unfold ofQuotient
    rw [unitsPerOne_eq, ← hk]
    have hnum : m.units * 5 ^ k * 2 ^ k = 10 ^ k * m.units := by
      rw [Nat.mul_assoc, ← Nat.mul_pow, Nat.mul_comm]
    have hfactor := nearestUnits_mul_left (k := 10 ^ k) (by positivity) m.units 1
    rw [Nat.mul_one] at hfactor
    rw [hnum, hfactor, nearestUnits_units]
  rw [hexact, Decimal.toMagnitude_neg hdigits (by omega) (by omega) hhigh]
  exact hquotient

/-- The shortest decimal number of a finite magnitude reads back to it. -/
theorem toMagnitude_shortest (hfinite : m.isInfinite = false) : m.shortest.toMagnitude = m := by
  by_cases hrank : m.rank = 0
  · have hzero : m.shortest = ⟨0, 0⟩ := by
      unfold shortest
      rw [if_pos (by simpa using hrank)]
    rw [hzero, ← ofRank_rank m, hrank]
    rfl
  · rw [shortest_eq hrank]
    generalize List.flatMap _ _ = candidates
    cases hfind : candidates.find? fun d => d.toMagnitude == m with
    | none =>
      rw [Option.getD_none]
      exact toMagnitude_exactDecimal hfinite (units_ne_zero hrank)
    | some d =>
      rw [Option.getD_some]
      have hread := List.find?_some (p := fun d : Decimal => d.toMagnitude == m) hfind
      simpa using hread

end Magnitude

namespace NumberStyle

/-- The digits of a number other than zero without the zeros at their end are digits, the first of
which is not zero. -/
theorem digits_trimZeros {d : Decimal} (h : d.digits ≠ 0) :
    Text.Digits (trimZeros d).1 ∧ (trimZeros d).1.head? ≠ some '0' := by
  have hhead := Text.head?_decimal_ne h
  have hdigits := Text.digits_decimal d.digits
  have hfront : (Text.decimal d.digits).rdropWhile (· == '0') <+: Text.decimal d.digits :=
    List.rdropWhile_prefix _ _
  change Text.Digits ((Text.decimal d.digits).rdropWhile (· == '0')) ∧
    ((Text.decimal d.digits).rdropWhile (· == '0')).head? ≠ some '0'
  -- The first digit is not a zero, so it is left.
  have hne : (Text.decimal d.digits).rdropWhile (· == '0') ≠ [] := by
    intro hnil
    rw [List.rdropWhile_eq_nil_iff] at hnil
    cases hcases : Text.decimal d.digits with
    | nil => exact hdigits.1 hcases
    | cons c cs =>
      rw [hcases] at hnil hhead
      have hc := hnil c List.mem_cons_self
      exact hhead (by simpa using hc)
  refine ⟨⟨hne, fun c hc => hdigits.2 c (hfront.subset hc)⟩, ?_⟩
  obtain ⟨zeros, hzeros⟩ := hfront
  rwa [← hzeros, List.head?_append_of_ne_nil _ hne] at hhead

/-- Only zeros are taken off the end. -/
theorem decimal_eq_trimZeros_append (d : Decimal) :
    Text.decimal d.digits = (trimZeros d).1 ++
      List.replicate ((Text.decimal d.digits).length - (trimZeros d).1.length) '0' := by
  have hzeros : ∀ c ∈ (Text.decimal d.digits).reverse.takeWhile (· == '0'), c = '0' := by
    intro c hc
    simpa using List.mem_takeWhile_imp hc
  have hsplit := congrArg List.reverse
    (List.takeWhile_append_dropWhile (p := (· == '0')) (l := (Text.decimal d.digits).reverse))
  rw [List.eq_replicate_of_mem hzeros, List.reverse_append, List.reverse_replicate,
    List.reverse_reverse] at hsplit
  have hlength := congrArg List.length hsplit
  rw [List.length_append, List.length_replicate] at hlength
  have hcount : (Text.decimal d.digits).length - (trimZeros d).1.length =
      ((Text.decimal d.digits).reverse.takeWhile (· == '0')).length :=
    Nat.sub_eq_of_eq_add (by rw [← hlength, Nat.add_comm]; rfl)
  rw [hcount]
  exact hsplit.symm

/-- The digits without the zeros at their end, with their exponent, are of the same value. -/
theorem toMagnitude_trimZeros (d : Decimal) :
    Decimal.toMagnitude ⟨Text.numberOfDigits (trimZeros d).1, (trimZeros d).2⟩ = d.toMagnitude := by
  have hdigits := congrArg Text.numberOfDigits (decimal_eq_trimZeros_append d)
  rw [Text.numberOfDigits_decimal, Text.numberOfDigits_append_replicate] at hdigits
  have hvalue := Decimal.toMagnitude_mul_pow (Text.numberOfDigits (trimZeros d).1)
    ((Text.decimal d.digits).length - (trimZeros d).1.length) d.exponent
  rw [← hdigits] at hvalue
  exact hvalue.symm

end NumberStyle

end SkaterLedger
