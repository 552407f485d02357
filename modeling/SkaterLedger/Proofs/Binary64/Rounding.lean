import Mathlib.Algebra.Order.Ring.Nat
import Mathlib.Data.Nat.Log
import Mathlib.Tactic.Positivity
import Mathlib.Tactic.Ring
import Mathlib.Tactic.SplitIfs
import SkaterLedger.Binary64.Basic

/-!
# Rounding

Rounding to a magnitude depends on the quotient alone (`nearestUnits_mul_left`). It leaves numbers of
at most 53 binary digits as they are, so every magnitude is the one nearest to its own units
(`nearestUnits_units`), and such numbers are products and quotients without error.
-/

namespace SkaterLedger.Magnitude

variable {m : Magnitude} {num den k q s : ℕ}

/-! ## Quotients -/

/-- Rounding a quotient does not see a common factor. -/
theorem roundQuotient_mul_left (hk : 0 < k) (num den : ℕ) :
    roundQuotient (k * num) (k * den) = roundQuotient num den := by
  have hrest : 2 * (k * (num % den)) = k * (2 * (num % den)) := by ring
  unfold roundQuotient
  simp only [Nat.mul_div_mul_left num den hk, Nat.mul_mod_mul_left, hrest, Nat.mul_lt_mul_left hk]

/-- The nearest magnitude does not see a common factor. -/
theorem nearestUnits_mul_left (hk : 0 < k) (num den : ℕ) :
    nearestUnits (k * num) (k * den) = nearestUnits num den := by
  unfold nearestUnits
  simp only [Nat.mul_div_mul_left num den hk, Nat.mul_assoc, roundQuotient_mul_left hk]

/-- A whole number of denominators is not rounded. -/
theorem roundQuotient_mul_right (hden : 0 < den) (q : ℕ) : roundQuotient (q * den) den = q := by
  unfold roundQuotient
  simp [Nat.mul_div_cancel q hden, hden]

/-! ## Numbers of at most 53 binary digits -/

/-- Below `2^53` units the rank is the number of units. -/
theorem nearestUnits_of_lt (hq : q < 2 ^ 53) : nearestUnits q 1 = ofRank q := by
  have hlog : Nat.log2 q ≤ 52 := by
    by_cases h : q = 0
    · simp [h]
    · exact Nat.le_of_lt_succ ((Nat.log2_lt h).mpr hq)
  have hshift : Nat.log2 (q / 1) - 52 = 0 := by
    rw [Nat.div_one]
    exact Nat.sub_eq_zero_of_le hlog
  have hround := roundQuotient_mul_right Nat.one_pos q
  rw [Nat.mul_one] at hround
  unfold nearestUnits
  simp only [hshift, Nat.zero_mul, Nat.zero_add]
  rw [show 1 * Nat.pow 2 0 = 1 from rfl, hround]

/-- A number of 53 binary digits, moved up, belongs to the binade that it was moved to. -/
theorem nearestUnits_mul_pow (hlow : 2 ^ 52 ≤ q) (hq : q < 2 ^ 53) (s : ℕ) :
    nearestUnits (q * 2 ^ s) 1 = ofRank (s * binadeSize + q) := by
  have hpos : 0 < 2 ^ s := Nat.two_pow_pos s
  have hlog : Nat.log2 (q * 2 ^ s) = 52 + s := by
    rw [Nat.log2_eq_iff (Nat.mul_ne_zero (by omega) hpos.ne')]
    constructor
    · rw [Nat.pow_add]
      exact Nat.mul_le_mul_right _ hlow
    · rw [Nat.add_right_comm, Nat.pow_add]
      exact Nat.mul_lt_mul_of_pos_right hq hpos
  have hshift : Nat.log2 (q * 2 ^ s / 1) - 52 = s := by
    rw [Nat.div_one, hlog, Nat.add_sub_cancel_left]
  unfold nearestUnits
  simp only [hshift, Nat.one_mul]
  rw [show Nat.pow 2 s = 2 ^ s from rfl, roundQuotient_mul_right hpos]

/-! ## Units -/

/-- A magnitude is of the rank that it has. -/
theorem ofRank_rank (m : Magnitude) : ofRank m.rank = m := by
  unfold ofRank
  simp [m.rank_le]

/-- The rank of a magnitude within the finite ones. -/
theorem rank_ofRank {n : ℕ} (h : n ≤ infiniteRank) : (ofRank n).rank = n := Nat.min_eq_left h

/-- Every magnitude lies below `2^53` units, or it is a number of 53 binary digits moved up to its
binade. -/
theorem units_cases (m : Magnitude) :
    m.units = m.rank ∧ m.rank < 2 ^ 53 ∨
      ∃ q s, 2 ^ 52 ≤ q ∧ q < 2 ^ 53 ∧ m.units = q * 2 ^ s ∧ m.rank = s * binadeSize + q := by
  unfold units
  split_ifs with h
  · exact .inl ⟨rfl, by unfold binadeSize at h; omega⟩
  · refine .inr ⟨binadeSize + m.rank % binadeSize, m.rank / binadeSize - 1, ?_, ?_, rfl, ?_⟩
    · exact Nat.le_add_right _ _
    · unfold binadeSize
      omega
    · unfold binadeSize at *
      omega

/-- Every magnitude is the one nearest to its own units. -/
theorem nearestUnits_units (m : Magnitude) : nearestUnits m.units 1 = m := by
  rcases m.units_cases with ⟨hunits, hlt⟩ | ⟨q, s, hlow, hq, hunits, hrank⟩
  · rw [hunits, nearestUnits_of_lt hlt, ofRank_rank]
  · rw [hunits, nearestUnits_mul_pow hlow hq, ← hrank, ofRank_rank]

/-- The units of a rank within a binade. -/
theorem units_ofRank (hlow : 2 ^ 52 ≤ q) (hq : q < 2 ^ 53) (hs : s ≤ 2045) :
    (ofRank (s * binadeSize + q)).units = q * 2 ^ s := by
  have hrank : (ofRank (s * binadeSize + q)).rank = s * binadeSize + q := by
    refine rank_ofRank ?_
    unfold infiniteRank binadeSize
    omega
  have hbinade : (s * binadeSize + q) / binadeSize = s + 1 := by
    unfold binadeSize
    omega
  have hplace : binadeSize + (s * binadeSize + q) % binadeSize = q := by
    unfold binadeSize
    omega
  have hlarge : ¬ s * binadeSize + q < binadeSize := by
    unfold binadeSize
    omega
  unfold units
  rw [hrank, if_neg hlarge, hbinade, hplace]
  rfl

/-- A number of at most 53 binary digits, moved up within the finite magnitudes, is not rounded. -/
theorem units_nearestUnits (hq : q < 2 ^ 53) (hs : s ≤ 2045) :
    (nearestUnits (q * 2 ^ s) 1).units = q * 2 ^ s := by
  induction s generalizing q with
  | zero =>
    rcases Nat.lt_or_ge q (2 ^ 52) with hsmall | hlow
    · have hrank : (ofRank q).rank = q := rank_ofRank (by unfold infiniteRank binadeSize; omega)
      rw [Nat.pow_zero, Nat.mul_one, nearestUnits_of_lt hq]
      have hbinade : q < binadeSize := hsmall
      unfold units
      rw [hrank, if_pos hbinade]
    · rw [nearestUnits_mul_pow hlow hq, units_ofRank hlow hq hs]
  | succ s ih =>
    rcases Nat.lt_or_ge q (2 ^ 52) with hsmall | hlow
    · have hmove : q * 2 ^ (s + 1) = 2 * q * 2 ^ s := by ring
      rw [hmove]
      exact ih (by omega) (by omega)
    · rw [nearestUnits_mul_pow hlow hq, units_ofRank hlow hq hs]

/-- The units of a finite magnitude have at most 53 binary digits, moved up to its binade. -/
theorem exists_units_lt (h : m.isInfinite = false) : ∃ s ≤ 2045, m.units < 2 ^ 53 * 2 ^ s := by
  have hrank : m.rank < infiniteRank := by
    refine lt_of_le_of_ne m.rank_le ?_
    simpa [isInfinite] using h
  rcases m.units_cases with ⟨hunits, hlt⟩ | ⟨q, s, hlow, hq, hunits, hsum⟩
  · exact ⟨0, by decide, by simpa [hunits] using hlt⟩
  · refine ⟨s, ?_, ?_⟩
    · unfold infiniteRank binadeSize at *
      omega
    · rw [hunits]
      exact Nat.mul_lt_mul_of_pos_right hq (Nat.two_pow_pos s)

/-! ## Arithmetic without error -/

/-- The number of units in one is a power of two. -/
theorem unitsPerOne_eq : unitsPerOne = 2 ^ 1074 := by
  unfold unitsPerOne
  generalize 1074 = k
  exact Nat.pow_eq

/-- The number of units in one is positive. -/
theorem unitsPerOne_pos : 0 < unitsPerOne := by
  rw [unitsPerOne_eq]
  positivity

/-- The magnitude nearest to a quotient does not see a common factor. -/
theorem ofQuotient_mul_left (hk : 0 < k) (num den : ℕ) :
    ofQuotient (k * num) (k * den) = ofQuotient num den := by
  unfold ofQuotient
  rw [Nat.mul_assoc, nearestUnits_mul_left hk]

/-- A natural number below `2^53` is a magnitude. -/
theorem units_ofNat {n : ℕ} (hn : n < 2 ^ 53) : (ofNat n).units = n * unitsPerOne := by
  unfold ofNat ofQuotient
  rw [unitsPerOne_eq]
  exact units_nearestUnits hn (by decide)

/-- A product of whole magnitudes is the magnitude nearest to the product. -/
theorem mul_eq {a b : Magnitude} {i j : ℕ} (ha : a.units = i * unitsPerOne)
    (hb : b.units = j * unitsPerOne) : a * b = ofQuotient (i * j) 1 := by
  have hproduct : a.units * b.units = unitsPerOne * (i * j * unitsPerOne) := by
    rw [ha, hb]
    ring
  calc a * b = nearestUnits (a.units * b.units) unitsPerOne := rfl
    _ = nearestUnits (unitsPerOne * (i * j * unitsPerOne)) (unitsPerOne * 1) := by
      rw [hproduct, Nat.mul_one]
    _ = nearestUnits (i * j * unitsPerOne) 1 := nearestUnits_mul_left unitsPerOne_pos _ _
    _ = ofQuotient (i * j) 1 := rfl

/-- A quotient of whole magnitudes is the magnitude nearest to the quotient. -/
theorem div_eq {a b : Magnitude} {i j : ℕ} (ha : a.units = i * unitsPerOne)
    (hb : b.units = j * unitsPerOne) : a / b = ofQuotient i j := by
  calc a / b = nearestUnits (a.units * unitsPerOne) b.units := rfl
    _ = nearestUnits (unitsPerOne * (i * unitsPerOne)) (unitsPerOne * j) := by
      rw [ha, hb, Nat.mul_comm, Nat.mul_comm j]
    _ = nearestUnits (i * unitsPerOne) j := nearestUnits_mul_left unitsPerOne_pos _ _
    _ = ofQuotient i j := rfl

end SkaterLedger.Magnitude
