import Mathlib.Data.Nat.Dist
import SkaterLedger.Binary64.Decimal
import SkaterLedger.Proofs.Binary64.Shortest

/-!
# Rounding to nearest

No magnitude is nearer to a quotient than the one that it is rounded to, and if another one is as
near, the one that is taken has an even rank (`nearestUnits_isNearest`). Infinity counts here as the
number after the last finite one, which is when a quotient is rounded to it. This tells to which
magnitude a quotient is rounded (`IsNearest.unique`). The same holds of a decimal number, also where
its exponent is so far out of range that no quotient is formed (`Decimal.toMagnitude_isNearest`).

Near a quotient the magnitudes are the multiples of a power of two. Of these the quotient is rounded
to the nearest one, and those magnitudes that are no multiples lie below all of them that matter
(`units_eq_mul_or_lt`).
-/

namespace SkaterLedger.Magnitude

variable {m t : Magnitude} {num den j q r s : ℕ}

/-- A magnitude is the one nearest to a quotient of units. -/
structure IsNearest (m : Magnitude) (num den : ℕ) : Prop where
  /-- No magnitude is nearer. -/
  nearest : ∀ t : Magnitude, Nat.dist (m.units * den) num ≤ Nat.dist (t.units * den) num
  /-- If another one is as near, it is the one with an even rank. -/
  even : ∀ t : Magnitude, t ≠ m → Nat.dist (t.units * den) num = Nat.dist (m.units * den) num →
    m.rank % 2 = 0

/-! ## Whole numbers -/

/-- A quotient with a rest is rounded down or up by comparing the rest with its half. -/
theorem roundQuotient_add (hr : r < den) (q : ℕ) : roundQuotient (q * den + r) den =
    if 2 * r < den ∨ 2 * r = den ∧ q % 2 = 0 then q else q + 1 := by
  have hdiv : (q * den + r) / den = q := by
    rw [Nat.mul_comm, Nat.mul_add_div (by omega), Nat.div_eq_of_lt hr, Nat.add_zero]
  have hmod : (q * den + r) % den = r := by
    rw [Nat.mul_comm, Nat.mul_add_mod, Nat.mod_eq_of_lt hr]
  unfold roundQuotient
  simp only [hdiv, hmod, beq_iff_eq]
  split_ifs <;> omega

/-- Rounding a quotient goes to one of its two whole neighbours. -/
theorem roundQuotient_bounds (num den : ℕ) :
    num / den ≤ roundQuotient num den ∧ roundQuotient num den ≤ num / den + 1 := by
  unfold roundQuotient
  dsimp only
  split_ifs <;> omega

/-- Whole multiples of a number keep the order. -/
theorem mul_add_le_mul (h : j + s ≤ q) (den : ℕ) : j * den + s * den ≤ q * den := by
  rw [← Nat.add_mul]
  exact Nat.mul_le_mul_right den h

/-- A quotient is rounded to the nearest whole number, and of two equally near ones to the even
one. -/
theorem roundQuotient_nearest (hden : 0 < den) (num j : ℕ) :
    Nat.dist (roundQuotient num den * den) num ≤ Nat.dist (j * den) num ∧
      (j ≠ roundQuotient num den →
        Nat.dist (j * den) num = Nat.dist (roundQuotient num den * den) num →
          roundQuotient num den % 2 = 0) := by
  have hr : num % den < den := Nat.mod_lt num hden
  have hnum : num = num / den * den + num % den := by
    rw [Nat.mul_comm]
    exact (Nat.div_add_mod num den).symm
  generalize num / den = q at hnum
  generalize num % den = r at hnum hr
  subst hnum
  rw [roundQuotient_add hr]
  have hsucc : (q + 1) * den = q * den + den := Nat.succ_mul q den
  -- Another multiple of the denominator is at least as far away as the neighbours of the two next.
  have hj : j = q ∨ j = q + 1 ∨ j * den + den ≤ q * den ∨ q * den + 2 * den ≤ j * den := by
    rcases Nat.lt_trichotomy j q with h | h | h
    · have hle := mul_add_le_mul (show j + 1 ≤ q from h) den
      rw [Nat.one_mul] at hle
      exact .inr (.inr (.inl hle))
    · exact .inl h
    · by_cases heq : j = q + 1
      · exact .inr (.inl heq)
      · exact .inr (.inr (.inr (mul_add_le_mul (show q + 2 ≤ j by omega) den)))
  unfold Nat.dist
  rcases hj with rfl | rfl | hj | hj
  · split_ifs <;> constructor <;> omega
  · split_ifs <;> constructor <;> omega
  · split_ifs <;> constructor <;> omega
  · split_ifs <;> constructor <;> omega

/-! ## Units -/

/-- A magnitude is a multiple of a power of two, or it lies below the numbers of 53 binary digits that
end there. -/
theorem units_eq_mul_or_lt (m : Magnitude) (s : ℕ) :
    (∃ j, m.units = j * 2 ^ s) ∨ 0 < s ∧ m.units < 2 ^ 52 * 2 ^ s := by
  rcases Nat.eq_zero_or_pos s with rfl | hs
  · exact .inl ⟨m.units, by rw [Nat.pow_zero, Nat.mul_one]⟩
  have hstep (i : ℕ) (hi : i + 1 ≤ s) : 2 ^ 53 * 2 ^ i ≤ 2 ^ 52 * 2 ^ s := by
    calc 2 ^ 53 * 2 ^ i = 2 ^ 52 * 2 ^ (i + 1) := by ring
      _ ≤ 2 ^ 52 * 2 ^ s := Nat.mul_le_mul_left _ (Nat.pow_le_pow_right (by decide) hi)
  rcases m.units_cases with ⟨hunits, hlt⟩ | ⟨q, i, -, hq, hunits, -⟩
  · have hle := hstep 0 hs
    rw [Nat.pow_zero, Nat.mul_one] at hle
    exact .inr ⟨hs, by omega⟩
  · rcases Nat.lt_or_ge i s with hi | hi
    · have hlt : q * 2 ^ i < 2 ^ 53 * 2 ^ i := Nat.mul_lt_mul_of_pos_right hq (Nat.two_pow_pos i)
      exact .inr ⟨hs, by rw [hunits]; exact hlt.trans_le (hstep i hi)⟩
    · refine .inl ⟨q * 2 ^ (i - s), ?_⟩
      rw [hunits, Nat.mul_assoc, ← Nat.pow_add, Nat.sub_add_cancel hi]

/-- The units of a rank, infinity and the first rank of the next binade included. -/
theorem units_ofRank_le (hlow : 0 < s → 2 ^ 52 ≤ q) (hq : q ≤ 2 ^ 53)
    (hrank : s * binadeSize + q ≤ infiniteRank) :
    (ofRank (s * binadeSize + q)).units = q * 2 ^ s := by
  have hbinade : binadeSize = 2 ^ 52 := by decide
  unfold units
  rw [rank_ofRank hrank]
  split_ifs with h
  · have hs : s = 0 := by
      by_contra hs
      have hle : 1 * binadeSize ≤ s * binadeSize := Nat.mul_le_mul_right _ (by omega)
      omega
    rw [hs, Nat.zero_mul, Nat.zero_add, Nat.pow_zero, Nat.mul_one]
  · rcases Nat.lt_or_ge q (2 ^ 53) with hlt | hge
    · have hdiv : (s * binadeSize + q) / binadeSize = s + 1 := by
        unfold binadeSize at *
        omega
      have hmod : binadeSize + (s * binadeSize + q) % binadeSize = q := by
        unfold binadeSize at *
        omega
      rw [hdiv, hmod]
      rfl
    · obtain rfl : q = 2 ^ 53 := le_antisymm hq hge
      have hdiv : (s * binadeSize + 2 ^ 53) / binadeSize = s + 2 := by
        unfold binadeSize
        omega
      have hmod : binadeSize + (s * binadeSize + 2 ^ 53) % binadeSize = 2 ^ 52 := by
        unfold binadeSize
        omega
      rw [hdiv, hmod]
      show 2 ^ 52 * 2 ^ (s + 1) = 2 ^ 53 * 2 ^ s
      ring

/-- Magnitudes are told apart by their units. -/
theorem units_injective (h : m.units = t.units) : m = t := by
  rw [← nearestUnits_units m, h, nearestUnits_units]

/-- The higher rank has more units. -/
theorem units_lt_units (h : m.rank < t.rank) : m.units < t.units := by
  have hpos : 0 < binadeSize := by decide
  unfold units
  generalize hm : m.rank = a at h
  generalize ht : t.rank = b at h
  have ha := Nat.div_add_mod a binadeSize
  have hb := Nat.div_add_mod b binadeSize
  have hmod : a % binadeSize < binadeSize := Nat.mod_lt a hpos
  have hle : a / binadeSize ≤ b / binadeSize := Nat.div_le_div_right h.le
  split_ifs with hsmall hsmall' hsmall'
  · exact h
  · calc a < binadeSize := hsmall
      _ ≤ binadeSize + b % binadeSize := Nat.le_add_right _ _
      _ ≤ (binadeSize + b % binadeSize) * Nat.pow 2 (b / binadeSize - 1) :=
        Nat.le_mul_of_pos_right _ (Nat.two_pow_pos _)
  · omega
  · have hfirst : 1 ≤ a / binadeSize := (Nat.one_le_div_iff hpos).mpr (by omega)
    generalize a / binadeSize = i at *
    generalize b / binadeSize = j at *
    rcases Nat.lt_or_eq_of_le hle with hij | rfl
    · calc (binadeSize + a % binadeSize) * 2 ^ (i - 1) < 2 * binadeSize * 2 ^ (i - 1) :=
            Nat.mul_lt_mul_of_pos_right (by omega) (Nat.two_pow_pos _)
        _ = binadeSize * 2 ^ i := by
          obtain ⟨i, rfl⟩ := Nat.exists_eq_add_of_le' hfirst
          rw [Nat.add_sub_cancel]
          ring
        _ ≤ (binadeSize + b % binadeSize) * 2 ^ (j - 1) :=
          Nat.mul_le_mul (Nat.le_add_right _ _) (Nat.pow_le_pow_right (by decide) (by omega))
    · exact Nat.mul_lt_mul_of_pos_right (by omega) (Nat.two_pow_pos _)

/-- Only one magnitude is nearest to a quotient: of two that were, both would have an even rank, and
one between them would be nearer. -/
theorem IsNearest.unique (h : m.IsNearest num den) (h' : t.IsNearest num den) (hden : 0 < den) :
    m = t := by
  wlog hlt : m.rank < t.rank generalizing m t
  · by_contra hne
    have hranks : m.rank ≠ t.rank := fun heq => hne (by rw [← ofRank_rank m, heq, ofRank_rank])
    exact hne (this h' h (by omega)).symm
  by_contra hne
  have hdist : Nat.dist (t.units * den) num = Nat.dist (m.units * den) num :=
    le_antisymm (h'.nearest m) (h.nearest t)
  have heven := h.even t (fun heq => hne heq.symm) hdist
  have heven' := h'.even m hne hdist.symm
  have hrank : (ofRank (m.rank + 1)).rank = m.rank + 1 :=
    rank_ofRank (Nat.succ_le_of_lt (hlt.trans_le t.rank_le))
  have hlower : m.units * den < (ofRank (m.rank + 1)).units * den :=
    Nat.mul_lt_mul_of_pos_right (units_lt_units (by omega)) hden
  have hupper : (ofRank (m.rank + 1)).units * den < t.units * den :=
    Nat.mul_lt_mul_of_pos_right (units_lt_units (by omega)) hden
  have hbetween := h.nearest (ofRank (m.rank + 1))
  unfold Nat.dist at hdist hbetween
  omega

/-- Infinity counts as the number after the last finite one. -/
theorem units_infinity : infinity.units = 2 ^ 53 * 2 ^ 2045 := by
  have hrank : infiniteRank = 2045 * binadeSize + 2 ^ 53 := by decide
  unfold infinity
  rw [hrank]
  generalize hs : 2045 = s
  exact units_ofRank_le (fun _ => by decide) (le_refl _) (by rw [← hs, hrank])

/-- No magnitude lies above infinity. -/
theorem units_le_infinity (m : Magnitude) : m.units ≤ infinity.units := by
  rw [units_infinity]
  generalize hs : 2045 = s
  by_cases h : m.isInfinite = true
  · have hm : m = infinity := by
      have hrank : m.rank = infiniteRank := by simpa [isInfinite] using h
      rw [← ofRank_rank m, hrank]
      rfl
    rw [hm, units_infinity, hs]
  · obtain ⟨i, hi, hlt⟩ := exists_units_lt (Bool.eq_false_iff.mpr h)
    have hle : 2 ^ 53 * 2 ^ i ≤ 2 ^ 53 * 2 ^ s :=
      Nat.mul_le_mul_left _ (Nat.pow_le_pow_right (by decide) (by omega))
    exact (hlt.trans_le hle).le

/-! ## Magnitudes -/

/-- At or beyond infinity a quotient is rounded to it. -/
theorem isNearest_infinity (hden : 0 < den) (h : infinity.units * den ≤ num) :
    infinity.IsNearest num den where
  nearest t := by
    have hle : t.units * den ≤ infinity.units * den := Nat.mul_le_mul_right den t.units_le_infinity
    unfold Nat.dist
    omega
  even t ht hdist := by
    have hlt : t.units * den < infinity.units * den := by
      apply Nat.mul_lt_mul_of_pos_right _ hden
      exact lt_of_le_of_ne t.units_le_infinity fun heq => ht (units_injective heq)
    unfold Nat.dist at hdist
    omega

/-- Below half of the unit a quotient is rounded to zero. -/
theorem isNearest_zero (h : 2 * num < den) : zero.IsNearest num den := by
  have hzero : zero.units = 0 := by decide
  have hfar {t : Magnitude} (ht : t ≠ zero) : den ≤ t.units * den := by
    apply Nat.le_mul_of_pos_left
    by_contra hpos
    exact ht (units_injective (hzero ▸ Nat.eq_zero_of_not_pos hpos))
  constructor
  · intro t
    by_cases ht : t = zero
    · rw [ht]
    · have hle := hfar ht
      unfold Nat.dist
      rw [hzero]
      omega
  · intro t ht hdist
    have hle := hfar ht
    unfold Nat.dist at hdist
    rw [hzero] at hdist
    omega

/-- A quotient of at least 53 binary digits before the point has as many when it is moved down, and
one that has fewer is not moved. -/
theorem binade_cases (hden : 0 < den) (num : ℕ) {s : ℕ} (hs : s = Nat.log2 (num / den) - 52) :
    num < 2 ^ 53 * (den * 2 ^ s) ∧ (0 < s → 2 ^ 52 * (den * 2 ^ s) ≤ num) := by
  have hmove (w : ℕ) : w * 2 ^ s * den = w * (den * 2 ^ s) := by ring
  have hupper : num / den < 2 ^ 53 * 2 ^ s := by
    by_cases h : num / den = 0
    · rw [h]
      positivity
    · calc num / den < 2 ^ (Nat.log2 (num / den) + 1) := Nat.lt_log2_self
        _ ≤ 2 ^ (53 + s) := Nat.pow_le_pow_right (by decide) (by omega)
        _ = 2 ^ 53 * 2 ^ s := Nat.pow_add ..
  constructor
  · rw [← hmove]
    exact (Nat.div_lt_iff_lt_mul hden).mp hupper
  · intro hpos
    have hne : num / den ≠ 0 := by
      intro h
      rw [h] at hs
      simp at hs
      omega
    have hlower : 2 ^ 52 * 2 ^ s ≤ num / den := by
      calc 2 ^ 52 * 2 ^ s = 2 ^ Nat.log2 (num / den) := by
            rw [← Nat.pow_add]
            congr 1
            omega
        _ ≤ num / den := Nat.log2_self_le hne
    rw [← hmove]
    exact (Nat.le_div_iff_mul_le hden).mp hlower

/-- A quotient of units is rounded to the nearest magnitude. -/
theorem nearestUnits_isNearest (hden : 0 < den) (num : ℕ) :
    (nearestUnits num den).IsNearest num den := by
  generalize hs : Nat.log2 (num / den) - 52 = s
  obtain ⟨hupper, hlower⟩ := binade_cases hden num hs.symm
  have hstep : 0 < den * 2 ^ s := Nat.mul_pos hden (Nat.two_pow_pos s)
  have hmove (w : ℕ) : w * 2 ^ s * den = w * (den * 2 ^ s) := by ring
  obtain ⟨hdown, hup⟩ := roundQuotient_bounds num (den * 2 ^ s)
  have hnearest (j : ℕ) := roundQuotient_nearest hstep num j
  have hresult : nearestUnits num den =
      ofRank (s * binadeSize + roundQuotient num (den * 2 ^ s)) := by
    rw [← hs]
    rfl
  generalize roundQuotient num (den * 2 ^ s) = q at hdown hup hnearest hresult
  -- In units of the binade the quotient has 53 binary digits, or at most so many in the lowest one.
  have hq : q ≤ 2 ^ 53 := by
    have hlt : num / (den * 2 ^ s) < 2 ^ 53 := (Nat.div_lt_iff_lt_mul hstep).mpr hupper
    omega
  have hlow (hpos : 0 < s) : 2 ^ 52 ≤ q :=
    ((Nat.le_div_iff_mul_le hstep).mpr (hlower hpos)).trans hdown
  rw [hresult]
  rcases Nat.lt_or_ge infiniteRank (s * binadeSize + q) with hbeyond | hrank
  · have hinfinity : ofRank (s * binadeSize + q) = infinity := by
      unfold infinity ofRank
      simp only [Nat.min_self, Nat.min_eq_right hbeyond.le]
    have hs' : 2045 + 1 ≤ s := by
      unfold infiniteRank binadeSize at hbeyond
      omega
    rw [hinfinity]
    apply isNearest_infinity hden
    rw [units_infinity]
    generalize 2045 = i at hs'
    calc 2 ^ 53 * 2 ^ i * den = 2 ^ 52 * 2 ^ (i + 1) * den := by ring
      _ ≤ 2 ^ 52 * 2 ^ s * den := by gcongr; decide
      _ = 2 ^ 52 * (den * 2 ^ s) := hmove _
      _ ≤ num := hlower (by omega)
  · have hunits : (ofRank (s * binadeSize + q)).units = q * 2 ^ s := units_ofRank_le hlow hq hrank
    have hcases (t : Magnitude) : (∃ j, t.units = j * 2 ^ s) ∨
        Nat.dist (q * (den * 2 ^ s)) num < Nat.dist (t.units * den) num := by
      rcases t.units_eq_mul_or_lt s with hj | ⟨hpos, hlt⟩
      · exact .inl hj
      · -- The least number of 53 digits lies between such a magnitude and the quotient.
        have hfirst := (hnearest (2 ^ 52)).1
        have hle := hlower hpos
        have hbelow : t.units * den < 2 ^ 52 * (den * 2 ^ s) := by
          rw [← hmove]
          exact Nat.mul_lt_mul_of_pos_right hlt hden
        right
        unfold Nat.dist at *
        omega
    constructor
    · intro t
      rw [hunits, hmove]
      rcases hcases t with ⟨j, hj⟩ | hfar
      · rw [hj, hmove]
        exact (hnearest j).1
      · exact hfar.le
    · intro t ht hdist
      rw [hunits, hmove] at hdist
      rcases hcases t with ⟨j, hj⟩ | hfar
      · have hne : j ≠ q := by
          rintro rfl
          exact ht (units_injective (hj.trans hunits.symm))
        rw [hj, hmove] at hdist
        have heven := (hnearest j).2 hne hdist
        rw [rank_ofRank hrank]
        unfold binadeSize
        omega
      · exact absurd hdist hfar.ne'

end SkaterLedger.Magnitude

namespace SkaterLedger.Decimal

open Magnitude

variable {d i k : ℕ}

/-- Three powers of two are below one of ten. -/
theorem two_pow_le_ten_pow (h : i ≤ 3 * k) : 2 ^ i ≤ 10 ^ k := by
  calc 2 ^ i ≤ 2 ^ (3 * k) := Nat.pow_le_pow_right (by decide) h
    _ = 8 ^ k := Nat.pow_mul 2 3 k
    _ ≤ 10 ^ k := Nat.pow_le_pow_left (by decide) k

/-- A number lies below the power of ten that has a digit more. -/
theorem lt_pow_length_decimal (d : ℕ) : d < 10 ^ (Text.decimal d).length := by
  by_contra h
  exact absurd (Text.lt_length_decimal (Nat.not_lt.mp h)) (Nat.lt_irrefl _)

/-- A decimal number with some places behind the point is read as the nearest magnitude. -/
theorem toMagnitude_isNearest (d k : ℕ) :
    (toMagnitude ⟨d, -k⟩).IsNearest (d * unitsPerOne) (10 ^ k) := by
  have hden : 0 < 10 ^ k := Nat.pow_pos (by decide)
  -- The limits have names, so that no step tries to compute a power of them.
  obtain ⟨a, ha⟩ : ∃ a, a = 1074 := ⟨_, rfl⟩
  obtain ⟨b, hb⟩ : ∃ b, b = 2045 := ⟨_, rfl⟩
  obtain ⟨p, hp⟩ : ∃ p, p = 400 := ⟨_, rfl⟩
  have hlimit : placesLimit = p := by
    rw [hp]
    rfl
  unfold toMagnitude
  simp only [beq_iff_eq, hlimit]
  split_ifs with hzero hlarge hsmall hwhole
  · apply isNearest_zero
    rw [hzero, Nat.zero_mul]
    exact hden
  · have hd : 10 ^ (k + p) ≤ d := by
      by_contra hlt
      have hlength := Text.length_decimal_le (by omega) (Nat.not_le.mp hlt)
      omega
    apply isNearest_infinity hden
    rw [units_infinity, unitsPerOne_eq, ← ha, ← hb]
    obtain ⟨c, hc⟩ : ∃ c, 53 + b = c + a := ⟨53 + b - a, by omega⟩
    have hpow : 2 ^ c ≤ 10 ^ p := two_pow_le_ten_pow (by omega)
    calc 2 ^ 53 * 2 ^ b * 10 ^ k = 10 ^ k * 2 ^ c * 2 ^ a := by
          rw [← Nat.pow_add, hc]
          ring
      _ ≤ 10 ^ k * 10 ^ p * 2 ^ a := by gcongr
      _ = 10 ^ (k + p) * 2 ^ a := by rw [← Nat.pow_add]
      _ ≤ d * 2 ^ a := Nat.mul_le_mul_right _ hd
  · apply isNearest_zero
    rw [unitsPerOne_eq, ← ha]
    have hd := lt_pow_length_decimal d
    generalize (Text.decimal d).length = n at hsmall hd
    calc 2 * (d * 2 ^ a) = d * 2 ^ (a + 1) := by ring
      _ < 10 ^ n * 2 ^ (a + 1) := Nat.mul_lt_mul_of_pos_right hd (Nat.two_pow_pos _)
      _ ≤ 10 ^ n * 10 ^ p := Nat.mul_le_mul_left _ (two_pow_le_ten_pow (by omega))
      _ = 10 ^ (n + p) := (Nat.pow_add ..).symm
      _ ≤ 10 ^ k := Nat.pow_le_pow_right (by decide) (by omega)
  · obtain rfl : k = 0 := by omega
    have hmove : d * Nat.pow 10 (-((0 : ℕ) : ℤ)).toNat = d := Nat.mul_one d
    rw [hmove]
    exact nearestUnits_isNearest Nat.one_pos _
  · have hexponent : (-(-(k : ℤ))).toNat = k := by omega
    rw [hexponent]
    exact nearestUnits_isNearest hden _

end SkaterLedger.Decimal
