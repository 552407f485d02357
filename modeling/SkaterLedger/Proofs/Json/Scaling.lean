import SkaterLedger.Proofs.Binary64.Shortest
import SkaterLedger.Proofs.Json.Values

/-!
# Numbers of few digits are read back

What is printed for a finite number writes a decimal number that is nearest to it
(`toMagnitude_ofMagnitude`). The reader multiplies or divides the digits by a power of ten. As long as
the digits are a number below `2^53` and the power of ten is at most the 22nd, neither of them is
rounded, so this is a single rounding and gives the number again (`Binary64.readsBack_of_plain`).
-/

namespace SkaterLedger.Json

variable {n : Numeral} {m : Magnitude} {ds : List Char} {point e : ℤ} {d k fuel : ℕ}

namespace Numeral

/-- The power of ten that an exponent stands for. -/
def powerOf : Option (Bool × List Char) → ℤ
  | none => 0
  | some (down, ds) => if down then -Text.numberOfDigits ds else Text.numberOfDigits ds

/-- The decimal number that a numeral writes, without its sign. -/
def toDecimal (n : Numeral) : Decimal where
  digits := Text.numberOfDigits (n.whole ++ n.fraction.getD [])
  exponent := powerOf n.exponent - (n.fraction.getD []).length

/-- Whether the digits of a numeral are a number below `2^53`, and its power of ten at most the
22nd. -/
def Plain (n : Numeral) : Prop := n.toDecimal.digits < 2 ^ 53 ∧ n.toDecimal.exponent.natAbs ≤ 22

instance (n : Numeral) : Decidable n.Plain := inferInstanceAs (Decidable (_ ∧ _))

/-! ## Writing -/

/-- Some digits with one of them before the point are the same digits. -/
theorem digits_ofScientific (hds : ds ≠ []) (e : ℤ) :
    (ofScientific ds e).whole ++ (ofScientific ds e).fraction.getD [] = ds := by
  match ds with
  | [_] => rfl
  | _ :: _ :: _ => rfl

/-- An exponent is the power of ten that it is written for. -/
theorem powerOf_ofScientific (ds : List Char) (e : ℤ) :
    powerOf (ofScientific ds e).exponent = e := by
  unfold ofScientific powerOf
  simp only [Text.numberOfDigits_decimal, decide_eq_true_eq]
  split_ifs with h <;> omega

/-- The number of digits behind the point, if one of them stands before it. -/
theorem length_fraction_ofScientific (hds : ds ≠ []) (e : ℤ) :
    ((ofScientific ds e).fraction.getD []).length = ds.length - 1 := by
  match ds with
  | [_] => rfl
  | _ :: _ :: _ => rfl

/-- Wherever the point stands, digits write the same magnitude. -/
theorem toMagnitude_ofPlaced (hds : ds ≠ []) (point : ℤ) :
    (ofPlaced ds point).toDecimal.toMagnitude =
      Decimal.toMagnitude ⟨Text.numberOfDigits ds, point - ds.length⟩ := by
  have hlength : 0 < ds.length := List.length_pos_iff.mpr hds
  unfold ofPlaced
  split_ifs with h₁ h₂ h₃
  · -- The zeros behind the digits are taken into the power of ten.
    obtain ⟨k, hk⟩ : ∃ k : ℕ, point - ds.length = k := ⟨(point - ds.length).toNat, by omega⟩
    have hzeros : point.toNat - ds.length = k := by omega
    have hdigits : ds ++ List.replicate k '0' ++ ['0'] = ds ++ List.replicate (k + 1) '0' := by
      rw [List.replicate_succ', List.append_assoc]
    have hvalue := Decimal.toMagnitude_mul_pow (Text.numberOfDigits ds) (k + 1) (-1)
    rw [← Text.numberOfDigits_append_replicate, ← hdigits] at hvalue
    simpa [toDecimal, powerOf, hzeros, hk] using hvalue
  · have hplaces : (ds.length - point.toNat : ℕ) = ds.length - point := by omega
    simp [toDecimal, powerOf, hplaces]
  · have hzeros : (((-point).toNat + ds.length : ℕ) : ℤ) = ds.length - point := by omega
    have hdigits : Text.numberOfDigits (['0'] ++ (List.replicate (-point).toNat '0' ++ ds)) =
        Text.numberOfDigits ds :=
      Text.numberOfDigits_replicate_append ((-point).toNat + 1) ds
    simp only [toDecimal, powerOf, Option.getD_some, hdigits, List.length_append,
      List.length_replicate, hzeros]
    congr 2
    omega
  · simp only [toDecimal, digits_ofScientific hds, powerOf_ofScientific,
      length_fraction_ofScientific hds]
    congr 2
    omega

/-- What is printed for a finite magnitude writes it. -/
theorem toMagnitude_ofMagnitude (hfinite : m.isInfinite = false) :
    (ofMagnitude m).toDecimal.toMagnitude = m := by
  unfold ofMagnitude
  split_ifs with hrank
  · rw [← Magnitude.ofRank_rank m, hrank]
    rfl
  · have hds := (NumberStyle.digits_trimZeros (Magnitude.digits_shortest_ne hrank)).1.1
    simp only [toMagnitude_ofPlaced hds, add_sub_cancel_left, NumberStyle.toMagnitude_trimZeros]
    exact Magnitude.toMagnitude_shortest hfinite

/-! ## Reading -/

/-- Digits are gathered behind others into the number that all of them write. -/
theorem gather_append {limit : ℕ} {whole places : List Char}
    (h : Text.numberOfDigits (whole ++ places) ≤ limit) :
    ∃ start, gather limit 0 whole = (start, []) ∧
      gather limit start places = (Text.numberOfDigits (whole ++ places), []) := by
  unfold Text.numberOfDigits at h ⊢
  rw [List.foldl_append] at h ⊢
  exact ⟨_, gather_eq ((start_le_foldl places _).trans h), gather_eq h⟩

/-- A numeral with a point or an exponent stands for its digits scaled by its power of ten, as long
as nothing in it is beyond what is gathered. -/
theorem value?_eq (hreal : n.fraction ≠ none ∨ n.exponent ≠ none)
    (hdigits : n.toDecimal.digits ≤ maxSignificand)
    (hexponent : ∀ e, n.exponent = some e → Text.numberOfDigits e.2 ≤ maxExponent) :
    n.value? = realOfParts n.negative n.toDecimal.digits n.toDecimal.exponent := by
  obtain ⟨negative, whole, fraction, exponent⟩ := n
  obtain ⟨start, hwhole, hplaces⟩ := gather_append hdigits
  have hpoint : (fraction.isNone && exponent.isNone) = false := by
    rwa [Bool.and_eq_false_iff, Option.isNone_eq_false_iff, Option.isNone_eq_false_iff,
      Option.isSome_iff_ne_none, Option.isSome_iff_ne_none]
  unfold value?
  simp only [hwhole, hplaces, List.isEmpty_nil, Bool.true_and, hpoint, Bool.false_eq_true, if_false,
    List.length_nil, Nat.sub_zero]
  match exponent with
  | none => simp [toDecimal, powerOf]
  | some (down, ds) =>
    have hshift : gather maxExponent 0 ds = (Text.numberOfDigits ds, []) :=
      gather_eq (hexponent _ rfl)
    simp only [hshift, List.isEmpty_nil, if_true, toDecimal, powerOf]
    congr 1
    split_ifs <;> omega

/-- The exponent that is written is small if the digits and the power of ten are. -/
theorem exponent_ofPlaced (hds : Text.Digits ds) (hhead : ds.head? ≠ some '0')
    (hplain : (ofPlaced ds point).Plain) :
    ∀ e, (ofPlaced ds point).exponent = some e → Text.numberOfDigits e.2 ≤ maxExponent := by
  obtain ⟨hdigits, hpower⟩ := hplain
  unfold ofPlaced at *
  split_ifs with h₁ h₂ h₃
  · simp
  · simp
  · simp
  · rw [if_neg h₁, if_neg h₂, if_neg h₃] at hdigits hpower
    rintro _ ⟨⟩
    simp only [toDecimal, digits_ofScientific hds.1, powerOf_ofScientific,
      length_fraction_ofScientific hds.1] at hdigits hpower
    -- Digits below `2^53` without a zero in front are at most sixteen.
    have hlength : ds.length ≤ 16 := by
      cases ds with
      | nil => exact absurd rfl hds.1
      | cons d ds =>
        have hfirst := Text.pow_le_numberOfDigits (hds.2 d List.mem_cons_self)
          (by simpa using hhead) ds
        have hpow : 10 ^ ds.length < 10 ^ 16 := by omega
        exact (Nat.pow_lt_pow_iff_right (by decide)).mp hpow
    rw [Text.numberOfDigits_decimal]
    unfold maxExponent
    omega

/-- Digits are written with a point or an exponent. -/
theorem isReal_ofPlaced (ds : List Char) (point : ℤ) :
    (ofPlaced ds point).fraction ≠ none ∨ (ofPlaced ds point).exponent ≠ none := by
  unfold ofPlaced ofScientific
  split_ifs <;> simp

/-- A magnitude is written with a point or an exponent. -/
theorem isReal_ofMagnitude (m : Magnitude) :
    (ofMagnitude m).fraction ≠ none ∨ (ofMagnitude m).exponent ≠ none := by
  unfold ofMagnitude
  split_ifs
  · simp
  · exact isReal_ofPlaced _ _

/-- The exponent of a magnitude is small if its digits and its power of ten are. -/
theorem exponent_ofMagnitude (hplain : (ofMagnitude m).Plain) :
    ∀ e, (ofMagnitude m).exponent = some e → Text.numberOfDigits e.2 ≤ maxExponent := by
  by_cases hrank : m.rank = 0
  · simp [ofMagnitude, hrank]
  · obtain ⟨hds, hhead⟩ := NumberStyle.digits_trimZeros (Magnitude.digits_shortest_ne hrank)
    have hplaced : ofMagnitude m = ofPlaced _ _ := if_neg hrank
    rw [hplaced] at hplain ⊢
    exact exponent_ofPlaced hds hhead hplain

/-- A number of few digits stands for its digits scaled by its power of ten, with its sign. -/
theorem value?_ofReal {x : Binary64} (hplain : (ofReal x).Plain) : (ofReal x).value? =
    realOfParts x.negative (ofReal x).toDecimal.digits (ofReal x).toDecimal.exponent := by
  have hdigits : (ofReal x).toDecimal.digits ≤ maxSignificand :=
    (Nat.le_of_lt hplain.1).trans (by decide)
  exact value?_eq (isReal_ofMagnitude x.magnitude) hdigits
    (exponent_ofMagnitude (m := x.magnitude) hplain)

end Numeral

/-! ## Scaling -/

/-- A decimal number of few digits and places is read as a quotient. -/
theorem toMagnitude_eq_ofQuotient (hd : d < 2 ^ 53) (he : e.natAbs ≤ 22) :
    Decimal.toMagnitude ⟨d, e⟩ = if 0 ≤ e then Magnitude.ofQuotient (d * 10 ^ e.natAbs) 1
      else Magnitude.ofQuotient d (10 ^ e.natAbs) := by
  have hup : 0 ≤ e → e.toNat = e.natAbs := by omega
  have hdown : ¬ 0 ≤ e → (-e).toNat = e.natAbs := by omega
  by_cases hzero : d = 0
  · have hquotient : Magnitude.ofQuotient 0 1 = .zero := by
      unfold Magnitude.ofQuotient
      rw [Nat.zero_mul, Magnitude.nearestUnits_of_lt (by decide)]
      rfl
    have hpower := Magnitude.ofQuotient_mul_left (k := 10 ^ e.natAbs) (by positivity) 0 1
    rw [Nat.mul_zero, Nat.mul_one] at hpower
    unfold Decimal.toMagnitude
    simp [hzero, hquotient, hpower]
  · have hlength : (Text.decimal d).length ≤ 16 :=
      Text.length_decimal_le (by decide) (lt_trans hd (by decide))
    have hfits : ¬ Decimal.placesLimit < (Text.decimal d).length + e := by
      unfold Decimal.placesLimit
      omega
    have hfits' : ¬ (Text.decimal d).length + e < -Decimal.placesLimit := by
      unfold Decimal.placesLimit
      omega
    unfold Decimal.toMagnitude
    simp only [beq_iff_eq, hzero, if_false, hfits, hfits']
    split_ifs with hsign
    · rw [hup hsign, Nat.pow_eq]
    · rw [hdown hsign, Nat.pow_eq]

/-- Powers of ten up to the 22nd are magnitudes. -/
theorem units_powerOfTen (hk : k ≤ 22) :
    (powerOfTen k).units = 10 ^ k * Magnitude.unitsPerOne := by
  have hfive : 5 ^ k < 2 ^ 53 :=
    lt_of_le_of_lt (Nat.pow_le_pow_right (by decide) hk) (by decide)
  have hmove : 10 ^ k * Magnitude.unitsPerOne = 5 ^ k * 2 ^ (k + 1074) := by
    rw [Magnitude.unitsPerOne_eq, Nat.pow_add, ← Nat.mul_assoc, ← Nat.mul_pow]
  have hquotient : powerOfTen k = Magnitude.nearestUnits (10 ^ k * Magnitude.unitsPerOne) 1 := by
    unfold powerOfTen
    rw [toMagnitude_eq_ofQuotient (by decide) (by simpa using hk), if_pos (by omega), Nat.one_mul]
    rfl
  rw [hquotient, hmove, Magnitude.units_nearestUnits hfive (by omega)]

/-- Digits below `2^53` are scaled by powers of ten up to the 22nd with a single rounding. -/
theorem scale_ofNat (hd : d < 2 ^ 53) (he : e.natAbs ≤ 22)
    (hfinite : (Decimal.toMagnitude ⟨d, e⟩).isInfinite = false) :
    scale (fuel + 1) (.ofNat d) e = some (Decimal.toMagnitude ⟨d, e⟩) := by
  have hnear : e.natAbs ≤ maxPower := he.trans (by decide)
  have hdigits := Magnitude.units_ofNat hd
  have hpower := units_powerOfTen he
  rw [toMagnitude_eq_ofQuotient hd he] at hfinite ⊢
  unfold scale
  rw [if_pos hnear]
  split_ifs at hfinite ⊢ with hsign
  · simp only [Magnitude.mul_eq hdigits hpower, hfinite, Bool.false_eq_true, if_false]
  · rw [Magnitude.div_eq hdigits hpower]

end Json

/-- A finite number is read back if its digits are a number below `2^53` and its power of ten is at
most the 22nd. -/
theorem Binary64.readsBack_of_plain {x : Binary64} (hfinite : x.isFinite = true)
    (hplain : (Json.Numeral.ofReal x).Plain) : x.ReadsBack := by
  have hmagnitude : x.magnitude.isInfinite = false := by simpa [isFinite] using hfinite
  have hwrites : (Json.Numeral.ofReal x).toDecimal.toMagnitude = x.magnitude :=
    Json.Numeral.toMagnitude_ofMagnitude hmagnitude
  unfold ReadsBack
  rw [Json.Numeral.value?_ofReal hplain, Json.realOfParts,
    Json.scale_ofNat hplain.1 hplain.2 (hwrites.symm ▸ hmagnitude), hwrites]
  rfl

end SkaterLedger
