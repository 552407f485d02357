import Mathlib.Data.Int.Notation
import Mathlib.Tactic.SplitIfs
import SkaterLedger.Proofs.Binary64.Numerals
import SkaterLedger.Proofs.Binary64.Shortest

/-!
# The notation of a number reads back

A finite number is read back from its notation, whether its digits are laid out positionally or with
an exponent, as long as exponents that are not negative have no sign or a plus in front
(`NumberStyle.ofText?_write`). The point and the exponent only move the power of ten of the digits,
and the digits with their power of ten are the shortest decimal number.
-/

namespace SkaterLedger

open Text (Digits)

namespace Decimal

variable {whole fraction ds tail : List Char} {e : ℤ}

/-- An exponent with a minus. -/
theorem exponentOf?_minus (n : ℕ) :
    exponentOf? ('e' :: '-' :: Text.decimal n) = some (-(n : ℤ)) := by
  have hall : (Text.decimal n).all Text.isAsciiDigit = true :=
    List.all_eq_true.mpr (Text.digits_decimal n).2
  simp [exponentOf?, hall, (Text.digits_decimal n).1, Text.numberOfDigits_decimal]

/-- An exponent without a sign or with a plus. -/
theorem exponentOf?_append {sign : List Char} (hsign : sign = [] ∨ sign = ['+']) (n : ℕ) :
    exponentOf? ('e' :: (sign ++ Text.decimal n)) = some (n : ℤ) := by
  obtain ⟨hne, hdigits⟩ := Text.digits_decimal n
  have hall : (Text.decimal n).all Text.isAsciiDigit = true := List.all_eq_true.mpr hdigits
  have hvalue := Text.numberOfDigits_decimal n
  rcases hsign with rfl | rfl
  · -- Digits start neither with a minus nor with a plus.
    obtain ⟨d, ds, hcons⟩ := List.exists_cons_of_ne_nil hne
    have hd : Text.isAsciiDigit d = true := hdigits d (hcons ▸ List.mem_cons_self)
    have hminus : d ≠ '-' := by
      rintro rfl
      cases hd
    have hplus : d ≠ '+' := by
      rintro rfl
      cases hd
    rw [hcons] at hall hvalue ⊢
    simp [exponentOf?, hminus, hplus, hall, hvalue]
  · simp [exponentOf?, hall, hne, hvalue]

/-- An exponent of either sign. -/
theorem exponentOf?_int {sign : List Char} (hsign : sign = [] ∨ sign = ['+']) (e : ℤ) :
    exponentOf? ('e' :: if e < 0 then '-' :: Text.decimal e.natAbs
      else sign ++ Text.decimal e.natAbs) = some e := by
  split
  · rw [exponentOf?_minus]
    exact congrArg some (by omega)
  · rw [exponentOf?_append hsign]
    exact congrArg some (by omega)

end Decimal

namespace NumberStyle

variable {style : NumberStyle} {ds : List Char} {x : Binary64}

/-- Digits are laid out with a digit in front. -/
theorem head?_place (hds : Digits ds) (point : ℤ) :
    ∃ d rest, style.place ds point = d :: rest ∧ Text.isAsciiDigit d = true := by
  obtain ⟨d, more, rfl⟩ := List.exists_cons_of_ne_nil hds.1
  have hd : Text.isAsciiDigit d = true := hds.2 d List.mem_cons_self
  unfold place
  split_ifs with h₁ h₂ h₃
  · exact ⟨d, _, rfl, hd⟩
  · simp only [Bool.and_eq_true, decide_eq_true_eq] at h₂
    obtain ⟨k, hk⟩ : ∃ k, point.toNat = k + 1 := ⟨point.toNat - 1, by omega⟩
    rw [hk]
    exact ⟨d, _, rfl, hd⟩
  · exact ⟨'0', _, rfl, rfl⟩
  · cases more with
    | nil => exact ⟨d, _, rfl, hd⟩
    | cons d' more => exact ⟨d, _, rfl, hd⟩

/-- Digits are read back with the power of ten that the point gives them, wherever it stands. -/
theorem ofText?_place (hsign : style.exponentSign = [] ∨ style.exponentSign = ['+'])
    (hds : Digits ds) (point : ℤ) : ∃ d, Decimal.ofText? (style.place ds point) = some d ∧
      d.toMagnitude = Decimal.toMagnitude ⟨Text.numberOfDigits ds, point - ds.length⟩ := by
  have hzero : Digits ['0'] := Text.digits_decimal 0
  have hzeros (k : ℕ) : ∀ c ∈ List.replicate k '0', Text.isAsciiDigit c = true := by
    intro c hc
    rw [List.eq_of_mem_replicate hc]
    rfl
  unfold place
  split_ifs with h₁ h₂ h₃
  · -- Zeros, the point and one more zero behind the digits.
    simp only [Bool.and_eq_true, decide_eq_true_eq] at h₁
    generalize hk : point.toNat - ds.length = k
    have hwhole : Digits (ds ++ List.replicate k '0') :=
      ⟨by simp [hds.1], List.forall_mem_append.mpr ⟨hds.2, hzeros k⟩⟩
    have hdigits : Text.numberOfDigits (ds ++ List.replicate k '0' ++ ['0']) =
        Text.numberOfDigits ds * 10 ^ (k + 1) := by
      rw [List.append_assoc, ← List.replicate_succ', Text.numberOfDigits_append_replicate]
    refine ⟨_, Decimal.ofText?_append_point hwhole (hzeros 1) nofun rfl, ?_⟩
    rw [show List.replicate 1 '0' = ['0'] from rfl, hdigits, Decimal.toMagnitude_mul_pow]
    refine congrArg (fun e => Decimal.toMagnitude ⟨_, e⟩) ?_
    simp only [List.length_singleton]
    omega
  · -- The point among the digits.
    simp only [Bool.and_eq_true, decide_eq_true_eq] at h₁ h₂
    have hwhole : Digits (ds.take point.toNat) :=
      ⟨by simp [hds.1]; omega, fun c hc => hds.2 c (List.mem_of_mem_take hc)⟩
    have hfraction : ∀ c ∈ ds.drop point.toNat, Text.isAsciiDigit c = true := fun c hc =>
      hds.2 c (List.mem_of_mem_drop hc)
    have hread : Decimal.ofText? (ds.take point.toNat ++ '.' :: (ds.drop point.toNat ++ [])) = _ :=
      Decimal.ofText?_append_point hwhole hfraction nofun rfl
    rw [List.append_nil, List.take_append_drop, List.length_drop] at hread
    refine ⟨_, hread, congrArg (fun e => Decimal.toMagnitude ⟨_, e⟩) ?_⟩
    omega
  · -- The point and zeros in front of the digits.
    simp only [Bool.and_eq_true, decide_eq_true_eq] at h₃
    generalize hk : (-point).toNat = k
    have hfraction : ∀ c ∈ List.replicate k '0' ++ ds, Text.isAsciiDigit c = true :=
      List.forall_mem_append.mpr ⟨hzeros k, hds.2⟩
    have hdigits : Text.numberOfDigits (['0'] ++ (List.replicate k '0' ++ ds)) =
        Text.numberOfDigits ds := by
      rw [← List.append_assoc]
      exact Text.numberOfDigits_replicate_append (k + 1) ds
    have hread : Decimal.ofText? (['0'] ++ '.' :: (List.replicate k '0' ++ ds ++ [])) = _ :=
      Decimal.ofText?_append_point hzero hfraction nofun rfl
    rw [List.append_nil, hdigits, List.length_append, List.length_replicate] at hread
    refine ⟨_, hread, congrArg (fun e => Decimal.toMagnitude ⟨_, e⟩) ?_⟩
    omega
  · -- One digit before the point, and an exponent.
    have hexponent := Decimal.exponentOf?_int hsign (point - 1)
    match ds with
    | [] => exact absurd rfl hds.1
    | [d] =>
      refine ⟨_, Decimal.ofText?_append hds ?_ hexponent, ?_⟩
      · rintro c ⟨⟩
        exact ⟨rfl, by decide⟩
      · rfl
    | d :: d' :: ds =>
      have hwhole : Digits [d] :=
        ⟨List.cons_ne_nil _ _, List.forall_mem_singleton.mpr (hds.2 d List.mem_cons_self)⟩
      have hfraction : ∀ c ∈ d' :: ds, Text.isAsciiDigit c = true := fun c hc =>
        hds.2 c (List.mem_cons_of_mem d hc)
      refine ⟨_, Decimal.ofText?_append_point hwhole hfraction ?_ hexponent, ?_⟩
      · rintro c ⟨⟩
        rfl
      · refine congrArg (fun e => Decimal.toMagnitude ⟨_, e⟩) ?_
        simp only [List.length_cons]
        omega

/-- A finite number is read back from its notation. -/
theorem ofText?_write (hsign : style.exponentSign = [] ∨ style.exponentSign = ['+'])
    (hfinite : x.isFinite = true) : Binary64.ofText? (style.write x) = some x := by
  obtain ⟨negative, m⟩ := x
  have hm : m.isInfinite = false := by simpa [Binary64.isFinite] using hfinite
  -- The sign in front is read as the sign, whatever digits follow it.
  have hsigned {body : List Char} {d : Decimal} (hbody : Decimal.ofText? body = some d)
      (hd : d.toMagnitude = m) (hhead : ∃ c cs, body = c :: cs ∧ Text.isAsciiDigit c = true) :
      Binary64.ofText? (if negative then '-' :: body else body) = some ⟨negative, m⟩ := by
    cases negative with
    | true => simp [Binary64.ofText?, hbody, hd]
    | false =>
      obtain ⟨c, cs, rfl, hc⟩ := hhead
      simp [Binary64.ofText?_cons (Text.isDigit_of_isAsciiDigit hc), hbody, hd]
  unfold write Binary64.isZero
  by_cases hrank : m.rank = 0
  · simp only [hm, hrank, Bool.false_eq_true, if_false, beq_self_eq_true, if_true]
    have hzero : Decimal.toMagnitude ⟨0, -1⟩ = m := by
      rw [← Magnitude.ofRank_rank m, hrank]
      rfl
    have hread : Decimal.ofText? ['0', '.', '0'] = some ⟨0, -1⟩ := rfl
    exact hsigned hread hzero ⟨'0', _, rfl, rfl⟩
  · simp only [hm, hrank, Bool.false_eq_true, if_false, beq_iff_eq]
    have hdigits := (digits_trimZeros (Magnitude.digits_shortest_ne hrank)).1
    obtain ⟨d, hread, hd⟩ := ofText?_place hsign hdigits
      ((trimZeros m.shortest).1.length + (trimZeros m.shortest).2)
    have hpoint : ((trimZeros m.shortest).1.length : ℤ) + (trimZeros m.shortest).2 -
        (trimZeros m.shortest).1.length = (trimZeros m.shortest).2 := by
      omega
    rw [hpoint, toMagnitude_trimZeros, Magnitude.toMagnitude_shortest hm] at hd
    exact hsigned hread hd (head?_place hdigits _)

end NumberStyle

end SkaterLedger
