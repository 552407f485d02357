import Mathlib.Data.List.Basic
import Mathlib.Tactic.SplitIfs
import SkaterLedger.Json.Printer
import SkaterLedger.Json.Reading
import SkaterLedger.Proofs.Binary64.Shortest

/-!
# Numbers of JSON text

What is printed for a number is the text of a numeral: a sign, digits, and maybe a fraction and an
exponent (`printInt_eq_text`, `printReal_eq_text`). A numeral is read from its text as it was, as
long as nothing follows that could belong to it (`Numeral.numeral?_text`).
-/

namespace SkaterLedger.Json

open Text (Digits)

namespace Numeral

/-- The text of a fraction. -/
def fractionText : Option (List Char) → List Char
  | none => []
  | some ds => '.' :: ds

/-- The text of an exponent. -/
def exponentText : Option (Bool × List Char) → List Char
  | none => []
  | some (down, ds) => 'e' :: (if down then '-' else '+') :: ds

/-- The text of a numeral without its sign. -/
def body (n : Numeral) : List Char :=
  n.whole ++ (fractionText n.fraction ++ exponentText n.exponent)

/-- The text of a numeral. -/
def text (n : Numeral) : List Char := if n.negative then '-' :: n.body else n.body

/-- A numeral as JSON has it: digits everywhere, and no zero in front of other digits. -/
structure Valid (n : Numeral) : Prop where
  /-- There are digits before the point. -/
  whole : Digits n.whole
  /-- None of them is a leading zero. -/
  leading : n.whole.length ≤ 1 ∨ n.whole.head? ≠ some '0'
  /-- There are digits after a point. -/
  fraction : ∀ ds, n.fraction = some ds → Digits ds
  /-- An exponent has digits. -/
  exponent : ∀ e, n.exponent = some e → Digits e.2

/-- Whether a character may go on with a numeral. -/
def continues (c : Char) : Bool := Text.isAsciiDigit c || c == '.' || c == 'e' || c == 'E'

/-- What follows a numeral: its first character does not go on with the numeral. -/
def Ended (rest : List Char) : Prop := ∀ c ∈ rest.head?, continues c = false

variable {n : Numeral} {ds rest : List Char}

/-! ## Reading -/

/-- Digits are taken off the front of a text, up to the first other character. -/
theorem digits?_append (hds : Digits ds) (hrest : ∀ c ∈ rest.head?, Text.isAsciiDigit c = false) :
    Tree.digits? (ds ++ rest) = some (ds, rest) := by
  unfold Tree.digits?
  rw [Text.takeWhile_append_of_head? hds.2 hrest, Text.dropWhile_append_of_head? hds.2 hrest]
  simp [hds.1]

/-- What does not go on with a numeral does not start with a digit. -/
theorem Ended.not_digit (h : Ended rest) : ∀ c ∈ rest.head?, Text.isAsciiDigit c = false := by
  intro c hc
  have hc := h c hc
  simp only [continues, Bool.or_eq_false_iff] at hc
  exact hc.1.1.1

/-- An exponent, or its absence, is read at the end of a numeral. -/
theorem exponent?_append {e : Option (Bool × List Char)} (he : ∀ x, e = some x → Digits x.2)
    (hrest : Ended rest) : Tree.exponent? (exponentText e ++ rest) = some (e, rest) := by
  match e with
  | none =>
    match rest with
    | [] => rfl
    | c :: rest =>
      have hc := hrest c rfl
      simp only [continues, Bool.or_eq_false_iff, beq_eq_false_iff_ne] at hc
      simp [exponentText, Tree.exponent?, hc]
  | some (down, ds) =>
    have hds := digits?_append (he _ rfl) hrest.not_digit
    cases down <;> simp [exponentText, Tree.exponent?, hds]

/-- A fraction, or its absence, is read in front of an exponent. -/
theorem fraction?_append {f : Option (List Char)} {e : Option (Bool × List Char)}
    (hf : ∀ ds, f = some ds → Digits ds) (hrest : Ended rest) :
    Tree.fraction? (fractionText f ++ (exponentText e ++ rest)) =
      some (f, exponentText e ++ rest) := by
  have hstop : ∀ c ∈ (exponentText e ++ rest).head?, Text.isAsciiDigit c = false ∧ c ≠ '.' := by
    intro c hc
    match e with
    | none =>
      have hc := hrest c hc
      simp only [continues, Bool.or_eq_false_iff, beq_eq_false_iff_ne] at hc
      exact hc.1.1
    | some (down, ds) =>
      obtain rfl : 'e' = c := Option.some.inj hc
      decide
  match f with
  | none =>
    cases htext : exponentText e ++ rest with
    | nil => rfl
    | cons c cs =>
      rw [htext] at hstop
      have hc := (hstop c rfl).2
      simp [fractionText, Tree.fraction?, hc]
  | some ds =>
    have hds := digits?_append (hf _ rfl) fun c hc => (hstop c hc).1
    simp [fractionText, Tree.fraction?, hds]

/-- A numeral is read from its text, as long as nothing follows that could belong to it. -/
theorem numeral?_text (hn : n.Valid) (hrest : Ended rest) :
    Tree.numeral? (n.text ++ rest) = some (n, rest) := by
  obtain ⟨negative, whole, fraction, exponent⟩ := n
  have hstop : ∀ c ∈ (fractionText fraction ++ (exponentText exponent ++ rest)).head?,
      Text.isAsciiDigit c = false := by
    intro c hc
    match fraction, exponent with
    | some ds, _ =>
      obtain rfl : '.' = c := Option.some.inj hc
      decide
    | none, some e =>
      obtain rfl : 'e' = c := Option.some.inj hc
      decide
    | none, none => exact hrest.not_digit c hc
  have hwhole := digits?_append hn.whole hstop
  have hfraction := fraction?_append (e := exponent) hn.fraction hrest
  have hexponent := exponent?_append hn.exponent hrest
  have hleading : 1 < whole.length → ¬ whole.head? = some '0' := by
    intro hlong
    exact hn.leading.resolve_left (Nat.not_le.mpr hlong)
  unfold text body
  cases negative with
  | true => simpa [Tree.numeral?, hwhole, hfraction, hexponent] using hleading
  | false =>
    -- Without a sign the first character is a digit.
    cases whole with
    | nil => exact absurd rfl hn.whole.1
    | cons d ds =>
      have hd : d ≠ '-' := by
        rintro rfl
        exact absurd (hn.whole.2 '-' List.mem_cons_self) (by decide)
      rw [List.cons_append] at hwhole
      simpa [Tree.numeral?, hd, hwhole, hfraction, hexponent] using hleading

/-- The text of a numeral is not empty. -/
theorem Valid.text_ne_nil (hn : n.Valid) : n.text ≠ [] := by
  unfold text body
  cases n.negative with
  | true => exact List.cons_ne_nil _ _
  | false => exact List.append_ne_nil_of_left_ne_nil hn.whole.1 _

/-! ## Writing -/

/-- The numeral of an integer. -/
def ofInt (n : Int) : Numeral := ⟨n < 0, Text.decimal n.natAbs, none, none⟩

/-- The numeral of some digits of which one stands before the point, with an exponent. -/
def ofScientific (digits : List Char) (e : Int) : Numeral where
  negative := false
  whole := digits.take 1
  fraction := match digits with
    | _ :: d :: ds => some (d :: ds)
    | _ => none
  exponent := some (e < 0, Text.decimal e.natAbs)

/-- The numeral of some digits of which `point` stand before the point. -/
def ofPlaced (digits : List Char) (point : Int) : Numeral :=
  if (digits.length : Int) ≤ point ∧ point ≤ 16 then
    ⟨false, digits ++ List.replicate (point.toNat - digits.length) '0', some ['0'], none⟩
  else if 0 < point ∧ point ≤ 16 then
    ⟨false, digits.take point.toNat, some (digits.drop point.toNat), none⟩
  else if -5 < point ∧ point ≤ 0 then
    ⟨false, ['0'], some (List.replicate (-point).toNat '0' ++ digits), none⟩
  else ofScientific digits (point - 1)

/-- The numeral of a magnitude. -/
def ofMagnitude (m : Magnitude) : Numeral :=
  if m.rank = 0 then ⟨false, ['0'], some ['0'], none⟩
  else
    let (digits, exponent) := NumberStyle.trimZeros m.shortest
    ofPlaced digits (digits.length + exponent)

/-- The numeral of a number. -/
def ofReal (x : Binary64) : Numeral := { ofMagnitude x.magnitude with negative := x.negative }

/-- The numeral of an integer is valid. -/
theorem valid_ofInt (n : Int) : (ofInt n).Valid where
  whole := Text.digits_decimal _
  leading := by
    by_cases h : n.natAbs = 0
    · simp [ofInt, h, Text.decimal]
    · exact .inr (Text.head?_decimal_ne h)
  fraction := by simp [ofInt]
  exponent := by simp [ofInt]

/-- An integer is printed as its numeral. -/
theorem printInt_eq_text (n : Int) : printInt n = (ofInt n).text := by
  by_cases h : n < 0 <;> simp [printInt, ofInt, text, body, h, fractionText, exponentText]

/-- Digits and then zeros are digits. -/
theorem digits_append_zeros (hds : Digits ds) (k : ℕ) : Digits (ds ++ List.replicate k '0') := by
  refine ⟨by simp [hds.1], fun d hd => ?_⟩
  rcases List.mem_append.mp hd with hd | hd
  · exact hds.2 d hd
  · rw [List.eq_of_mem_replicate hd]
    decide

/-- Digits without a leading zero, wherever the point stands, are a valid numeral. -/
theorem valid_ofPlaced {point : Int} (hds : Digits ds) (hhead : ds.head? ≠ some '0') :
    (ofPlaced ds point).Valid := by
  have hzero : Digits ['0'] := Text.digits_decimal 0
  have hdrop {k : ℕ} (hk : k < ds.length) : Digits (ds.drop k) :=
    ⟨by simpa using hk, fun c hc => hds.2 c (List.mem_of_mem_drop hc)⟩
  unfold ofPlaced
  split_ifs with h₁ h₂ h₃
  · refine ⟨digits_append_zeros hds _, .inr ?_, by simp [hzero], by simp⟩
    rwa [List.head?_append_of_ne_nil _ hds.1]
  · have hwhole : Digits (ds.take point.toNat) :=
      ⟨by simp [hds.1]; omega, fun c hc => hds.2 c (List.mem_of_mem_take hc)⟩
    refine ⟨hwhole, .inr ?_, fun fs hfs => ?_, by simp⟩
    · rwa [List.head?_take, if_neg (by omega)]
    · obtain rfl := Option.some.inj hfs
      exact hdrop (by omega)
  · refine ⟨hzero, .inl (by simp), fun fs hfs => ?_, by simp⟩
    obtain rfl := Option.some.inj hfs
    refine ⟨by simp [hds.1], fun d hd => ?_⟩
    rcases List.mem_append.mp hd with hd | hd
    · rw [List.eq_of_mem_replicate hd]
      decide
    · exact hds.2 d hd
  · have hexponent : ∀ e, (ofScientific ds (point - 1)).exponent = some e → Digits e.2 := by
      rintro _ ⟨⟩
      exact Text.digits_decimal _
    have hwhole : Digits (ds.take 1) :=
      ⟨by simp [hds.1], fun c hc => hds.2 c (List.mem_of_mem_take hc)⟩
    refine ⟨hwhole, .inl (List.length_take_le 1 ds), fun fs hfs => ?_, hexponent⟩
    match ds, hfs with
    | _ :: d :: ds, rfl => exact hdrop (k := 1) (by simp)

/-- Digits are laid out as their numeral. -/
theorem place_eq_body {point : Int} (hds : ds ≠ []) :
    numberStyle.place ds point = (ofPlaced ds point).body := by
  unfold NumberStyle.place ofPlaced
  simp only [Bool.and_eq_true, decide_eq_true_eq]
  split_ifs with h₁ h₂ h₃ h₄
  · simp [body, fractionText, exponentText]
  · simp [body, fractionText, exponentText]
  · simp [body, fractionText, exponentText]
  · match ds with
    | [d] => simp [body, ofScientific, fractionText, exponentText, h₄]
    | d :: d' :: ds => simp [body, ofScientific, fractionText, exponentText, h₄]
  · match ds with
    | [d] => simp [body, ofScientific, fractionText, exponentText, numberStyle, h₄]
    | d :: d' :: ds => simp [body, ofScientific, fractionText, exponentText, numberStyle, h₄]

/-- The numeral of a magnitude is valid. -/
theorem valid_ofMagnitude (m : Magnitude) : (ofMagnitude m).Valid := by
  have hzero : Digits ['0'] := Text.digits_decimal 0
  unfold ofMagnitude
  split_ifs with h
  · exact ⟨hzero, .inl (by simp), by simp [hzero], by simp⟩
  · obtain ⟨hds, hhead⟩ := NumberStyle.digits_trimZeros (Magnitude.digits_shortest_ne h)
    exact valid_ofPlaced hds hhead

/-- The numeral of a number is valid. -/
theorem valid_ofReal (x : Binary64) : (ofReal x).Valid := by
  obtain ⟨hwhole, hleading, hfraction, hexponent⟩ := valid_ofMagnitude x.magnitude
  exact ⟨hwhole, hleading, hfraction, hexponent⟩

/-- A number is printed as its numeral. -/
theorem printReal_eq_text {x : Binary64} (h : x.isFinite = true) :
    printReal x = (ofReal x).text := by
  have hfinite : x.magnitude.isInfinite = false := by simpa [Binary64.isFinite] using h
  have hbody : (if x.isZero then ['0', '.', '0'] else
      let (digits, exponent) := NumberStyle.trimZeros x.magnitude.shortest
      numberStyle.place digits (digits.length + exponent)) = (ofMagnitude x.magnitude).body := by
    unfold ofMagnitude Binary64.isZero
    simp only [beq_iff_eq]
    split_ifs with hrank
    · rfl
    · exact place_eq_body (NumberStyle.digits_trimZeros (Magnitude.digits_shortest_ne hrank)).1.1
  unfold printReal NumberStyle.write
  rw [if_pos h]
  simp only [hfinite, Bool.false_eq_true, if_false, hbody]
  rfl

end Numeral

end SkaterLedger.Json
