import Mathlib.Data.Int.Notation
import Mathlib.Data.List.Basic
import Mathlib.Data.List.Count
import SkaterLedger.Text.Lowercase

/-!
# Texts in lower case

Only a capital sigma is lower-cased by what stands around it, and that is looked for no further than
the next character that is neither a letter with a case nor passed over. At such a character a text
can be cut and its parts lower-cased on their own (`lower_append_cons`).

What lower-casing changes becomes a character that comes behind the capital letters of ASCII and the
marks there, so that of these marks a text in lower case has as many as before (`count_lower`).
-/

namespace SkaterLedger.Text

variable {c d : Char} {cs xs ys : List Char}

/-! ## Parts of a text -/

/-- Nothing is looked at behind a character that is no letter with a case and not passed over. -/
theorem meetsCased_append_cons (hpassed : isCaseIgnorable c = false) (hcased : isCased c = false)
    (xs ys : List Char) : meetsCased (xs ++ c :: ys) = meetsCased xs := by
  have hstop : (c :: ys).dropWhile isCaseIgnorable = c :: ys :=
    List.dropWhile_cons_of_neg (by simp [hpassed])
  unfold meetsCased
  rw [List.dropWhile_append, hstop]
  cases hrest : xs.dropWhile isCaseIgnorable with
  | nil => exact hcased
  | cons d ds => rfl

/-- A text is lower-cased as if nothing stood in front of such a character. -/
theorem lowerFrom_append_cons (hpassed : isCaseIgnorable c = false) (hcased : isCased c = false)
    (after before : List Char) :
    lowerFrom (after ++ c :: before) ys = lowerFrom after ys := by
  induction ys generalizing after with
  | nil => rfl
  | cons y ys ih =>
    have hrest := ih (y :: after)
    rw [List.cons_append] at hrest
    rw [lowerFrom, lowerFrom, meetsCased_append_cons hpassed hcased, hrest]

/-- A text is lower-cased in the parts that such a character divides. -/
theorem lower_append_cons (hpassed : isCaseIgnorable c = false) (hcased : isCased c = false)
    (xs ys : List Char) : lower (xs ++ c :: ys) = lower xs ++ (lowerChar c ++ lower ys) := by
  have hsigma : (c == 'Σ') = false := by
    refine beq_eq_false_iff_ne.mpr ?_
    rintro rfl
    exact absurd hcased (by decide)
  have hfrom (before : List Char) :
      lowerFrom before (xs ++ c :: ys) = lowerFrom before xs ++ (lowerChar c ++ lower ys) := by
    induction xs generalizing before with
    | nil =>
      have hfirst : lowerFrom before (c :: ys) = lowerChar c ++ lowerFrom (c :: before) ys := by
        rw [lowerFrom, hsigma]
        rfl
      have hafter : lowerFrom (c :: before) ys = lower ys :=
        lowerFrom_append_cons hpassed hcased [] before
      rw [List.nil_append, hfirst, hafter]
      rfl
    | cons x xs ih =>
      rw [List.cons_append, lowerFrom, lowerFrom, meetsCased_append_cons hpassed hcased, ih,
        List.append_assoc]
  exact hfrom []

/-! ## Marks -/

/-- Whether a character is a mark that comes before the small letters of ASCII: it can be printed
and is no capital letter. -/
def IsEarlyMark (d : Char) : Prop :=
  0x20 ≤ d.toNat ∧ d.toNat < 0x61 ∧ ¬ (0x41 ≤ d.toNat ∧ d.toNat ≤ 0x5A)

/-- Whether a character is such a mark is told by its code point. -/
instance decidableIsEarlyMark (d : Char) : Decidable (IsEarlyMark d) :=
  inferInstanceAs (Decidable (_ ∧ _ ∧ ¬ (_ ∧ _)))

/-- What capital letters beyond ASCII are mapped to comes behind the marks. -/
theorem le_of_mem_lowercaseStrides :
    ∀ stride ∈ lowercaseStrides, (0x61 : ℤ) ≤ stride.1 + stride.2.2.2 := by
  decide +kernel

/-- The character of a code point has it, unless there is no such character. -/
theorem toNat_ofNat_eq_or (n : ℕ) : (Char.ofNat n).toNat = n ∨ (Char.ofNat n).toNat = 0 := by
  by_cases h : n.isValidChar
  · have hchar : Char.ofNat n = Char.ofNatAux n h := dif_pos h
    exact .inl (congrArg Char.toNat hchar)
  · have hchar : Char.ofNat n = Char.ofNat 0 := dif_neg h
    exact .inr (congrArg Char.toNat hchar)

/-- The character of a code point behind the marks is no mark. -/
theorem ne_ofNat_of_isEarlyMark (hd : IsEarlyMark d) {n : ℕ} (hn : 0x61 ≤ n) :
    d ≠ Char.ofNat n := by
  rintro rfl
  obtain ⟨hlow, hhigh, -⟩ := hd
  have hpoint := toNat_ofNat_eq_or n
  omega

/-- A mark is its own lower case, and no other character has a mark in its lower case. -/
theorem lowerChar_eq_or (hd : IsEarlyMark d) (c : Char) :
    lowerChar c = [c] ∨ d ∉ c :: lowerChar c := by
  unfold lowerChar
  split
  · split
    · rename_i hcapital
      have hrange : 0x41 ≤ c.toNat ∧ c.toNat ≤ 0x5A := by
        simpa [Char.le_def, UInt32.le_iff_toNat_le] using hcapital
      refine .inr (List.not_mem_cons_of_ne_of_not_mem ?_ ?_)
      · rintro rfl
        exact hd.2.2 hrange
      · rw [List.mem_singleton]
        exact ne_ofNat_of_isEarlyMark hd (by omega)
    · exact .inl rfl
  · rename_i hbeyond
    have hc : d ≠ c := by
      rintro rfl
      have hhigh := hd.2.1
      omega
    split
    · have hdotted : ∀ e ∈ ['i', '\u0307'], 0x61 ≤ e.toNat := by simp
      exact .inr (List.not_mem_cons_of_ne_of_not_mem hc fun hmem =>
        absurd (hdotted d hmem) (Nat.not_le.mpr hd.2.1))
    · split
      · rename_i stride hfind
        refine .inr (List.not_mem_cons_of_ne_of_not_mem hc ?_)
        have hstride := le_of_mem_lowercaseStrides _ (List.mem_of_find?_eq_some hfind)
        have hfirst := List.find?_some hfind
        simp only [Bool.and_eq_true, decide_eq_true_eq] at hstride hfirst
        rw [List.mem_singleton]
        exact ne_ofNat_of_isEarlyMark hd (by omega)
      · exact .inl rfl

/-- So it is for the first character of a text: a sigma is no mark either. -/
theorem exists_lowerFrom_cons (hd : IsEarlyMark d) (before : List Char) (c : Char)
    (cs : List Char) : ∃ mapped, lowerFrom before (c :: cs) = mapped ++ lowerFrom (c :: before) cs ∧
      (mapped = [c] ∨ d ∉ c :: mapped) := by
  refine ⟨_, rfl, ?_⟩
  split
  · rename_i hsigma
    obtain rfl := eq_of_beq hsigma
    have hbehind : ∀ e ∈ ['Σ', 'ς', 'σ'], 0x61 ≤ e.toNat := by simp
    refine .inr fun hmem => absurd (hbehind d ?_) (Nat.not_le.mpr hd.2.1)
    split at hmem <;> grind
  · exact lowerChar_eq_or hd c

/-- A text in lower case has as many marks as the text. -/
theorem count_lower (hd : IsEarlyMark d) (cs : List Char) : (lower cs).count d = cs.count d := by
  have hfrom (before : List Char) : (lowerFrom before cs).count d = cs.count d := by
    induction cs generalizing before with
    | nil => rfl
    | cons c cs ih =>
      obtain ⟨mapped, heq, hmapped⟩ := exists_lowerFrom_cons hd before c cs
      rw [heq, List.count_append, ih]
      rcases hmapped with rfl | hnone
      · exact List.count_append.symm
      · rw [List.mem_cons, not_or] at hnone
        rw [List.count_eq_zero.mpr hnone.2, List.count_cons_of_ne fun h => hnone.1 h.symm,
          Nat.zero_add]
  exact hfrom []

end SkaterLedger.Text
