import Mathlib.Data.List.Basic
import Mathlib.Data.List.DropRight
import Mathlib.Tactic.IntervalCases
import SkaterLedger.Text.Blank
import SkaterLedger.Text.Digit
import SkaterLedger.Text.Uppercase

/-!
# Trimming, words and lines

What trimming does to a text that has blanks in front of it or behind it, how the first word of a
text is cut off, and which lines are read from lines that were written one after another. A line may
lose a carriage return at its end, but that is a blank, so nothing is lost once lines are trimmed.
-/

namespace SkaterLedger.Text

variable {c : Char} {bs cs xs ys : List Char}

/-! ## Blanks -/

/-- A character that is no blank is not among blanks. -/
theorem not_mem_of_isBlank (hbs : ∀ c ∈ bs, isBlank c = true) (hc : isBlank c = false) :
    c ∉ bs := by
  intro hmem
  rw [hbs c hmem] at hc
  cases hc

/-- A text is without blanks if no test finds one. -/
theorem forall_isBlank_eq_false (h : (cs.any isBlank) = false) : ∀ c ∈ cs, isBlank c = false := by
  rw [List.any_eq_false] at h
  intro c hc
  exact Bool.eq_false_iff.mpr (h c hc)

/-- A digit is no blank. -/
theorem isBlank_of_isAsciiDigit (h : isAsciiDigit c = true) : isBlank c = false := by
  have hrange : '0'.toNat ≤ c.toNat ∧ c.toNat ≤ '9'.toNat := by
    simpa [isAsciiDigit, Char.le_def, UInt32.le_iff_toNat_le] using h
  have hlow : 48 ≤ c.toNat := hrange.1
  have hhigh : c.toNat ≤ 57 := hrange.2
  unfold isBlank
  simp only [Bool.or_eq_false_iff, Bool.and_eq_false_imp, decide_eq_true_eq,
    decide_eq_false_iff_not, beq_eq_false_iff_ne]
  omega

/-- A blank is no upper-case letter. -/
theorem isUppercase_of_isBlank (h : isBlank c = true) : isUppercase c = false := by
  have hcases : c.toNat ≤ 0x20 ∨ c.toNat = 0x85 ∨ c.toNat = 0xA0 ∨ c.toNat = 0x1680 ∨
      (0x2000 ≤ c.toNat ∧ c.toNat ≤ 0x200A) ∨ c.toNat = 0x2028 ∨ c.toNat = 0x2029 ∨
      c.toNat = 0x202F ∨ c.toNat = 0x205F ∨ c.toNat = 0x3000 := by
    unfold isBlank at h
    simp only [Bool.or_eq_true, Bool.and_eq_true, decide_eq_true_eq, beq_iff_eq] at h
    omega
  unfold isUppercase
  split
  · have hsmall : c.toNat ≤ 0x20 := by omega
    have hnot : ¬ 'A' ≤ c := by
      rw [Char.le_def, UInt32.le_iff_toNat_le]
      change ¬ 65 ≤ c.toNat
      omega
    simp [hnot]
  · rename_i hsmall
    generalize c.toNat = n at hcases hsmall
    rcases hcases with h | rfl | rfl | rfl | ⟨hlow, hhigh⟩ | rfl | rfl | rfl | rfl | rfl
    · omega
    · decide
    · decide
    · decide
    · interval_cases n <;> decide
    · decide
    · decide
    · decide
    · decide
    · decide

/-! ## Trimming -/

/-- Blanks in front are trimmed. -/
theorem trimStart_append (h : ∀ c ∈ bs, isBlank c = true) : trimStart (bs ++ cs) = trimStart cs :=
  List.dropWhile_append_of_pos h

/-- A text that starts with something else keeps its start. -/
theorem trimStart_cons (h : isBlank c = false) : trimStart (c :: cs) = c :: cs :=
  List.dropWhile_cons_of_neg (by simp [h])

/-- Nothing is left of a text exactly if it consists of blanks. -/
theorem trimEnd_eq_nil_iff : trimEnd cs = [] ↔ ∀ c ∈ cs, isBlank c = true :=
  List.rdropWhile_eq_nil_iff

/-- Blanks at the end are trimmed. -/
theorem trimEnd_append_blanks (h : ∀ c ∈ bs, isBlank c = true) :
    trimEnd (cs ++ bs) = trimEnd cs := by
  unfold trimEnd
  rw [List.reverse_append, List.dropWhile_append_of_pos fun c hc => h c (List.mem_reverse.mp hc)]

/-- A text that ends with something else keeps its end. -/
theorem trimEnd_concat (h : isBlank c = false) : trimEnd (cs ++ [c]) = cs ++ [c] :=
  List.rdropWhile_concat_neg isBlank cs c (by simp [h])

/-- What is not trimmed away at the end keeps all that is in front of it. -/
theorem trimEnd_append (h : trimEnd ys ≠ []) : trimEnd (xs ++ ys) = xs ++ trimEnd ys := by
  have hne : ys.reverse.dropWhile isBlank ≠ [] := fun hnil => h (by rw [trimEnd, hnil]; rfl)
  unfold trimEnd
  rw [List.reverse_append, List.dropWhile_append, if_neg (by simpa using hne), List.reverse_append,
    List.reverse_reverse]

/-- A text that keeps its end keeps all of it in front of another one. -/
theorem trimEnd_append_of_trimEnd (h : trimEnd xs = xs) :
    trimEnd (xs ++ ys) = xs ++ trimEnd ys := by
  by_cases hys : trimEnd ys = []
  · rw [trimEnd_append_blanks (trimEnd_eq_nil_iff.mp hys), h, hys, List.append_nil]
  · exact trimEnd_append hys

/-- Trimming the end again changes nothing. -/
theorem trimEnd_trimEnd (cs : List Char) : trimEnd (trimEnd cs) = trimEnd cs :=
  List.rdropWhile_idempotent isBlank cs

/-- A text is its trimmed end and blanks. -/
theorem exists_trimEnd_append (cs : List Char) :
    ∃ bs, cs = trimEnd cs ++ bs ∧ ∀ c ∈ bs, isBlank c = true := by
  refine ⟨(cs.reverse.takeWhile isBlank).reverse, ?_, fun c hc => ?_⟩
  · unfold trimEnd
    rw [← List.reverse_append, List.takeWhile_append_dropWhile, List.reverse_reverse]
  · exact List.mem_takeWhile_imp (List.mem_reverse.mp hc)

/-- A text is what is trimmed from it between blanks. -/
theorem exists_append_trim_append (cs : List Char) :
    ∃ bs bs', cs = bs ++ (trim cs ++ bs') ∧ (∀ c ∈ bs, isBlank c = true) ∧
      ∀ c ∈ bs', isBlank c = true := by
  obtain ⟨bs', hbs', hblank'⟩ := exists_trimEnd_append (trimStart cs)
  refine ⟨cs.takeWhile isBlank, bs', ?_, fun c hc => List.mem_takeWhile_imp hc, hblank'⟩
  unfold trim
  rw [← hbs']
  exact List.takeWhile_append_dropWhile.symm

/-- A trimmed text has no blanks at its start and none at its end. -/
theorem trimStart_and_trimEnd_of_trim (h : trim cs = cs) : trimStart cs = cs ∧ trimEnd cs = cs := by
  have hsuffix : trimStart cs <:+ cs := List.dropWhile_suffix isBlank
  have hlength : (trim cs).length ≤ (trimStart cs).length :=
    List.IsPrefix.length_le <| List.rdropWhile_prefix isBlank (trimStart cs)
  rw [h] at hlength
  have hstart : trimStart cs = cs := hsuffix.eq_of_length (le_antisymm hsuffix.length_le hlength)
  refine ⟨hstart, ?_⟩
  unfold trim at h
  rw [hstart] at h
  exact h

/-- A text without blanks is trimmed. -/
theorem trim_of_forall (h : ∀ c ∈ cs, isBlank c = false) : trim cs = cs := by
  have hstart : trimStart cs = cs := by
    cases cs with
    | nil => rfl
    | cons c cs => exact trimStart_cons (h c List.mem_cons_self)
  unfold trim
  rw [hstart]
  refine List.rdropWhile_eq_self_iff.mpr fun hne => ?_
  rw [h _ (List.getLast_mem hne)]
  exact Bool.false_ne_true

/-- Blanks at the end are trimmed, whatever stands in front of them. -/
theorem trim_append_blanks (h : ∀ c ∈ bs, isBlank c = true) : trim (cs ++ bs) = trim cs := by
  unfold trim trimStart
  rw [List.dropWhile_append]
  split
  · rename_i hempty
    rw [List.isEmpty_iff.mp hempty, List.dropWhile_eq_nil_iff.mpr h]
  · exact trimEnd_append_blanks h

/-- What is left of a text after blanks is the text without its trailing blanks. -/
theorem trim_append (h : ∀ c ∈ bs, isBlank c = true) (hc : isBlank c = false) :
    trim (bs ++ c :: cs) = trimEnd (c :: cs) := by
  unfold trim
  rw [trimStart_append h, trimStart_cons hc]

/-- A text that neither starts nor ends with a blank is trimmed. -/
theorem trim_cons_concat {d : Char} (hc : isBlank c = false) (hd : isBlank d = false) :
    trim (c :: (cs ++ [d])) = c :: (cs ++ [d]) := by
  unfold trim
  rw [trimStart_cons hc, ← List.cons_append, trimEnd_concat hd]

/-- Blanks in front are trimmed, whatever stands behind them. -/
theorem trim_blanks_append (h : ∀ c ∈ bs, isBlank c = true) : trim (bs ++ cs) = trim cs := by
  unfold trim
  rw [trimStart_append h]

/-- A trimmed text stays when blanks are put in front of it and trimmed again. -/
theorem trim_append_of_trim (h : ∀ c ∈ bs, isBlank c = true) (hcs : trim cs = cs) :
    trim (bs ++ cs) = cs := by
  rw [trim_blanks_append h, hcs]

/-- What stands in front of a trimmed text stays when the end is trimmed, unless the text is empty.
-/
theorem trimEnd_cons_of_trim (hcs : trim cs = cs) (hne : cs ≠ []) :
    trimEnd (c :: cs) = c :: cs := by
  obtain ⟨-, hend⟩ := trimStart_and_trimEnd_of_trim hcs
  rw [← List.singleton_append, trimEnd_append (by rwa [hend]), hend]

/-- A trimmed text is what is left of it behind a blank, also if the end was trimmed before. -/
theorem trim_trimEnd_cons (hc : isBlank c = true) (hcs : trim cs = cs) :
    trim (trimEnd (c :: cs)) = cs := by
  have hblank : ∀ d ∈ [c], isBlank d = true := by simpa using hc
  by_cases hne : cs = []
  · subst hne
    rw [trimEnd_eq_nil_iff.mpr hblank]
    rfl
  · rw [trimEnd_cons_of_trim hcs hne, ← List.singleton_append]
    exact trim_append_of_trim hblank hcs

/-- A text is trimmed alike if its end was trimmed before. -/
theorem trim_trimEnd (cs : List Char) : trim (trimEnd cs) = trim cs := by
  obtain ⟨bs, hcs, hbs⟩ := exists_trimEnd_append cs
  conv_rhs => rw [hcs, trim_append_blanks hbs]

/-- What is trimmed from a text is a part of it. -/
theorem trim_isInfix (cs : List Char) : trim cs <:+: cs := by
  obtain ⟨bs, bs', hcs, -, -⟩ := exists_append_trim_append cs
  exact ⟨bs, bs', by rw [List.append_assoc, ← hcs]⟩

/-- What is left of a text without its leading blanks does not start with one. -/
theorem isBlank_of_trimStart_eq_cons (h : trimStart cs = c :: xs) : isBlank c = false := by
  have hhead := List.head?_dropWhile_not isBlank cs
  unfold trimStart at h
  rwa [h] at hhead

/-- Trimming again changes nothing. -/
theorem trim_trim (cs : List Char) : trim (trim cs) = trim cs := by
  unfold trim
  cases hstart : trimStart cs with
  | nil => rfl
  | cons c rest =>
    have hc := isBlank_of_trimStart_eq_cons hstart
    have hkeep (ys : List Char) : trimEnd (c :: ys) = c :: trimEnd ys := by
      have hone : trimEnd [c] = [c] := @trimEnd_concat c [] hc
      rw [← List.singleton_append, trimEnd_append_of_trimEnd hone, List.singleton_append]
    rw [hkeep, trimStart_cons hc, hkeep, trimEnd_trimEnd]

/-! ## Words -/

/-- A blank ends a word: the words of a text are those in front of the blank and those behind it. -/
theorem words_append_blank_cons {sep : Char} (hsep : isBlank sep = true) (xs ys : List Char) :
    words (xs ++ sep :: ys) = words xs ++ words ys := by
  unfold words
  rw [List.splitOnP_append_cons xs ys hsep, List.filter_append]

/-- Blanks in front add no words. -/
theorem words_blanks_append (h : ∀ c ∈ bs, isBlank c = true) (cs : List Char) :
    words (bs ++ cs) = words cs := by
  induction bs with
  | nil => rfl
  | cons b bs ih =>
    rw [List.forall_mem_cons] at h
    calc words (b :: bs ++ cs) = words [] ++ words (bs ++ cs) :=
          words_append_blank_cons h.1 [] (bs ++ cs)
      _ = words cs := by rw [ih h.2]; rfl

/-- Blanks at the end add no words. -/
theorem words_append_blanks (h : ∀ c ∈ bs, isBlank c = true) (cs : List Char) :
    words (cs ++ bs) = words cs := by
  cases bs with
  | nil => rw [List.append_nil]
  | cons b bs =>
    rw [List.forall_mem_cons] at h
    have hnone : words bs = [] := by
      have hblanks := words_blanks_append h.2 []
      rwa [List.append_nil] at hblanks
    rw [words_append_blank_cons h.1, hnone, List.append_nil]

/-- Trimming takes no words away. -/
theorem words_trim (cs : List Char) : words (trim cs) = words cs := by
  obtain ⟨bs, bs', hcs, hbs, hbs'⟩ := exists_append_trim_append cs
  conv_rhs => rw [hcs, words_blanks_append hbs, words_append_blanks hbs']

/-- Two words with a blank between them. -/
theorem words_append_cons {sep : Char} (hxs : ∀ c ∈ xs, isBlank c = false)
    (hsep : isBlank sep = true) (hys : ∀ c ∈ ys, isBlank c = false) (hxs' : xs ≠ [])
    (hys' : ys ≠ []) :
    words (xs ++ sep :: ys) = [xs, ys] := by
  unfold words
  rw [List.splitOnP_append_cons_of_forall_mem hxs sep hsep, List.splitOnP_eq_singleton hys]
  simp [hxs', hys']

/-- A text is cut at its first blank. -/
theorem cutAtBlank_append_cons {sep : Char} (hxs : ∀ c ∈ xs, isBlank c = false)
    (hsep : isBlank sep = true) : cutAtBlank (xs ++ sep :: ys) = some (xs, ys) := by
  have hpos : ∀ c ∈ xs, (!isBlank c) = true := by simpa using hxs
  unfold cutAtBlank
  rw [List.dropWhile_append_of_pos hpos, List.dropWhile_cons_of_neg (by simp [hsep]),
    List.takeWhile_append_of_pos hpos, List.takeWhile_cons_of_neg (by simp [hsep]), List.append_nil]

/-! ## Lines -/

/-- A text of lines, each with a line feed at its end. -/
def unlines (ls : List (List Char)) : List Char := ls.flatMap (· ++ ['\n'])

/-- A carriage return at the end of a line is a blank. -/
theorem trimEnd_dropReturn (cs : List Char) : trimEnd (dropReturn cs) = trimEnd cs := by
  have hcases : dropReturn cs = cs ∨ dropReturn cs ++ ['\r'] = cs := by
    fun_induction dropReturn cs with
    | case1 => exact .inl rfl
    | case2 => exact .inr rfl
    | case3 c cs _ ih =>
      rcases ih with ih | ih
      · exact .inl (congrArg (c :: ·) ih)
      · exact .inr (congrArg (c :: ·) ih)
  rcases hcases with h | h
  · rw [h]
  · rw [← h, trimEnd_append_blanks (List.forall_mem_singleton.mpr rfl)]
    rw [h]

/-- A line feed ends a line. -/
theorem linesFrom_append_newline (acc : List Char) (hcs : '\n' ∉ cs) (rest : List Char) :
    linesFrom acc (cs ++ '\n' :: rest) = dropReturn (acc.reverse ++ cs) :: linesFrom [] rest := by
  induction cs generalizing acc with
  | nil => rw [List.nil_append, List.append_nil, linesFrom]
  | cons c cs ih =>
    rw [List.mem_cons, not_or] at hcs
    rw [List.cons_append, linesFrom.eq_3 _ _ _ fun h => hcs.1 h.symm, ih _ hcs.2,
      List.reverse_cons, List.append_assoc]
    rfl

/-- Text after the last line feed is a line. -/
theorem linesFrom_eq_singleton (acc : List Char) (hcs : '\n' ∉ cs) (hne : acc.reverse ++ cs ≠ []) :
    linesFrom acc cs = [acc.reverse ++ cs] := by
  induction cs generalizing acc with
  | nil =>
    rw [List.append_nil] at hne
    have hacc : acc.isEmpty = false := by
      rw [List.isEmpty_eq_false_iff]
      rintro rfl
      exact hne rfl
    rw [linesFrom, hacc, List.append_nil]
    rfl
  | cons c cs ih =>
    rw [List.mem_cons, not_or] at hcs
    rw [linesFrom.eq_3 _ _ _ fun h => hcs.1 h.symm, ih _ hcs.2 (by simp), List.reverse_cons,
      List.append_assoc]
    rfl

/-- Lines that were written are read, up to blanks at their ends, and then what follows them. -/
theorem map_trimEnd_lines_append {ls : List (List Char)} (h : ∀ l ∈ ls, '\n' ∉ l)
    (rest : List Char) :
    (lines (unlines ls ++ rest)).map trimEnd = ls.map trimEnd ++ (lines rest).map trimEnd := by
  induction ls with
  | nil => rfl
  | cons l ls ih =>
    rw [List.forall_mem_cons] at h
    have hcons : unlines (l :: ls) ++ rest = l ++ '\n' :: (unlines ls ++ rest) := by
      unfold unlines
      rw [List.flatMap_cons, List.append_assoc, List.append_assoc]
      rfl
    rw [hcons, lines, linesFrom_append_newline [] h.1, List.map_cons, List.map_cons,
      trimEnd_dropReturn]
    exact congrArg _ (ih h.2)

/-- All lines of a text that ends with a line feed. -/
theorem map_trimEnd_lines_unlines {ls : List (List Char)} (h : ∀ l ∈ ls, '\n' ∉ l) :
    (lines (unlines ls)).map trimEnd = ls.map trimEnd := by
  have hall := map_trimEnd_lines_append h []
  rwa [List.append_nil, show lines [] = [] from rfl, List.map_nil, List.append_nil] at hall

/-- The last line may lack its line feed, unless it is empty. -/
theorem map_trimEnd_lines_dropLast {ls : List (List Char)} (h : ∀ l ∈ ls, '\n' ∉ l)
    (hne : ∀ l ∈ ls, l ≠ []) : (lines (unlines ls).dropLast).map trimEnd = ls.map trimEnd := by
  rcases List.eq_nil_or_concat ls with rfl | ⟨init, last, rfl⟩
  · rfl
  · rw [List.concat_eq_append] at h hne ⊢
    have hlast : last ∈ init ++ [last] := List.mem_append_right _ List.mem_cons_self
    have hdrop : (unlines (init ++ [last])).dropLast = unlines init ++ last := by
      unfold unlines
      rw [List.flatMap_append, List.flatMap_singleton, ← List.append_assoc, List.dropLast_concat]
    have hline : lines last = [last] := linesFrom_eq_singleton [] (h last hlast) (hne last hlast)
    rw [hdrop, map_trimEnd_lines_append fun l hl => h l (List.mem_append_left _ hl), hline,
      List.map_append]

end SkaterLedger.Text
