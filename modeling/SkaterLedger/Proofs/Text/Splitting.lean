import Mathlib.Data.List.Basic
import SkaterLedger.Proofs.Text.Search

/-!
# Splitting a text

The pieces of a text between the occurrences of a pattern are parts of the text in which the pattern
does not occur (`infix_of_mem_splitAll`). An occurrence is split at if none begins in the text
before it. A pattern that ends with its first character can overlap with itself in this character
only, so it suffices that it does not occur in the text with that character behind it
(`splitAll_append`). What replacing a character does is told at the end.
-/

namespace SkaterLedger.Text

variable {c : Char} {pattern piece mid cs xs ys : List Char}

/-! ## Where a text is split -/

/-- Characters that belong to an occurrence are passed over. -/
theorem splitFrom_eq_drop (skip : ℕ) (cs : List Char) :
    splitFrom pattern skip cs = splitFrom pattern 0 (cs.drop skip) := by
  induction cs generalizing skip with
  | nil => cases skip <;> simp [splitFrom]
  | cons d cs ih =>
    cases skip with
    | zero => rfl
    | succ skip => rw [splitFrom, ih, List.drop_succ_cons]

/-- A character at which no occurrence begins belongs to the first piece. -/
theorem splitAll_cons (h : ¬ pattern <+: c :: cs) :
    splitAll pattern (c :: cs) = consFirst c (splitAll pattern cs) := by
  have hhead : pattern.isPrefixOf (c :: cs) = false := by
    rwa [Bool.eq_false_iff, ne_eq, List.isPrefixOf_iff_prefix]
  unfold splitAll
  rw [splitFrom, hhead, if_neg Bool.false_ne_true]

/-- At an occurrence the first piece ends. -/
theorem splitAll_append_left (hne : pattern ≠ []) (ys : List Char) :
    splitAll pattern (pattern ++ ys) = [] :: splitAll pattern ys := by
  obtain ⟨c, more, rfl⟩ := List.exists_cons_of_ne_nil hne
  have hprefix := isPrefixOf_append (c :: more) ys
  unfold splitAll
  rw [List.cons_append] at hprefix ⊢
  rw [splitFrom, hprefix, if_pos rfl, splitFrom_eq_drop]
  simp

/-- A text in which the pattern does not occur is a single piece. -/
theorem splitAll_of_not_occurs (h : ¬ pattern <:+: cs) : splitAll pattern cs = [cs] := by
  induction cs with
  | nil => rfl
  | cons c cs ih =>
    rw [List.infix_cons_iff, not_or] at h
    rw [splitAll_cons h.1, ih h.2, consFirst]

/-- A pattern that ends with its first character is split at behind a text, if it occurs neither in
the text nor at its end and with the last character in common. -/
theorem splitAll_append (hc : c ∉ mid) (hxs : ¬ c :: (mid ++ [c]) <:+: xs ++ [c]) (ys : List Char) :
    splitAll (c :: (mid ++ [c])) (xs ++ (c :: (mid ++ [c]) ++ ys)) =
      xs :: splitAll (c :: (mid ++ [c])) ys := by
  generalize hpattern : c :: (mid ++ [c]) = pattern at *
  have hne : pattern ≠ [] := by simp [← hpattern]
  induction xs with
  | nil => exact splitAll_append_left hne ys
  | cons x xs ih =>
    have hhead : ¬ pattern <+: x :: xs ++ (pattern ++ ys) := by
      intro hprefix
      rcases List.prefix_or_prefix_of_prefix hprefix (List.prefix_append (x :: xs) _) with h | h
      · exact hxs (h.isInfix.trans (List.prefix_append _ _).isInfix)
      · -- The text begins the pattern, so what is left of the pattern begins at the occurrence.
        obtain ⟨rest, hrest⟩ := h
        rw [← hrest, List.prefix_append_right_inj, hrest, ← hpattern] at hprefix
        cases rest with
        | nil =>
          rw [← hrest, List.append_nil] at hxs
          exact hxs (List.prefix_append _ _).isInfix
        | cons d rest =>
          obtain rfl : d = c := (List.cons_prefix_cons.mp hprefix).1
          have hsame : mid ++ [d] = xs ++ d :: rest := by
            rw [← hpattern, List.cons_append] at hrest
            exact (List.cons.inj hrest).2.symm
          obtain ⟨-, -, rfl⟩ := (List.append_cons_inj_of_notMem hc List.not_mem_nil).mp hsame
          rw [hrest] at hxs
          exact hxs List.infix_rfl
    have htail : ¬ pattern <:+: xs ++ [c] := fun h => hxs (List.infix_cons h)
    rw [List.cons_append] at hhead ⊢
    rw [splitAll_cons hhead, ih htail, consFirst]

/-! ## The pieces -/

/-- The first piece is the start of the text. -/
theorem exists_splitAll (hne : pattern ≠ []) (cs : List Char) :
    ∃ first rest, splitAll pattern cs = first :: rest ∧ first <+: cs := by
  induction cs with
  | nil => exact ⟨[], [], rfl, List.nil_prefix⟩
  | cons c cs ih =>
    by_cases hprefix : pattern <+: c :: cs
    · obtain ⟨ys, hys⟩ := hprefix
      exact ⟨[], splitAll pattern ys, hys ▸ splitAll_append_left hne ys, List.nil_prefix⟩
    · obtain ⟨first, rest, hsplit, hfirst⟩ := ih
      exact ⟨c :: first, rest, by rw [splitAll_cons hprefix, hsplit, consFirst],
        List.cons_prefix_cons.mpr ⟨rfl, hfirst⟩⟩

/-- The pieces of what is left of a text are parts of it in which the pattern does not occur. -/
theorem infix_of_mem_splitFrom (hne : pattern ≠ []) {skip : ℕ}
    (h : piece ∈ splitFrom pattern skip cs) : piece <:+: cs ∧ ¬ pattern <:+: piece := by
  induction cs generalizing skip piece with
  | nil =>
    obtain rfl : piece = [] := by cases skip <;> exact List.mem_singleton.mp h
    exact ⟨List.infix_rfl, by rwa [List.infix_nil]⟩
  | cons c cs ih =>
    have hlater (skip : ℕ) (h : piece ∈ splitFrom pattern skip cs) :
        piece <:+: c :: cs ∧ ¬ pattern <:+: piece :=
      ⟨List.infix_cons (ih h).1, (ih h).2⟩
    cases skip with
    | succ skip => exact hlater skip h
    | zero =>
      by_cases hprefix : pattern <+: c :: cs
      · rw [splitFrom, List.isPrefixOf_iff_prefix.mpr hprefix, if_pos rfl] at h
        rcases List.mem_cons.mp h with rfl | h
        · exact ⟨List.nil_infix, by rwa [List.infix_nil]⟩
        · exact hlater _ h
      · -- An occurrence in the first piece begins at its head, so in the text, or lies in its tail.
        obtain ⟨first, rest, hsplit, hfirst⟩ := exists_splitAll hne cs
        have hcons := splitAll_cons hprefix
        rw [hsplit, consFirst] at hcons
        unfold splitAll at hsplit hcons
        rw [hcons] at h
        rcases List.mem_cons.mp h with rfl | h
        · have hhead : c :: first <+: c :: cs := List.cons_prefix_cons.mpr ⟨rfl, hfirst⟩
          refine ⟨hhead.isInfix, fun hpart => ?_⟩
          rcases List.infix_cons_iff.mp hpart with hstart | htail
          · exact hprefix (hstart.trans hhead)
          · have hmem : first ∈ splitFrom pattern 0 cs := hsplit ▸ List.mem_cons_self
            exact (ih hmem).2 htail
        · exact hlater 0 (hsplit ▸ List.mem_cons_of_mem _ h)

/-- The pieces of a text are parts of it in which the pattern does not occur. -/
theorem infix_of_mem_splitAll (hne : pattern ≠ []) (h : piece ∈ splitAll pattern cs) :
    piece <:+: cs ∧ ¬ pattern <:+: piece :=
  infix_of_mem_splitFrom hne h

/-! ## Characters replaced by texts -/

/-- Texts are replaced in one after another. -/
theorem substitute_append (c : Char) (pattern xs ys : List Char) :
    substitute c pattern (xs ++ ys) = substitute c pattern xs ++ substitute c pattern ys :=
  List.flatMap_append

/-- Nothing is replaced in a text without the character. -/
theorem substitute_of_not_mem (h : c ∉ cs) : substitute c pattern cs = cs := by
  unfold substitute
  induction cs with
  | nil => rfl
  | cons d cs ih =>
    rw [List.mem_cons, not_or] at h
    have hd : (d == c) = false := beq_false_of_ne (Ne.symm h.1)
    rw [List.flatMap_cons, hd, ih h.2]
    rfl

/-- A character is gone once it is replaced by a text without it. -/
theorem not_mem_substitute (h : c ∉ pattern) : c ∉ substitute c pattern cs := by
  unfold substitute
  rw [List.mem_flatMap]
  rintro ⟨d, -, hc⟩
  split_ifs at hc with heq
  · exact h hc
  · exact heq (beq_iff_eq.mpr (List.mem_singleton.mp hc).symm)

end SkaterLedger.Text
