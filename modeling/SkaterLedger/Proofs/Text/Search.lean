import Mathlib.Data.List.Infix
import SkaterLedger.Text.Search

/-!
# Where a pattern occurs

A pattern occurs in a text if it is a contiguous part of it. Its first occurrence is known where its
first character does not occur before, and no occurrence begins in a part of the text that lacks
this character.
-/

namespace SkaterLedger.Text

variable {c : Char} {pattern cs xs ys : List Char}

/-- A text that starts with another character does not start with a pattern. -/
theorem isPrefixOf_cons_of_ne {d : Char} (h : c ≠ d) :
    (c :: pattern).isPrefixOf (d :: cs) = false := by
  rw [List.isPrefixOf_cons_cons, beq_eq_false_iff_ne.mpr h, Bool.false_and]

/-- A text that is put behind a pattern starts with it. -/
theorem isPrefixOf_append (pattern cs : List Char) : pattern.isPrefixOf (pattern ++ cs) = true := by
  rw [List.isPrefixOf_iff_prefix]
  exact List.prefix_append pattern cs

/-- A pattern occurs in a text if it is a part of it. -/
theorem occursIn_iff : occursIn pattern cs = true ↔ pattern <:+: cs := by
  unfold occursIn
  induction cs with
  | nil =>
    rw [List.infix_nil]
    cases pattern <;> simp [cutAt]
  | cons d cs ih =>
    rw [List.infix_cons_iff]
    by_cases hhead : pattern <+: d :: cs
    · simp [cutAt, List.isPrefixOf_iff_prefix.mpr hhead, hhead]
    · have hnot : pattern.isPrefixOf (d :: cs) = false := by
        rwa [Bool.eq_false_iff, ne_eq, List.isPrefixOf_iff_prefix]
      rw [cutAt, hnot, if_neg Bool.false_ne_true, Option.isSome_map, ih]
      simp [hhead]

/-- A pattern occurs where it is written. -/
theorem occursIn_append_append (xs pattern ys : List Char) :
    occursIn pattern (xs ++ (pattern ++ ys)) = true :=
  occursIn_iff.mpr ⟨xs, ys, List.append_assoc xs pattern ys⟩

/-- A pattern does not occur in a text that lacks one of its characters. -/
theorem occursIn_of_not_mem (hpattern : c ∈ pattern) (hcs : c ∉ cs) :
    occursIn pattern cs = false := by
  rw [Bool.eq_false_iff, ne_eq, occursIn_iff]
  exact fun h => hcs (h.subset hpattern)

/-- A text in front that lacks the first character of the pattern is passed over when another one is
cut. -/
theorem cutAt_append_of_not_mem (hxs : c ∉ xs) : cutAt (c :: pattern) (xs ++ ys) =
    (cutAt (c :: pattern) ys).map fun parts => (xs ++ parts.1, parts.2) := by
  induction xs with
  | nil => exact (congrFun Option.map_id _).symm
  | cons x xs ih =>
    rw [List.mem_cons, not_or] at hxs
    rw [List.cons_append, cutAt, isPrefixOf_cons_of_ne hxs.1, if_neg Bool.false_ne_true, ih hxs.2,
      Option.map_map]
    rfl

/-- No occurrence begins where the first character of the pattern is missing. -/
theorem occursIn_append (hxs : c ∉ xs) :
    occursIn (c :: pattern) (xs ++ ys) = occursIn (c :: pattern) ys := by
  unfold occursIn
  rw [cutAt_append_of_not_mem hxs, Option.isSome_map]

/-- A text is cut at an occurrence if the pattern's first character is missing before it. -/
theorem cutAt_append (hxs : c ∉ xs) :
    cutAt (c :: pattern) (xs ++ (c :: pattern ++ ys)) = some (xs, ys) := by
  have hhead : cutAt (c :: pattern) (c :: pattern ++ ys) = some ([], ys) := by
    have hprefix := isPrefixOf_append (c :: pattern) ys
    rw [List.cons_append] at hprefix
    rw [List.cons_append, cutAt, hprefix, if_pos rfl]
    simp
  rw [cutAt_append_of_not_mem hxs, hhead, Option.map_some, List.append_nil]

/-- What stands after the first occurrence is the same behind a text that lacks the first character
of the pattern. -/
theorem after_append_of_not_mem (hxs : c ∉ xs) :
    after (c :: pattern) (xs ++ ys) = after (c :: pattern) ys := by
  unfold after
  rw [cutAt_append_of_not_mem hxs]
  cases cutAt (c :: pattern) ys <;> rfl

/-- What stands after such an occurrence. -/
theorem after_append (hxs : c ∉ xs) : after (c :: pattern) (xs ++ (c :: pattern ++ ys)) = ys := by
  unfold after
  rw [cutAt_append hxs]

/-- Characters that belong to an occurrence are dropped. -/
theorem removeFrom_eq_drop (skip : ℕ) (cs : List Char) :
    removeFrom pattern skip cs = removeFrom pattern 0 (cs.drop skip) := by
  induction cs generalizing skip with
  | nil => cases skip <;> simp [removeFrom]
  | cons d cs ih =>
    cases skip with
    | zero => rfl
    | succ skip => rw [removeFrom, ih, List.drop_succ_cons]

/-- Nothing is removed from a text in which the pattern does not occur. -/
theorem removeAll_of_not_occursIn (h : occursIn pattern cs = false) :
    removeAll pattern cs = cs := by
  rw [Bool.eq_false_iff, ne_eq, occursIn_iff] at h
  unfold removeAll
  induction cs with
  | nil => rfl
  | cons d cs ih =>
    rw [List.infix_cons_iff, not_or] at h
    have hhead : pattern.isPrefixOf (d :: cs) = false := by
      rw [Bool.eq_false_iff, ne_eq, List.isPrefixOf_iff_prefix]
      exact h.1
    rw [removeFrom, hhead, if_neg Bool.false_ne_true, ih h.2]

/-- Nothing is removed from a text in front that lacks the first character of the pattern. -/
theorem removeAll_append_of_not_mem (hxs : c ∉ xs) :
    removeAll (c :: pattern) (xs ++ ys) = xs ++ removeAll (c :: pattern) ys := by
  unfold removeAll
  induction xs with
  | nil => rfl
  | cons x xs ih =>
    rw [List.mem_cons, not_or] at hxs
    rw [List.cons_append, removeFrom, isPrefixOf_cons_of_ne hxs.1, if_neg Bool.false_ne_true,
      ih hxs.2]
    rfl

/-- An occurrence is removed, and then those after it. -/
theorem removeAll_append (hxs : c ∉ xs) :
    removeAll (c :: pattern) (xs ++ (c :: pattern ++ ys)) = xs ++ removeAll (c :: pattern) ys := by
  have hhead : removeAll (c :: pattern) (c :: pattern ++ ys) = removeAll (c :: pattern) ys := by
    have hprefix := isPrefixOf_append (c :: pattern) ys
    rw [List.cons_append] at hprefix
    unfold removeAll
    rw [List.cons_append, removeFrom, hprefix, if_pos rfl, removeFrom_eq_drop]
    simp
  rw [removeAll_append_of_not_mem hxs, hhead]

/-- An occurrence is removed behind a text without any, if the pattern's first character is not
repeated in it: no occurrence begins in that text and ends behind it. -/
theorem removeAll_append_of_not_occursIn (hc : c ∉ pattern)
    (hxs : occursIn (c :: pattern) xs = false) :
    removeAll (c :: pattern) (xs ++ (c :: pattern ++ ys)) = xs ++ removeAll (c :: pattern) ys := by
  rw [Bool.eq_false_iff, ne_eq, occursIn_iff] at hxs
  induction xs with
  | nil => exact removeAll_append List.not_mem_nil
  | cons x xs ih =>
    have hhead : (c :: pattern).isPrefixOf (x :: xs ++ (c :: pattern ++ ys)) = false := by
      rw [Bool.eq_false_iff, ne_eq, List.isPrefixOf_iff_prefix]
      intro hprefix
      have hfront : x :: xs <+: x :: xs ++ (c :: pattern ++ ys) := List.prefix_append (x :: xs) _
      rcases List.prefix_or_prefix_of_prefix hprefix hfront with h | h
      · exact hxs h.isInfix
      · obtain ⟨rest, hrest⟩ := h
        rw [← hrest, List.prefix_append_right_inj] at hprefix
        cases rest with
        | nil =>
          rw [← hrest, List.append_nil] at hxs
          exact hxs List.infix_rfl
        | cons d rest =>
          obtain ⟨rfl, rfl⟩ := List.cons.inj hrest
          obtain ⟨rfl : d = x, -⟩ := List.cons_prefix_cons.mp hprefix
          exact hc (List.mem_append_right xs List.mem_cons_self)
    unfold removeAll at ih ⊢
    rw [List.cons_append] at hhead ⊢
    rw [removeFrom, hhead, if_neg Bool.false_ne_true, ih fun h => hxs (List.infix_cons h)]
    rfl

/-- A text starts with a pattern also without characters at the end that the pattern lacks. -/
theorem isPrefixOf_append_of_not_mem (h : ∀ c ∈ pattern, c ∉ ys) (xs : List Char) :
    pattern.isPrefixOf (xs ++ ys) = pattern.isPrefixOf xs := by
  induction pattern generalizing xs with
  | nil => simp
  | cons c pattern ih =>
    rw [List.forall_mem_cons] at h
    cases xs with
    | nil =>
      cases ys with
      | nil => rfl
      | cons y ys => exact isPrefixOf_cons_of_ne fun hc => h.1 (hc ▸ List.mem_cons_self)
    | cons x xs =>
      rw [List.cons_append, List.isPrefixOf_cons_cons, List.isPrefixOf_cons_cons, ih h.2]

/-- Nothing is removed from such characters. -/
theorem removeAll_append_right (hne : pattern ≠ []) (h : ∀ c ∈ pattern, c ∉ ys) (xs : List Char) :
    removeAll pattern (xs ++ ys) = removeAll pattern xs ++ ys := by
  have hfrom (skip : ℕ) (hskip : skip ≤ xs.length) :
      removeFrom pattern skip (xs ++ ys) = removeFrom pattern skip xs ++ ys := by
    induction xs generalizing skip with
    | nil =>
      obtain rfl : skip = 0 := Nat.le_zero.mp hskip
      obtain ⟨c, more, rfl⟩ := List.exists_cons_of_ne_nil hne
      exact removeAll_of_not_occursIn
        (occursIn_of_not_mem List.mem_cons_self (h c List.mem_cons_self))
    | cons x xs ih =>
      cases skip with
      | succ skip => exact ih skip (Nat.le_of_succ_le_succ hskip)
      | zero =>
        have hhead := isPrefixOf_append_of_not_mem h (x :: xs)
        rw [List.cons_append] at hhead ⊢
        rw [removeFrom, removeFrom, hhead]
        split
        · rename_i hprefix
          refine ih _ ?_
          have hlength := List.IsPrefix.length_le <| List.isPrefixOf_iff_prefix.mp hprefix
          rw [List.length_cons] at hlength
          omega
        · rw [ih 0 (Nat.zero_le _)]
          rfl
  exact hfrom 0 (Nat.zero_le _)

end SkaterLedger.Text
