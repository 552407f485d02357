import Mathlib.Data.List.Basic
import SkaterLedger.Proofs.Relations.WellFormed
import SkaterLedger.Proofs.Text.Decimal
import SkaterLedger.Store.Basic
import SkaterLedger.Store.Ids

/-!
# What ids tell

The id of a competition tells its key, and the id of an event tells the key of its competition and
the number of the event: the digits of the number stand after the last underscore. All ids that the
store makes for relations, skaters and events are well-formed, whatever the names are.
-/

namespace SkaterLedger

variable {a b : String} {n k : ℕ}

/-- Competitions have the same id exactly if they have the same key. -/
theorem competitionId_eq_iff :
    competitionId a = competitionId b ↔ competitionKey a = competitionKey b :=
  String.append_right_inj "competition:"

/-- Two texts that are cut at a mark are the same exactly if their parts are, or if one is cut at a
later mark: what stands between the marks then belongs to the first part of the one and to the
second part of the other. -/
theorem append_cons_eq_append_cons_iff {α : Type} {xs ys xs' ys' : List α} {mark : α} :
    xs ++ mark :: ys = xs' ++ mark :: ys' ↔ (xs = xs' ∧ ys = ys') ∨
      (∃ zs, xs' = xs ++ mark :: zs ∧ ys = zs ++ mark :: ys') ∨
        ∃ zs, xs = xs' ++ mark :: zs ∧ ys' = zs ++ mark :: ys := by
  constructor
  · intro h
    rcases List.append_eq_append_iff.mp h with ⟨zs, rfl, hzs⟩ | ⟨zs, rfl, hzs⟩
    · cases zs with
      | nil => exact .inl ⟨(List.append_nil xs).symm, (List.cons.inj hzs).2⟩
      | cons z zs =>
        obtain ⟨rfl, rfl⟩ := List.cons.inj hzs
        exact .inr (.inl ⟨zs, rfl, rfl⟩)
    · cases zs with
      | nil => exact .inl ⟨List.append_nil xs', (List.cons.inj hzs).2.symm⟩
      | cons z zs =>
        obtain ⟨rfl, rfl⟩ := List.cons.inj hzs
        exact .inr (.inr ⟨zs, rfl, rfl⟩)
  · rintro (⟨rfl, rfl⟩ | ⟨zs, rfl, rfl⟩ | ⟨zs, rfl, rfl⟩)
    · rfl
    · rw [List.append_assoc, List.cons_append]
    · rw [List.append_assoc, List.cons_append]

/-- What stands before and after the last mark of a text is told by the text. -/
theorem append_cons_inj_of_not_mem_right {α : Type} {xs ys ds es : List α} {mark : α}
    (hds : mark ∉ ds) (hes : mark ∉ es) (h : xs ++ mark :: ds = ys ++ mark :: es) :
    xs = ys ∧ ds = es := by
  rcases append_cons_eq_append_cons_iff.mp h with hsame | ⟨zs, -, rfl⟩ | ⟨zs, -, rfl⟩
  · exact hsame
  · exact absurd (List.mem_append_right zs List.mem_cons_self) hds
  · exact absurd (List.mem_append_right zs List.mem_cons_self) hes

/-- Events have the same id exactly if their competitions have the same key and their numbers are
the same. -/
theorem eventId_eq_iff :
    eventId a n = eventId b k ↔ competitionKey a = competitionKey b ∧ n = k := by
  constructor
  · intro h
    have hlists : (eventId a n).toList = (eventId b k).toList := congrArg String.toList h
    have hshape : ∀ (name : String) (number : ℕ), (eventId name number).toList =
        ("event:".toList ++ (competitionKey name).toList) ++ '_' :: Text.decimal number := by
      intro name number
      simp [eventId]
    rw [hshape, hshape] at hlists
    obtain ⟨hkeys, hdigits⟩ := append_cons_inj_of_not_mem_right Nat.underscore_not_in_toDigits
      Nat.underscore_not_in_toDigits hlists
    exact ⟨String.toList_inj.mp (List.append_cancel_left hkeys), Text.decimal_inj.mp hdigits⟩
  · rintro ⟨hkey, rfl⟩
    unfold eventId
    rw [hkey]

/-! ## There is no blank in an id -/

/-- The id of a skater has no blank: blanks of the names become underscores. -/
theorem blank_not_mem_skaterIdOf (first last : String) : ' ' ∉ (skaterIdOf first last).toList := by
  have hkey (c : Char) : nameKeyChar c ≠ ' ' := by
    unfold nameKeyChar
    split
    · decide
    · rename_i hc
      exact fun heq => hc (by simp [heq])
  unfold skaterIdOf
  simp only [String.toList_append, String.toList_ofList, List.mem_append, List.mem_map, not_or]
  refine ⟨by decide, ?_⟩
  rintro ⟨c, -, hc⟩
  exact hkey c hc

/-- The id of an event has no blank: blanks of the competition's name become underscores. -/
theorem blank_not_mem_eventId (competition : String) (number : ℕ) :
    ' ' ∉ (eventId competition number).toList := by
  have hkey (c : Char) : keyChar c ≠ ' ' := by
    unfold keyChar
    split
    · decide
    · rename_i hc
      exact fun heq => hc (by simp [heq])
  unfold eventId competitionKey
  simp only [String.toList_append, String.toList_ofList, List.mem_append, List.mem_map, not_or]
  refine ⟨⟨⟨by decide, ?_⟩, by decide⟩, fun hblank => ?_⟩
  · rintro ⟨c, -, hc⟩
    exact hkey c hc
  · exact absurd (Text.isAsciiDigit_of_mem_decimal hblank) (by decide)

/-! ## Ids that are made are well-formed -/

/-- A character other than the capital sigma that is its own lower case is kept. -/
theorem Text.mem_lower_of_mem {c : Char} {cs : List Char} (hsigma : c ≠ 'Σ')
    (hsame : lowerChar c = [c]) (h : c ∈ cs) : c ∈ lower cs := by
  have hfrom (before : List Char) : c ∈ lowerFrom before cs := by
    induction cs generalizing before with
    | nil => simp at h
    | cons d cs ih =>
      unfold lowerFrom
      rcases List.mem_cons.mp h with rfl | h
      · have hfirst : (c == 'Σ') = false := beq_eq_false_iff_ne.mpr hsigma
        simp [hfirst, hsame]
      · exact List.mem_append_right _ (ih h _)
  exact hfrom []

/-- The id of a skater is well-formed: an underscore stands between the names. -/
theorem skaterIdOf_wellFormed (first last : String) : RecordId.WellFormed (skaterIdOf first last) := by
  have hmark : '_' ∈ (Text.lower (last.toList ++ '_' :: first.toList)).map nameKeyChar :=
    List.mem_map.mpr ⟨'_', Text.mem_lower_of_mem (by decide) (by decide) (by simp), by decide⟩
  refine ⟨"skater".toList, _, ?_, by decide, List.all_eq_true.mp rfl, '_', hmark, by decide⟩
  simp [skaterIdOf]

/-- The id of an event is well-formed: an underscore stands in front of the number. -/
theorem eventId_wellFormed (competition : String) (number : ℕ) :
    RecordId.WellFormed (eventId competition number) := by
  refine ⟨"event".toList, (competitionKey competition).toList ++ '_' :: Text.decimal number, ?_,
    by decide, List.all_eq_true.mp rfl, '_', by simp, by decide⟩
  simp [eventId]

/-- The id of a new relation is well-formed: there is a digit in it. -/
theorem Moment.relationId_wellFormed (m : Moment) (n : ℕ) :
    RecordId.WellFormed (m.relationId n) := by
  have hblank : ∀ k < 16, ¬ Text.isBlank k.digitChar := by decide
  have hlast (k : ℕ) : (k % 16).digitChar ∈ Nat.toDigits 16 k := by
    rw [Nat.toDigits_eq_if (by decide)]
    split
    · rename_i hlt
      rw [Nat.mod_eq_of_lt hlt]
      exact List.mem_singleton_self _
    · exact List.mem_append_right _ (List.mem_singleton_self _)
  refine ⟨"competed_in".toList, (m.relation n).digits, by simp [relationId, Uuid.simple], by decide,
    List.all_eq_true.mp rfl, ((m.relation n).value % 16).digitChar, ?_, hblank _ (Nat.mod_lt _ (by decide))⟩
  exact List.mem_append_right _ (hlast _)

end SkaterLedger
