import SkaterLedger.Contacts.Contact
import SkaterLedger.Proofs.Text.Blanks
import SkaterLedger.Proofs.Text.Splitting

/-!
# The first names of siblings

Before a list of siblings is split, each comma becomes a conjunction, which has a blank at either
end and the word `and` between them. So every occurrence of the conjunction in the pieces between
the separators would make `and` one of their words, and pieces without this word are what the text
is split into (`Cut.splitAll`). Commas and blanks at the ends of a list only add blanks to the names
and pieces of blanks, which are dropped (`Names.loose_append`, `Joined.hasNames`). So a list is
split back into its names, and whatever the text is, nothing that comes out is a list
(`ofFields_siblings`).
-/

namespace SkaterLedger.ContactName

open Text (isBlank trim words)

/-! ## Lists of names -/

/-- The word of the conjunction. -/
def conjunctionWord : List Char := "and".toList

/-- A text that is not split any further. -/
structure Plain (piece : List Char) : Prop where
  /-- It has no comma. -/
  noComma : ',' ∉ piece
  /-- None of its words is `and`. -/
  noConjunction : conjunctionWord ∉ words piece

/-- The name of one sibling. -/
structure IsName (name : List Char) : Prop extends Plain name where
  /-- It is not empty. -/
  nonempty : name ≠ []
  /-- It has no blanks at its ends. -/
  trimmed : trim name = name

/-- What stands between the names of two siblings: the conjunction, a comma and the conjunction, or
a comma with any blanks around it. -/
inductive Separator : List Char → Prop where
  /-- The conjunction. -/
  | word : Separator conjunction
  /-- A comma and the conjunction. -/
  | commaWord : Separator (',' :: conjunction)
  /-- A comma. -/
  | comma {bs bs' : List Char} (hbs : ∀ c ∈ bs, isBlank c = true)
    (hbs' : ∀ c ∈ bs', isBlank c = true) : Separator (bs ++ ',' :: bs')

/-- A text of names with separators between them. -/
inductive Joined : List (List Char) → List Char → Prop where
  /-- The last name. -/
  | last (name : List Char) : Joined [name] name
  /-- A name with more names behind it. -/
  | cons {sep text : List Char} {names : List (List Char)} (name : List Char) (hsep : Separator sep)
    (h : Joined names text) : Joined (name :: names) (name ++ (sep ++ text))

/-- Commas and blanks, as they may stand at the ends of a list. -/
def Loose (cs : List Char) : Prop := ∀ c ∈ cs, c = ',' ∨ isBlank c = true

variable {bs cs piece mark name text before after : List Char} {pieces names : List (List Char)}

/-! ## Pieces -/

/-- The characters of the conjunction. -/
theorem conjunction_eq : conjunction = ' ' :: (conjunctionWord ++ [' ']) := rfl

/-- A blank is no comma. -/
theorem comma_not_mem (hbs : ∀ c ∈ bs, isBlank c = true) : ',' ∉ bs :=
  Text.not_mem_of_isBlank hbs rfl

/-- Blanks in front leave a piece plain. -/
theorem Plain.blanks_append (h : Plain piece) (hbs : ∀ c ∈ bs, isBlank c = true) :
    Plain (bs ++ piece) where
  noComma hmem := (List.mem_append.mp hmem).elim (comma_not_mem hbs) h.noComma
  noConjunction := by
    rw [Text.words_blanks_append hbs]
    exact h.noConjunction

/-- So do blanks at the end. -/
theorem Plain.append_blanks (h : Plain piece) (hbs : ∀ c ∈ bs, isBlank c = true) :
    Plain (piece ++ bs) where
  noComma hmem := (List.mem_append.mp hmem).elim h.noComma (comma_not_mem hbs)
  noConjunction := by
    rw [Text.words_append_blanks hbs]
    exact h.noConjunction

/-- A text without characters is plain. -/
theorem plain_nil : Plain [] := ⟨List.not_mem_nil, List.not_mem_nil⟩

/-- Where the conjunction occurs, `and` is a word. -/
theorem mem_words_of_occurs (h : conjunction <:+: cs) : conjunctionWord ∈ words cs := by
  obtain ⟨xs, ys, rfl⟩ := h
  have hcs : xs ++ conjunction ++ ys = xs ++ ' ' :: (conjunctionWord ++ ' ' :: ys) := by
    simp [conjunction_eq]
  have hword : words conjunctionWord = [conjunctionWord] := rfl
  rw [hcs, Text.words_append_blank_cons rfl, Text.words_append_blank_cons rfl, hword]
  simp

/-- The conjunction does not occur in a plain piece, also if a blank is put behind it. -/
theorem Plain.not_occurs (h : Plain piece) : ¬ conjunction <:+: piece ++ [' '] := by
  intro hpart
  have hmem := mem_words_of_occurs hpart
  rw [Text.words_append_blanks (List.forall_mem_singleton.mpr rfl)] at hmem
  exact h.noConjunction hmem

/-- What a list is split at: a comma or the conjunction. -/
def IsMark (mark : List Char) : Prop := mark = [','] ∨ mark = conjunction

/-- A text that consists of plain pieces with commas and conjunctions between them. -/
inductive Cut : List Char → List (List Char) → Prop where
  /-- The last piece. -/
  | last {piece : List Char} (h : Plain piece) : Cut piece [piece]
  /-- A piece with more pieces behind it. -/
  | cons {piece mark text : List Char} {pieces : List (List Char)} (h : Plain piece)
    (hmark : IsMark mark) (hrest : Cut text pieces) : Cut (piece ++ (mark ++ text)) (piece :: pieces)

/-- A text is split into its pieces. -/
theorem Cut.splitAll (h : Cut text pieces) :
    Text.splitAll conjunction (Text.substitute ',' conjunction text) = pieces := by
  have hword : ' ' ∉ conjunctionWord := by decide
  induction h with
  | last h =>
    rw [Text.substitute_of_not_mem h.noComma, Text.splitAll_of_not_occurs]
    exact fun hpart => h.not_occurs (hpart.trans (List.prefix_append _ _).isInfix)
  | @cons piece mark text pieces h hmark _ ih =>
    have hconjunction : Text.substitute ',' conjunction mark = conjunction := by
      rcases hmark with rfl | rfl <;> rfl
    -- The blank with which the conjunction starts may not be the end of an earlier one.
    have hpart := h.not_occurs
    rw [Text.substitute_append, Text.substitute_append, Text.substitute_of_not_mem h.noComma,
      hconjunction]
    generalize Text.substitute ',' conjunction text = rest at ih ⊢
    rw [conjunction_eq] at ih hpart ⊢
    rw [Text.splitAll_append hword hpart, ih]

/-- Blanks in front of a text belong to its first piece. -/
theorem Cut.blanks_append (h : Cut text (piece :: pieces)) (hbs : ∀ c ∈ bs, isBlank c = true) :
    Cut (bs ++ text) ((bs ++ piece) :: pieces) := by
  cases h with
  | last h => exact .last (h.blanks_append hbs)
  | cons h hmark hrest =>
    rw [← List.append_assoc]
    exact .cons (h.blanks_append hbs) hmark hrest

/-! ## Names -/

/-- The names among pieces: what is left of them without blanks, unless that is nothing. -/
def namesOf (pieces : List (List Char)) : List (List Char) :=
  (pieces.map trim).filter fun name => !name.isEmpty

/-- A text whose pieces have certain names. -/
def Names (text : List Char) (names : List (List Char)) : Prop :=
  ∃ pieces, Cut text pieces ∧ namesOf pieces = names

/-- A text is split into the names of its pieces. -/
theorem Names.splitNames (h : Names text names) : splitNames text = names := by
  obtain ⟨pieces, hcut, hnames⟩ := h
  unfold ContactName.splitNames
  rw [hcut.splitAll]
  exact hnames

/-- An empty piece has no name. -/
theorem namesOf_cons_nil (pieces : List (List Char)) : namesOf ([] :: pieces) = namesOf pieces :=
  rfl

/-- A name with blanks behind it has the name. -/
theorem namesOf_cons_name (hname : IsName name) (hbs : ∀ c ∈ bs, isBlank c = true) :
    namesOf ((name ++ bs) :: pieces) = name :: namesOf pieces := by
  have htrim : trim (name ++ bs) = name := (Text.trim_append_blanks hbs).trans hname.trimmed
  simp [namesOf, htrim, hname.nonempty]

/-- A text without characters has no names. -/
theorem names_nil : Names [] [] := ⟨[[]], .last plain_nil, rfl⟩

/-- Blanks in front of a text add no names. -/
theorem Names.blanks_append (h : Names text names) (hbs : ∀ c ∈ bs, isBlank c = true) :
    Names (bs ++ text) names := by
  obtain ⟨_ | ⟨piece, pieces⟩, hcut, hnames⟩ := h
  · cases hcut
  · refine ⟨(bs ++ piece) :: pieces, hcut.blanks_append hbs, ?_⟩
    rw [← hnames]
    simp [namesOf, Text.trim_blanks_append hbs]

/-- Nor does a comma or the conjunction. -/
theorem Names.mark_append (h : Names text names) (hmark : IsMark mark) :
    Names (mark ++ text) names := by
  obtain ⟨pieces, hcut, hnames⟩ := h
  exact ⟨[] :: pieces, .cons plain_nil hmark hcut, (namesOf_cons_nil pieces).trans hnames⟩

/-- Commas and blanks in front of a text add no names. -/
theorem Names.loose_append (h : Names text names) (hbefore : Loose before) :
    Names (before ++ text) names := by
  induction before with
  | nil => exact h
  | cons c before ih =>
    obtain ⟨hc, hrest⟩ := List.forall_mem_cons.mp hbefore
    rcases hc with rfl | hc
    · exact (ih hrest).mark_append (.inl rfl)
    · exact (ih hrest).blanks_append (List.forall_mem_singleton.mpr hc)

/-- A name in front of a comma or the conjunction is one more name, also with blanks behind it. -/
theorem Names.name_append (h : Names text names) (hname : IsName name)
    (hbs : ∀ c ∈ bs, isBlank c = true) (hmark : IsMark mark) :
    Names (name ++ (bs ++ (mark ++ text))) (name :: names) := by
  obtain ⟨pieces, hcut, hnames⟩ := h
  rw [← List.append_assoc]
  exact ⟨(name ++ bs) :: pieces, .cons (hname.toPlain.append_blanks hbs) hmark hcut,
    (namesOf_cons_name hname hbs).trans (congrArg _ hnames)⟩

/-- A name with commas and blanks behind it is one name. -/
theorem names_append_loose (hname : IsName name) (hafter : Loose after) :
    Names (name ++ after) [name] := by
  -- Blanks up to the first comma belong to the piece of the name.
  have hbs : ∀ c ∈ after.takeWhile isBlank, isBlank c = true :=
    fun c hc => List.mem_takeWhile_imp hc
  rw [← List.takeWhile_append_dropWhile (p := isBlank) (l := after)]
  cases hrest : after.dropWhile isBlank with
  | nil =>
    rw [List.append_nil]
    exact ⟨[name ++ after.takeWhile isBlank], .last (hname.toPlain.append_blanks hbs),
      namesOf_cons_name hname hbs⟩
  | cons c rest =>
    have hends : Loose (c :: rest) := fun d hd =>
      hafter d ((List.dropWhile_suffix isBlank).subset (hrest ▸ hd))
    obtain ⟨hc, hloose⟩ := List.forall_mem_cons.mp hends
    obtain rfl : c = ',' := hc.resolve_right (by
      rw [Text.isBlank_of_trimStart_eq_cons hrest]
      exact Bool.false_ne_true)
    have hnone : Names (rest ++ []) [] := names_nil.loose_append hloose
    rw [List.append_nil] at hnone
    exact hnone.name_append hname hbs (.inl rfl)

/-- Names with separators between them, and with commas and blanks behind them, are these names. -/
theorem Joined.hasNames (h : Joined names text) (hnames : ∀ name ∈ names, IsName name)
    (hafter : Loose after) : Names (text ++ after) names := by
  induction h with
  | last name => exact names_append_loose (hnames name List.mem_cons_self) hafter
  | @cons sep text names name hsep _ ih =>
    rw [List.forall_mem_cons] at hnames
    have hrest := ih hnames.2
    have hnil : ∀ c ∈ ([] : List Char), isBlank c = true := List.forall_mem_nil _
    rw [List.append_assoc, List.append_assoc]
    cases hsep with
    | word => exact hrest.name_append hnames.1 hnil (.inr rfl)
    | commaWord => exact (hrest.mark_append (.inr rfl)).name_append hnames.1 hnil (.inl rfl)
    | comma hbs hbs' =>
      rw [List.append_assoc]
      exact (hrest.blanks_append hbs').name_append hnames.1 hbs (.inl rfl)

/-- Between two names there is a comma or the conjunction. -/
theorem Joined.hasSeparator (h : Joined names text) (hlength : 2 ≤ names.length) :
    conjunction <:+: text ∨ ',' ∈ text := by
  cases h with
  | last name => simp at hlength
  | cons name hsep _ =>
    cases hsep with
    | word => exact .inl (List.infix_append' _ _ _)
    | commaWord => exact .inr (by simp)
    | comma => exact .inr (by simp)

/-- A text is a list if it has a comma or the conjunction. -/
theorem isList_iff : isList cs = true ↔ conjunction <:+: cs ∨ ',' ∈ cs := by
  unfold isList
  rw [Bool.or_eq_true, Text.occursIn_iff, List.contains_iff_mem]

/-- What comes out of a list is not empty, has no blanks at its ends and is no list itself. -/
theorem of_mem_splitNames (h : name ∈ splitNames cs) :
    name ≠ [] ∧ trim name = name ∧ ',' ∉ name ∧ ¬ conjunction <:+: name := by
  obtain ⟨hmem, hne⟩ := List.mem_filter.mp h
  obtain ⟨piece, hpiece, rfl⟩ := List.mem_map.mp hmem
  have hconjunction : conjunction ≠ [] := by decide
  have hcomma : ',' ∉ Text.substitute ',' conjunction cs := Text.not_mem_substitute (by decide)
  obtain ⟨hpart, hnone⟩ := Text.infix_of_mem_splitAll hconjunction hpiece
  have htrim := Text.trim_isInfix piece
  refine ⟨by simpa using hne, Text.trim_trim piece, ?_, fun h => hnone (h.trans htrim)⟩
  exact fun hmem => hcomma ((htrim.trans hpart).subset hmem)

/-- A list of two or more names, with any commas and blanks at its ends, is split back into these
names, and they make a family. Whatever list a text is, what comes out are texts that are no lists
and have no blanks at their ends, and they make a family exactly if there are two of them at least.
-/
theorem ofFields_siblings :
    (∀ (names : List (List Char)) (before text after : List Char) (last : String),
      2 ≤ names.length → (∀ name ∈ names, IsName name) → Joined names text → Loose before →
      Loose after → ofFields (String.ofList (before ++ (text ++ after))) last =
        ⟨names.map String.ofList, Text.trimmed last, true⟩) ∧
      ∀ first last : String, (conjunction <:+: first.toList ∨ ',' ∈ first.toList) →
        (∀ name ∈ (ofFields first last).firstNames, name ≠ "" ∧ Text.trimmed name = name ∧
          ',' ∉ name.toList ∧ ¬ conjunction <:+: name.toList) ∧
        ((ofFields first last).isFamily = true ↔ 2 ≤ (ofFields first last).firstNames.length) := by
  constructor
  · intro names before text after last hlength hnames hjoined hbefore hafter
    have hsplit := ((hjoined.hasNames hnames hafter).loose_append hbefore).splitNames
    have hlist : isList (before ++ (text ++ after)) = true := by
      rw [isList_iff]
      exact (hjoined.hasSeparator hlength).imp
        (fun h => h.trans (List.infix_append' before text after)) (fun h => by simp [h])
    have hfamily : decide (1 < names.length) = true := decide_eq_true hlength
    unfold ofFields
    rw [String.toList_ofList, if_pos hlist, hsplit]
    simp only [hfamily]
  · intro first last hlist
    unfold ofFields
    rw [if_pos (isList_iff.mpr hlist)]
    refine ⟨fun name hname => ?_, by simp [Nat.succ_le_iff]⟩
    obtain ⟨cs, hcs, rfl⟩ := List.mem_map.mp hname
    obtain ⟨hne, htrim, hcomma, hnone⟩ := of_mem_splitNames hcs
    unfold Text.trimmed
    rw [String.toList_ofList, htrim]
    exact ⟨by simpa using hne, rfl, hcomma, hnone⟩

/-- Four siblings, with a separator of each kind between two of them, and a list of one. -/
theorem ofFields_siblings_four :
    let names := ["Ann".toList, "Bea".toList, "Cy".toList, "Dee".toList]
    let text := "Ann and Bea ,Cy, and Dee".toList
    2 ≤ names.length ∧ (∀ name ∈ names, IsName name) ∧ Joined names text ∧ Loose [',', ' '] ∧
      Loose [' ', ','] ∧ ofFields ", Ann and Bea ,Cy, and Dee ," " Lee" =
        ⟨["Ann", "Bea", "Cy", "Dee"], "Lee", true⟩ ∧
      ((ofFields "Ann," "Lee").isFamily = true ↔
        2 ≤ (ofFields "Ann," "Lee").firstNames.length) := by
  intro names text
  have hlength : 2 ≤ names.length := by decide
  have hnames : ∀ name ∈ names, IsName name := by
    intro name hname
    refine ⟨⟨?_, ?_⟩, ?_, ?_⟩ <;> revert name <;> decide
  have hblank : isBlank ' ' = true := rfl
  have hcomma : Separator ([' '] ++ [',']) :=
    .comma (List.forall_mem_singleton.mpr hblank) (List.forall_mem_nil _)
  have hjoined : Joined names text :=
    .cons _ .word (.cons _ hcomma (.cons _ .commaWord (.last _)))
  have hbefore : Loose [',', ' '] :=
    List.forall_mem_cons.mpr ⟨.inl rfl, List.forall_mem_singleton.mpr (.inr hblank)⟩
  have hafter : Loose [' ', ','] :=
    List.forall_mem_cons.mpr ⟨.inr hblank, List.forall_mem_singleton.mpr (.inl rfl)⟩
  have hfields := ofFields_siblings.1 names _ text _ " Lee" hlength hnames hjoined hbefore hafter
  have hone := ofFields_siblings.2 "Ann," "Lee" (.inr (by decide))
  exact ⟨hlength, hnames, hjoined, hbefore, hafter, hfields, hone.2⟩

end SkaterLedger.ContactName
