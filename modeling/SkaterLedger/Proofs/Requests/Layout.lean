import SkaterLedger.Proofs.Requests.Descriptions

/-!
# The layout of a document

How wide a line is indented, the blanks at its end and blank lines are a matter of layout: they do
not change the entries of a document (`extractLines_sameLayout`).

A reader looks at some of a line from its very start, at some only after trimming. The end of a line
is trimmed before anything else. In front it matters whether there are blanks, since headers and
skaters' lines have none; but which blanks they are does not, as no keyword begins with one and what
a line says is trimmed (`LineKind.ofLine_indent`). A blank line tells nothing.
-/

namespace SkaterLedger

/-! ## Lines -/

variable {bs bs' cs : List Char}

/-- Blanks in front of a status line are ignored. -/
theorem StatusReading.ofLine_blanks_append (hbs : ∀ c ∈ bs, Text.isBlank c = true) :
    ofLine (bs ++ cs) = ofLine cs := by
  have hremove : Text.removeAll statusKeyword (bs ++ cs) =
      bs ++ Text.removeAll statusKeyword cs :=
    Text.removeAll_append_of_not_mem (Text.not_mem_of_isBlank hbs rfl)
  have htext : statusText (bs ++ cs) = statusText cs := by
    unfold statusText
    rw [hremove, Text.trim_blanks_append hbs]
  unfold ofLine
  rw [htext]

namespace LineKind

/-- What stands behind a keyword is the same however wide the line is indented. -/
theorem textAfter_blanks_append {k : Char} {ks : List Char} (hk : Text.isBlank k = false)
    (hbs : ∀ c ∈ bs, Text.isBlank c = true) :
    textAfter (k :: ks) (bs ++ cs) = textAfter (k :: ks) cs := by
  unfold textAfter
  rw [Text.after_append_of_not_mem (Text.not_mem_of_isBlank hbs hk)]

/-- An indented line without blanks at its end is of the same kind however wide it is indented. -/
theorem ofTrimmed_indent (hne : bs ≠ []) (hbs : ∀ c ∈ bs, Text.isBlank c = true)
    (hne' : bs' ≠ []) (hbs' : ∀ c ∈ bs', Text.isBlank c = true) :
    ofTrimmed (bs ++ cs) = ofTrimmed (bs' ++ cs) := by
  have hoccurs {bs : List Char} (hbs : ∀ c ∈ bs, Text.isBlank c = true) {k : Char}
      (ks : List Char) (hk : Text.isBlank k = false) :
      Text.occursIn (k :: ks) (bs ++ cs) = Text.occursIn (k :: ks) cs :=
    Text.occursIn_append (Text.not_mem_of_isBlank hbs hk)
  have hcontact : contactKeyword = 'E' :: "mail:".toList := rfl
  have hstatus : statusKeyword = 'S' :: "tatus:".toList := rfl
  have hnote : noteKeyword = 'N' :: "ote:".toList := rfl
  rw [ofTrimmed_append hne hbs, ofTrimmed_append hne' hbs', Text.trim_blanks_append hbs,
    Text.trim_blanks_append hbs', StatusReading.ofLine_blanks_append hbs,
    StatusReading.ofLine_blanks_append hbs', hcontact, hstatus, hnote, hoccurs hbs _ rfl,
    hoccurs hbs _ rfl, hoccurs hbs _ rfl, hoccurs hbs' _ rfl, hoccurs hbs' _ rfl,
    hoccurs hbs' _ rfl, textAfter_blanks_append rfl hbs, textAfter_blanks_append rfl hbs,
    textAfter_blanks_append rfl hbs', textAfter_blanks_append rfl hbs']

/-- Blanks are a line of no kind. -/
theorem ofLine_blanks (hbs : ∀ c ∈ bs, Text.isBlank c = true) : ofLine bs = .other := by
  unfold ofLine
  rw [Text.trimEnd_eq_nil_iff.mpr hbs]
  rfl

/-- A line is of the same kind whatever blanks are at its end. -/
theorem ofLine_append_blanks (hbs : ∀ c ∈ bs, Text.isBlank c = true) :
    ofLine (cs ++ bs) = ofLine cs := by
  unfold ofLine
  rw [Text.trimEnd_append_blanks hbs]

/-- An indented line is of the same kind however wide it is indented. -/
theorem ofLine_indent (hne : bs ≠ []) (hbs : ∀ c ∈ bs, Text.isBlank c = true) (hne' : bs' ≠ [])
    (hbs' : ∀ c ∈ bs', Text.isBlank c = true) : ofLine (bs ++ cs) = ofLine (bs' ++ cs) := by
  by_cases hcs : Text.trimEnd cs = []
  · -- There is nothing but blanks.
    rw [Text.trimEnd_eq_nil_iff] at hcs
    rw [ofLine_blanks (List.forall_mem_append.mpr ⟨hbs, hcs⟩),
      ofLine_blanks (List.forall_mem_append.mpr ⟨hbs', hcs⟩)]
  · unfold ofLine
    rw [Text.trimEnd_append hcs, Text.trimEnd_append hcs]
    exact ofTrimmed_indent hne hbs hne' hbs'

/-- An indented line is no skater's. -/
theorem ofLine_indent_ne_subject (hne : bs ≠ []) (hbs : ∀ c ∈ bs, Text.isBlank c = true) :
    ofLine (bs ++ cs) ≠ .subject := by
  by_cases hcs : Text.trimEnd cs = []
  · rw [Text.trimEnd_eq_nil_iff] at hcs
    rw [ofLine_blanks (List.forall_mem_append.mpr ⟨hbs, hcs⟩)]
    exact nofun
  · unfold ofLine
    rw [Text.trimEnd_append hcs, ofTrimmed_append hne hbs]
    split_ifs <;> exact nofun

end LineKind

/-! ## Documents -/

namespace Requests

/-- The same line with another layout. -/
inductive SameLine : List Char → List Char → Prop
  /-- It has other blanks at its end. -/
  | flush (text bs bs' : List Char) (hbs : ∀ c ∈ bs, Text.isBlank c = true)
      (hbs' : ∀ c ∈ bs', Text.isBlank c = true) : SameLine (text ++ bs) (text ++ bs')
  /-- It is indented by other blanks, and may have other blanks at its end. -/
  | indented (is is' text bs bs' : List Char) (hne : is ≠ [])
      (his : ∀ c ∈ is, Text.isBlank c = true) (hne' : is' ≠ [])
      (his' : ∀ c ∈ is', Text.isBlank c = true) (hbs : ∀ c ∈ bs, Text.isBlank c = true)
      (hbs' : ∀ c ∈ bs', Text.isBlank c = true) :
      SameLine (is ++ (text ++ bs)) (is' ++ (text ++ bs'))

/-- The same lines with another layout: each line may be laid out anew, and blank lines may come and
go anywhere. -/
inductive SameLayout : List (List Char) → List (List Char) → Prop
  /-- The end of both documents. -/
  | nil : SameLayout [] []
  /-- A line that both documents have. -/
  | line {l l' : List Char} {ls ls' : List (List Char)} (hl : SameLine l l')
      (hls : SameLayout ls ls') : SameLayout (l :: ls) (l' :: ls')
  /-- A blank line that only the second document has. -/
  | insert (bs : List Char) {ls ls' : List (List Char)} (hbs : ∀ c ∈ bs, Text.isBlank c = true)
      (hls : SameLayout ls ls') : SameLayout ls (bs :: ls')
  /-- A blank line that only the first document has. -/
  | delete (bs : List Char) {ls ls' : List (List Char)} (hbs : ∀ c ∈ bs, Text.isBlank c = true)
      (hls : SameLayout ls ls') : SameLayout (bs :: ls) ls'

variable {filter : SectionFilter} {l l' : List Char} {ls ls' : List (List Char)}

/-- A line with another layout is of the same kind. -/
theorem SameLine.kind_eq (h : SameLine l l') : LineKind.ofLine l = LineKind.ofLine l' := by
  cases h with
  | flush text bs bs' hbs hbs' =>
    rw [LineKind.ofLine_append_blanks hbs, LineKind.ofLine_append_blanks hbs']
  | indented is is' text bs bs' hne his hne' his' hbs hbs' =>
    rw [← List.append_assoc, ← List.append_assoc, LineKind.ofLine_append_blanks hbs,
      LineKind.ofLine_append_blanks hbs', LineKind.ofLine_indent hne his hne' his']

/-- A skater's line begins the same entry if it is laid out anew. -/
theorem SameLine.beginEntry_eq (h : SameLine l l') (hsubject : LineKind.ofLine l = .subject)
    (sectionName : Option String) : beginEntry l sectionName = beginEntry l' sectionName := by
  cases h with
  | flush text bs bs' hbs hbs' =>
    unfold beginEntry
    rw [Text.trimEnd_append_blanks hbs, Text.trimEnd_append_blanks hbs']
  | indented is is' text bs bs' hne his hne' his' hbs hbs' =>
    exact absurd hsubject (LineKind.ofLine_indent_ne_subject hne his)

/-- A blank line changes nothing. -/
theorem extractFrom_blanks {bs : List Char} (hbs : ∀ c ∈ bs, Text.isBlank c = true)
    (state : State) : extractFrom filter state (bs :: ls) = extractFrom filter state ls := by
  have hkind : LineKind.ofLine bs = .other := LineKind.ofLine_blanks hbs
  have hheader : (LineKind.ofLine bs).header? = none := by
    rw [hkind]
    rfl
  cases haccept : filter.accepts state.sectionName with
  | false => exact extractFrom_rejected hheader haccept
  | true =>
    rw [extractFrom_detail hheader (by rw [hkind]; exact nofun) haccept, hkind]
    exact congrArg (extractFrom filter ⟨state.sectionName, ·⟩ ls) (congrFun Option.map_id _)

/-- From whatever state on, lines complete the same entries if they are laid out anew. -/
theorem SameLayout.extractFrom_eq (h : SameLayout ls ls') (state : State) :
    extractFrom filter state ls = extractFrom filter state ls' := by
  induction h generalizing state with
  | nil => rfl
  | line hl _ ih => exact extractFrom_cons_congr hl.kind_eq hl.beginEntry_eq ih state
  | insert bs hbs _ ih => rw [extractFrom_blanks hbs, ih]
  | delete bs hbs _ ih => rw [extractFrom_blanks hbs, ih]

/-! ## Line ends -/

/-- A text with a carriage return in front of every line feed. -/
def withReturns (cs : List Char) : List Char := Text.substitute '\n' ['\r', '\n'] cs

/-- A carriage return in front of every line feed is a blank at the end of every line. -/
theorem map_trimEnd_linesFrom_withReturns (acc cs : List Char) :
    (Text.linesFrom acc (withReturns cs)).map Text.trimEnd =
      (Text.linesFrom acc cs).map Text.trimEnd := by
  induction cs generalizing acc with
  | nil => rfl
  | cons c cs ih =>
    by_cases hc : c = '\n'
    · subst hc
      have hcons : withReturns ('\n' :: cs) = '\r' :: '\n' :: withReturns cs := rfl
      have hreturn : Text.linesFrom acc ('\r' :: '\n' :: withReturns cs) =
          Text.dropReturn ('\r' :: acc).reverse :: Text.linesFrom [] (withReturns cs) := rfl
      have hfeed : Text.linesFrom acc ('\n' :: cs) =
          Text.dropReturn acc.reverse :: Text.linesFrom [] cs := rfl
      have hblank : ∀ d ∈ ['\r'], Text.isBlank d = true := List.all_eq_true.mp rfl
      rw [hcons, hreturn, hfeed, List.map_cons, List.map_cons, ih, Text.trimEnd_dropReturn,
        Text.trimEnd_dropReturn, List.reverse_cons, Text.trimEnd_append_blanks hblank]
    · have hcons : withReturns (c :: cs) = c :: withReturns cs := by
        simp [withReturns, Text.substitute, hc]
      rw [hcons, Text.linesFrom.eq_3 _ _ _ hc, Text.linesFrom.eq_3 _ _ _ hc, ih]

/-- Layout does not matter. Documents that differ only in how wide their lines are indented, in
blanks at the ends of lines and in blank lines have the same entries, whether they are given as
lines or as a text; and so has a text of which every line ends in a carriage return as well. -/
theorem extractLines_sameLayout :
    (∀ filter (lines lines' : List String),
      SameLayout (lines.map String.toList) (lines'.map String.toList) →
        extractLines filter lines = extractLines filter lines') ∧
    (∀ filter (text text' : String),
      SameLayout (Text.lines text.toList) (Text.lines text'.toList) →
        extract filter text = extract filter text') ∧
    ∀ filter (text : String),
      extract filter (String.ofList (withReturns text.toList)) = extract filter text := by
  refine ⟨fun filter lines lines' h => h.extractFrom_eq _, fun filter text text' h =>
    h.extractFrom_eq _, fun filter text => ?_⟩
  have hlines : (Text.lines (withReturns text.toList)).map Text.trimEnd =
      (Text.lines text.toList).map Text.trimEnd := map_trimEnd_linesFrom_withReturns [] _
  unfold extract
  rw [String.toList_ofList, ← extractFrom_map_trimEnd, hlines, extractFrom_map_trimEnd]

/-- A document laid out with blanks and with tabs, wide blanks, carriage returns and blank lines, as
lines and as a text. -/
theorem extractLines_sameLayout_tabs :
    let lines := ["## Requested", "Smith John", "   Event 3", "   Email: js@example.com", "",
      "Doe Jane", "  Event 4", "  Status: Sent"]
    let lines' := ["## Requested \t", "", "Smith John\r", "\tEvent 3",
      " \u3000Email: js@example.com\r", "Doe Jane", "\tEvent 4 ", " \t ", "\t\tStatus: Sent"]
    SameLayout (lines.map String.toList) (lines'.map String.toList) ∧
      extractLines (.named "Requested") lines = extractLines (.named "Requested") lines' ∧
      extract .all "Smith John\n   Event 3\n" = extract .all "\nSmith John \n\tEvent 3" := by
  intro lines lines'
  have blanks (cs : List Char) (h : cs.all Text.isBlank = true) :
      ∀ c ∈ cs, Text.isBlank c = true := List.all_eq_true.mp h
  have hlayout : SameLayout (lines.map String.toList) (lines'.map String.toList) := by
    refine .line (.flush "## Requested".toList [] " \t".toList (blanks _ rfl) (blanks _ rfl)) ?_
    refine .insert [] (blanks _ rfl) ?_
    refine .line (.flush "Smith John".toList [] "\r".toList (blanks _ rfl) (blanks _ rfl)) ?_
    refine .line (.indented "   ".toList "\t".toList "Event 3".toList [] [] (by decide)
      (blanks _ rfl) (by decide) (blanks _ rfl) (blanks _ rfl) (blanks _ rfl)) ?_
    refine .line (.indented "   ".toList " \u3000".toList "Email: js@example.com".toList []
      "\r".toList (by decide) (blanks _ rfl) (by decide) (blanks _ rfl) (blanks _ rfl)
      (blanks _ rfl)) ?_
    refine .delete [] (blanks _ rfl) ?_
    refine .line (.flush "Doe Jane".toList [] [] (blanks _ rfl) (blanks _ rfl)) ?_
    refine .line (.indented "  ".toList "\t".toList "Event 4".toList [] " ".toList (by decide)
      (blanks _ rfl) (by decide) (blanks _ rfl) (blanks _ rfl) (blanks _ rfl)) ?_
    refine .insert " \t ".toList (blanks _ rfl) ?_
    exact .line (.indented "  ".toList "\t\t".toList "Status: Sent".toList [] [] (by decide)
      (blanks _ rfl) (by decide) (blanks _ rfl) (blanks _ rfl) (blanks _ rfl)) .nil
  have htext : SameLayout (Text.lines "Smith John\n   Event 3\n".toList)
      (Text.lines "\nSmith John \n\tEvent 3".toList) := by
    refine .insert [] (blanks _ rfl) ?_
    refine .line (.flush "Smith John".toList [] " ".toList (blanks _ rfl) (blanks _ rfl)) ?_
    exact .line (.indented "   ".toList "\t".toList "Event 3".toList [] [] (by decide)
      (blanks _ rfl) (by decide) (blanks _ rfl) (blanks _ rfl) (blanks _ rfl)) .nil
  exact ⟨hlayout, extractLines_sameLayout.1 _ _ _ hlayout, extractLines_sameLayout.2.1 _ _ _ htext⟩

end Requests

end SkaterLedger
