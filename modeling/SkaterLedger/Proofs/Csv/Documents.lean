import Mathlib.Data.List.Basic
import SkaterLedger.Csv.Reader
import SkaterLedger.Csv.Writer

/-!
# Records that are read back

A field may be written bare or between quotation marks, but bare only if no character of it makes
them necessary; a record ends with any of the line ends, and more of them make blank lines. Whatever
is chosen, the records are read as they were (`recordsFrom_document`).

The reader stands somewhere in a field when the field ends, in it or behind its closing quotation
mark; a comma, a line end or the end of the text is read the same in all these places
(`recordsFrom_eq_inField`). So a field puts its text in front of what is read behind it, and records
are read one after another.
-/

namespace SkaterLedger.Csv

/-! ## Steps of the reader -/

section Steps

variable {α : Type}

/-- Puts a text in front of the current field. -/
def addText (cs : List α) (records : List (List (List α))) : List (List (List α)) :=
  cs.foldr addSymbol records

/-- The current field starts with the text. -/
theorem addText_cons (cs field : List α) (fields : List (List α))
    (records : List (List (List α))) :
    addText cs ((field :: fields) :: records) = ((cs ++ field) :: fields) :: records := by
  induction cs with
  | nil => rfl
  | cons c cs ih =>
    unfold addText at ih ⊢
    rw [List.foldr_cons, ih]
    rfl

/-- Where a reader stands after a symbol without a meaning of its own. -/
def Place.inside : Place → Place
  | .inQuotes => .inQuotes
  | _ => .inField

variable [DecidableEq α] {marks : Marks α} {place : Place} {c : α} {cs es rest : List α}

/-- Whether a symbol is none of the marks that a reader looks for. -/
def Marks.Plain (marks : Marks α) (c : α) : Prop :=
  c ≠ marks.comma ∧ c ≠ marks.quote ∧ marks.endsLine c = false

/-- A symbol without a meaning belongs to the field. -/
theorem recordsFrom_cons_of_plain (place : Place) (hc : marks.Plain c) (cs : List α) :
    recordsFrom marks place (c :: cs) = addSymbol c (recordsFrom marks place.inside cs) := by
  obtain ⟨hcomma, hquote, hend⟩ := hc
  cases place <;> simp [recordsFrom, Place.inside, hcomma, hquote, hend]

/-- A text without marks belongs to the field. -/
theorem recordsFrom_append_of_plain (place : Place) (hne : cs ≠ []) (hcs : ∀ c ∈ cs, marks.Plain c)
    (rest : List α) :
    recordsFrom marks place (cs ++ rest) = addText cs (recordsFrom marks place.inside rest) := by
  have hinside (place : Place) : place.inside.inside = place.inside := by cases place <;> rfl
  induction cs generalizing place with
  | nil => exact absurd rfl hne
  | cons c cs ih =>
    rw [List.forall_mem_cons] at hcs
    rw [List.cons_append, recordsFrom_cons_of_plain place hcs.1]
    by_cases hnil : cs = []
    · rw [hnil, List.nil_append]
      rfl
    · rw [ih place.inside hnil hcs.2, hinside]
      rfl

/-- A text is followed by the end of its field: a comma, a line end or the end of the text. -/
def Marks.Ended (marks : Marks α) (rest : List α) : Prop :=
  ∀ c ∈ rest.head?, c = marks.comma ∨ marks.endsLine c = true

/-- The end of a field is read the same in every place where a field can end. -/
theorem recordsFrom_eq_inField (hline : place ≠ .lineStart) (hquotes : place ≠ .inQuotes)
    (hrest : marks.Ended rest) :
    recordsFrom marks place rest = recordsFrom marks .inField rest := by
  have hread (place : Place) (hline : place ≠ .lineStart) (hquotes : place ≠ .inQuotes) :
      recordsFrom marks place rest = match rest with
        | [] => [[[]]]
        | c :: cs =>
          if marks.endsLine c then [[]] :: recordsFrom marks .lineStart cs
          else addField (recordsFrom marks .fieldStart cs) := by
    cases rest with
    | nil => cases place <;> simp [recordsFrom] at hline ⊢
    | cons c cs =>
      cases hend : marks.endsLine c with
      | true => cases place <;> simp [recordsFrom, hend] at hline hquotes ⊢
      | false =>
        have hcomma : c = marks.comma := (hrest c rfl).resolve_right (by simp [hend])
        cases place <;> simp [recordsFrom, ← hcomma, hend] at hquotes ⊢
  rw [hread place hline hquotes, hread .inField (by decide) (by decide)]

/-- The start of a line is the start of a field, unless the line is blank. -/
theorem recordsFrom_lineStart (hc : marks.endsLine c = false) (cs : List α) :
    recordsFrom marks .lineStart (c :: cs) = recordsFrom marks .fieldStart (c :: cs) := by
  simp [recordsFrom, hc]

/-- Blank lines are passed over. -/
theorem recordsFrom_lineStart_append (hes : ∀ e ∈ es, marks.endsLine e = true) (rest : List α) :
    recordsFrom marks .lineStart (es ++ rest) = recordsFrom marks .lineStart rest := by
  induction es with
  | nil => rfl
  | cons e es ih =>
    rw [List.forall_mem_cons] at hes
    rw [List.cons_append, ← ih hes.2]
    simp [recordsFrom, hes.1]

/-- Line ends end a record. -/
theorem recordsFrom_inField_append (hne : es ≠ []) (hes : ∀ e ∈ es, marks.endsLine e = true)
    (rest : List α) :
    recordsFrom marks .inField (es ++ rest) = [[]] :: recordsFrom marks .lineStart rest := by
  obtain ⟨e, es, rfl⟩ := List.exists_cons_of_ne_nil hne
  rw [List.forall_mem_cons] at hes
  rw [List.cons_append, ← recordsFrom_lineStart_append hes.2]
  simp [recordsFrom, hes.1]

end Steps

/-! ## Fields -/

/-- A character that needs no quotation marks has no meaning of its own. -/
theorem plain_of_needsQuotes {c : Char} (h : needsQuotes c = false) : Marks.ofChars.Plain c := by
  simpa [needsQuotes, Marks.Plain, Marks.endsLine, Marks.ofChars, and_assoc] using h

/-- A field as it is written. -/
structure WrittenField where
  /-- What the field says. -/
  text : List Char
  /-- Whether it stands between quotation marks. -/
  quoted : Bool
  /-- It does if a character of it makes quotation marks necessary. -/
  quoted_of_any : text.any needsQuotes = true → quoted = true

namespace WrittenField

/-- The characters that are written for a field. -/
def written (f : WrittenField) : List Char := if f.quoted then quoteField f.text else f.text

/-- A bare field has no marks. -/
theorem plain_of_mem (f : WrittenField) (hquoted : f.quoted = false) {c : Char} (hc : c ∈ f.text) :
    Marks.ofChars.Plain c := by
  refine plain_of_needsQuotes (Bool.eq_false_iff.mpr fun hneeds => ?_)
  have hany : f.text.any needsQuotes = true := List.any_eq_true.mpr ⟨c, hc, hneeds⟩
  rw [f.quoted_of_any hany] at hquoted
  cases hquoted

/-- A field does not start with a line end. -/
theorem head?_written (f : WrittenField) {c : Char} (h : f.written.head? = some c) :
    Marks.ofChars.endsLine c = false := by
  unfold written at h
  split at h
  · obtain rfl : '"' = c := Option.some.inj h
    rfl
  · rename_i hquoted
    exact (f.plain_of_mem (Bool.eq_false_iff.mpr hquoted) (List.mem_of_head? h)).2.2

end WrittenField

variable {rest : List Char}

/-- Between quotation marks everything is read up to the one that is not doubled. -/
theorem recordsFrom_inQuotes (cs rest : List Char) :
    recordsFrom .ofChars .inQuotes
        (cs.flatMap (fun c => if c == '"' then ['"', '"'] else [c]) ++ '"' :: rest) =
      addText cs (recordsFrom .ofChars .afterQuote rest) := by
  induction cs with
  | nil => simp [recordsFrom, Marks.ofChars, addText]
  | cons c cs ih =>
    have hcons : addText (c :: cs) (recordsFrom .ofChars .afterQuote rest) =
        addSymbol c (addText cs (recordsFrom .ofChars .afterQuote rest)) := rfl
    rw [List.flatMap_cons, List.append_assoc, hcons, ← ih]
    by_cases hc : c = '"'
    · simp [hc, recordsFrom, Marks.ofChars, Marks.endsLine]
    · simp [hc, recordsFrom, Marks.ofChars]

/-- A field puts its text in front of what is read behind it. -/
theorem recordsFrom_written (f : WrittenField) (hrest : Marks.ofChars.Ended rest) :
    recordsFrom .ofChars .fieldStart (f.written ++ rest) =
      addText f.text (recordsFrom .ofChars .inField rest) := by
  unfold WrittenField.written
  split
  · have hopen (cs : List Char) : recordsFrom .ofChars .fieldStart ('"' :: cs) =
        recordsFrom .ofChars .inQuotes cs := by
      simp [recordsFrom, Marks.ofChars, Marks.endsLine]
    have hclosed : recordsFrom .ofChars .afterQuote rest = recordsFrom .ofChars .inField rest :=
      recordsFrom_eq_inField (by decide) (by decide) hrest
    unfold quoteField
    rw [List.append_assoc, List.cons_append, hopen, List.singleton_append, recordsFrom_inQuotes,
      hclosed]
  · rename_i hquoted
    have hplain : ∀ c ∈ f.text, Marks.ofChars.Plain c := fun c hc =>
      f.plain_of_mem (Bool.eq_false_iff.mpr hquoted) hc
    by_cases hnil : f.text = []
    · rw [hnil]
      exact recordsFrom_eq_inField (by decide) (by decide) hrest
    · exact recordsFrom_append_of_plain .fieldStart hnil hplain rest

/-! ## Records -/

/-- A line end as it is written. -/
inductive LineEnd where
  /-- A line feed. -/
  | lineFeed
  /-- A carriage return. -/
  | carriageReturn
  /-- A carriage return and a line feed. -/
  | both
deriving DecidableEq, Repr

/-- The characters of a line end. -/
def LineEnd.text : LineEnd → List Char
  | lineFeed => ['\n']
  | carriageReturn => ['\r']
  | both => ['\r', '\n']

/-- A record as it is written. -/
structure WrittenRecord where
  /-- The fields. -/
  fields : List WrittenField
  /-- The line end of the record, if it has one, and then one for each blank line behind it. -/
  lineEnds : List LineEnd

namespace WrittenRecord

/-- What the fields of a record say. -/
def texts (r : WrittenRecord) : List (List Char) := r.fields.map (·.text)

/-- The line of a record without its end. -/
def line (r : WrittenRecord) : List Char := [','].intercalate (r.fields.map (·.written))

/-- The characters behind the line of a record. -/
def ending (r : WrittenRecord) : List Char := r.lineEnds.flatMap LineEnd.text

/-- There are only line ends behind a line. -/
theorem endsLine_of_mem_ending {r : WrittenRecord} {e : Char} (he : e ∈ r.ending) :
    Marks.ofChars.endsLine e = true := by
  obtain ⟨lineEnd, -, hmem⟩ := List.mem_flatMap.mp he
  cases lineEnd <;> simp [LineEnd.text] at hmem
  · rw [hmem]
    rfl
  · rw [hmem]
    rfl
  · rcases hmem with rfl | rfl <;> rfl

/-- A record that has a line end has characters behind its line. -/
theorem ending_ne_nil {r : WrittenRecord} (h : r.lineEnds ≠ []) : r.ending ≠ [] := by
  obtain ⟨lineEnd, more, hends⟩ := List.exists_cons_of_ne_nil h
  unfold ending
  rw [hends, List.flatMap_cons]
  cases lineEnd <;> exact List.cons_ne_nil _ _

/-- A line does not start with a line end. -/
theorem head?_line {r : WrittenRecord} {c : Char} (h : r.line.head? = some c) :
    Marks.ofChars.endsLine c = false := by
  unfold line at h
  match hfields : r.fields with
  | [] =>
    rw [hfields] at h
    cases h
  | [f] =>
    rw [hfields, List.map_singleton, List.intercalate_singleton] at h
    exact f.head?_written h
  | f :: f' :: fields =>
    rw [hfields, List.map_cons, List.map_cons, List.intercalate_cons_cons, List.append_assoc] at h
    by_cases hnil : f.written = []
    · rw [hnil] at h
      obtain rfl : ',' = c := Option.some.inj h
      rfl
    · rw [List.head?_append_of_ne_nil _ hnil] at h
      exact f.head?_written h

end WrittenRecord

/-- The text of some records. -/
def document (records : List WrittenRecord) : List Char :=
  records.flatMap fun r => r.line ++ r.ending

/-- The fields of a line are read one after another. -/
theorem recordsFrom_line {fields : List WrittenField} {more : List (List (List Char))}
    (hne : fields ≠ []) (hrest : Marks.ofChars.Ended rest)
    (hmore : recordsFrom .ofChars .inField rest = [[]] :: more) :
    recordsFrom .ofChars .fieldStart ([','].intercalate (fields.map (·.written)) ++ rest) =
      fields.map (·.text) :: more := by
  have hcomma (cs : List Char) : recordsFrom .ofChars .inField (',' :: cs) =
      addField (recordsFrom .ofChars .fieldStart cs) := by
    simp [recordsFrom, Marks.ofChars, Marks.endsLine]
  induction fields with
  | nil => exact absurd rfl hne
  | cons f fields ih =>
    cases fields with
    | nil =>
      rw [List.map_singleton, List.intercalate_singleton, recordsFrom_written f hrest, hmore,
        addText_cons, List.append_nil]
      rfl
    | cons f' fields =>
      have hended (cs : List Char) : Marks.ofChars.Ended (',' :: cs) := by
        rintro c ⟨⟩
        exact .inl rfl
      rw [List.map_cons, List.map_cons, List.intercalate_cons_cons, List.append_assoc,
        List.append_assoc, List.singleton_append, recordsFrom_written f (hended _), hcomma,
        ← List.map_cons, ih (List.cons_ne_nil _ _)]
      unfold addField
      rw [addText_cons, List.append_nil, List.map_cons (l := f' :: fields)]

/-- Records are read as they were written, if each but the last has a line end and none is a blank
line. -/
theorem recordsFrom_document {records : List WrittenRecord} (hline : ∀ r ∈ records, r.line ≠ [])
    (hends : ∀ r ∈ records.dropLast, r.lineEnds ≠ []) :
    recordsFrom .ofChars .lineStart (document records) = records.map (·.texts) := by
  induction records with
  | nil => rfl
  | cons r records ih =>
    rw [List.forall_mem_cons] at hline
    have hread : recordsFrom .ofChars .lineStart (document records) = records.map (·.texts) := by
      refine ih hline.2 fun r' hr' => hends r' ?_
      cases records with
      | nil => cases hr'
      | cons r'' records => exact List.mem_cons_of_mem r hr'
    -- Without a line end the text is over behind the record.
    have hlast : r.lineEnds = [] → r.ending = [] ∧ records = [] := by
      intro hnil
      refine ⟨by rw [WrittenRecord.ending, hnil]; rfl, ?_⟩
      by_contra hmore
      refine hends r ?_ hnil
      rw [List.dropLast_cons_of_ne_nil hmore]
      exact List.mem_cons_self
    have hended : Marks.ofChars.Ended (r.ending ++ document records) := by
      intro c hc
      by_cases hnil : r.lineEnds = []
      · obtain ⟨hending, rfl⟩ := hlast hnil
        rw [hending] at hc
        cases hc
      · rw [List.head?_append_of_ne_nil _ (WrittenRecord.ending_ne_nil hnil)] at hc
        exact .inr (WrittenRecord.endsLine_of_mem_ending (List.mem_of_head? hc))
    have hmore : recordsFrom .ofChars .inField (r.ending ++ document records) =
        [[]] :: recordsFrom .ofChars .lineStart (document records) := by
      by_cases hnil : r.lineEnds = []
      · obtain ⟨hending, rfl⟩ := hlast hnil
        rw [hending]
        rfl
      · exact recordsFrom_inField_append (WrittenRecord.ending_ne_nil hnil)
          (fun e he => WrittenRecord.endsLine_of_mem_ending he) _
    have hfields : r.fields ≠ [] := by
      intro hnil
      exact hline.1 (by rw [WrittenRecord.line, hnil]; rfl)
    have hstart (cs : List Char) : recordsFrom .ofChars .lineStart (r.line ++ cs) =
        recordsFrom .ofChars .fieldStart (r.line ++ cs) := by
      obtain ⟨c, more, hcons⟩ := List.exists_cons_of_ne_nil hline.1
      rw [hcons]
      exact recordsFrom_lineStart (WrittenRecord.head?_line (by rw [hcons]; rfl)) _
    calc recordsFrom .ofChars .lineStart (document (r :: records))
        = recordsFrom .ofChars .fieldStart (r.line ++ (r.ending ++ document records)) := by
          rw [← hstart, ← List.append_assoc]
          rfl
      _ = r.texts :: recordsFrom .ofChars .lineStart (document records) :=
          recordsFrom_line hfields hended hmore
      _ = (r :: records).map (·.texts) := by rw [hread, List.map_cons]

/-! ## What the writer writes -/

/-- The record that is written for some texts: with quotation marks only where they are necessary,
which they are as well if there is nothing else on the line. -/
def WrittenRecord.ofTexts (texts : List (List Char)) : WrittenRecord where
  fields := texts.map fun cs => ⟨cs, texts == [[]] || cs.any needsQuotes, by simp +contextual⟩
  lineEnds := [.lineFeed]

/-- The record says what was to be written. -/
theorem WrittenRecord.texts_ofTexts (texts : List (List Char)) : (ofTexts texts).texts = texts := by
  unfold WrittenRecord.texts ofTexts
  rw [List.map_map]
  exact List.map_id texts

/-- The writer writes this record. -/
theorem writeRecord_eq (texts : List (List Char)) :
    writeRecord texts = (WrittenRecord.ofTexts texts).line ++
      (WrittenRecord.ofTexts texts).ending := by
  unfold writeRecord WrittenRecord.line WrittenRecord.ending WrittenRecord.ofTexts
  rw [List.map_map]
  split
  · rename_i hblank
    rw [eq_of_beq hblank]
    rfl
  · rename_i hblank
    have hwritten : ∀ cs ∈ texts, writeField cs =
        WrittenField.written ⟨cs, texts == [[]] || cs.any needsQuotes, by simp +contextual⟩ := by
      intro cs _
      simp [WrittenField.written, writeField, hblank]
    rw [List.map_congr_left hwritten]
    rfl

/-- The line of a written record is not blank. -/
theorem WrittenRecord.line_ofTexts_ne_nil {texts : List (List Char)} (h : texts ≠ []) :
    (ofTexts texts).line ≠ [] := by
  unfold line ofTexts
  rw [List.map_map]
  match texts with
  | [[]] => exact List.cons_ne_nil _ _
  | [c :: cs] =>
    rw [List.map_singleton, List.intercalate_singleton]
    change WrittenField.written _ ≠ []
    unfold WrittenField.written
    split <;> exact List.cons_ne_nil _ _
  | cs :: cs' :: texts =>
    rw [List.map_cons, List.map_cons, List.intercalate_cons_cons]
    simp

/-- What the writer writes is read back. -/
theorem recordsFrom_writeRecord {records : List (List (List Char))} (h : ∀ r ∈ records, r ≠ []) :
    recordsFrom .ofChars .lineStart (records.flatMap writeRecord) = records := by
  have hdocument : records.flatMap writeRecord = document (records.map .ofTexts) := by
    unfold document
    rw [List.flatMap_map]
    exact List.flatMap_congr fun r _ => writeRecord_eq r
  rw [hdocument, recordsFrom_document, List.map_map]
  · exact (List.map_congr_left fun r _ => WrittenRecord.texts_ofTexts r).trans (List.map_id records)
  · intro r hr
    obtain ⟨texts, htexts, rfl⟩ := List.mem_map.mp hr
    exact WrittenRecord.line_ofTexts_ne_nil (h texts htexts)
  · intro r hr
    obtain ⟨texts, -, rfl⟩ := List.mem_map.mp (List.dropLast_subset _ hr)
    exact List.cons_ne_nil _ _

end SkaterLedger.Csv
