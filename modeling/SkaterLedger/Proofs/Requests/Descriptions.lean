import SkaterLedger.Proofs.Requests.Blocks
import SkaterLedger.Proofs.Requests.Kinds

/-!
# Documents that are read back

What can be said about a skater in a requests document is a `Description`, and a `Passage` is one
way of writing it down: the details follow the skater's line in any order that keeps events and
notes in theirs. `extract_document` shows that reading a document written in this way gives the
entries that its descriptions describe, whatever the fields contain.

Every detail line is a keyword behind blanks, and then its field. No keyword that is tried earlier
occurs in it: what stands before the field lacks the first letter of the other keywords, and the
field is either free of them (a note, a status) or comes behind the keyword that is tried first (an
address). The reader carries the section and the entry being collected from line to line, so that a
whole passage acts on them in one step (`extractFrom_passage`), and the document is read by
induction on its passages.
-/

namespace SkaterLedger.Requests

/-! ## Descriptions and how they are written -/

/-- A text that fits in a field: it is trimmed and on one line. -/
structure IsField (s : String) : Prop where
  /-- There are no blanks at either end. -/
  trimmed : Text.trim s.toList = s.toList
  /-- There is no line feed. -/
  oneLine : '\n' ∉ s.toList

/-- What a document can say about a skater. -/
structure Description where
  /-- The section that the skater is listed in. -/
  sectionName : Option String
  /-- The last name. -/
  lastName : String
  /-- The first name. -/
  firstName : String
  /-- The numbers of the events. -/
  events : List ℕ
  /-- The address to write to. -/
  email : Option String
  /-- The state of the gallery. -/
  status : Option WrittenStatus
  /-- The notes. -/
  notes : List String
  /-- The section's name is a field without the marker of headers. -/
  sectionName_valid : ∀ name ∈ sectionName, IsField name ∧ ¬ "##".toList <:+: name.toList
  /-- The last name starts with an upper-case letter. -/
  lastName_upper : ∃ c cs, lastName.toList = c :: cs ∧ Text.isUppercase c = true
  /-- The last name is one word. -/
  lastName_word : ∀ c ∈ lastName.toList, Text.isBlank c = false
  /-- The first name is a field. -/
  firstName_valid : IsField firstName
  /-- There is a first name. -/
  firstName_ne_empty : firstName ≠ ""
  /-- There is an event. -/
  events_ne_nil : events ≠ []
  /-- Event numbers fit in 32 bits. -/
  events_lt : ∀ n ∈ events, n < 2 ^ 32
  /-- The address is a field that is not empty. -/
  email_valid : ∀ address ∈ email, IsField address ∧ address ≠ ""
  /-- Notes are fields without the keywords that are tried before theirs. -/
  notes_valid : ∀ text ∈ notes,
    IsField text ∧ ¬ "Email:".toList <:+: text.toList ∧ ¬ "Status:".toList <:+: text.toList

/-- The entry that a description describes. -/
def Description.entry (d : Description) : Entry where
  firstName := d.firstName
  lastName := d.lastName
  events := d.events
  email := d.email
  status := d.status.elim .pending fun s => s.reading.status
  grossAmount := d.status.bind fun s => s.reading.gross
  netAmount := d.status.bind fun s => s.reading.net
  notes := d.notes
  sectionName := d.sectionName

/-- What one line below a skater's says. -/
inductive Detail where
  /-- An event is asked for. -/
  | event (number : ℕ)
  /-- There is an address to write to. -/
  | email (address : String)
  /-- The gallery has a status. -/
  | status (written : WrittenStatus)
  /-- Something else is noted. -/
  | note (text : String)

namespace Detail

/-- The number of an event. -/
def event? : Detail → Option ℕ
  | event number => some number
  | _ => none

/-- An address. -/
def email? : Detail → Option String
  | email address => some address
  | _ => none

/-- A status. -/
def status? : Detail → Option WrittenStatus
  | status written => some written
  | _ => none

/-- The text of a note. -/
def note? : Detail → Option String
  | note text => some text
  | _ => none

/-- The word that a detail begins with. -/
def keyword : Detail → List Char
  | event _ => "Event".toList
  | email _ => "Email:".toList
  | status _ => "Status:".toList
  | note _ => "Note:".toList

/-- What a detail says behind its keyword. -/
def field : Detail → List Char
  | event number => Text.decimal number
  | email address => address.toList
  | status written => written.text
  | note text => text.toList

/-- What a line with a detail is to be read as. -/
def kind : Detail → LineKind
  | event number => .event (some number)
  | email address => .contact (some address)
  | status written => .status written.reading
  | note text => .note text

end Detail

/-- A detail on a line of its own. -/
structure DetailLine where
  /-- The blanks in front of the detail. -/
  indent : List Char
  /-- The detail. -/
  detail : Detail
  /-- There is a blank in front. -/
  indent_ne_nil : indent ≠ []
  /-- In front there are only blanks. -/
  indent_blank : ∀ c ∈ indent, Text.isBlank c = true
  /-- The blanks in front do not end the line. -/
  indent_oneLine : '\n' ∉ indent

/-- The text of a line with a detail. -/
def DetailLine.text (l : DetailLine) : List Char :=
  l.indent ++ (l.detail.keyword ++ ' ' :: l.detail.field)

/-- A description as it is written down: its details in an order that keeps events and notes in
theirs. -/
structure Passage where
  /-- What is written. -/
  description : Description
  /-- The lines below the skater's. -/
  details : List DetailLine
  /-- The events are written in their order. -/
  events_eq : details.filterMap (fun l => l.detail.event?) = description.events
  /-- The address is written if there is one. -/
  email_eq : details.filterMap (fun l => l.detail.email?) = description.email.toList
  /-- The status is written if there is one. -/
  status_eq : details.filterMap (fun l => l.detail.status?) = description.status.toList
  /-- The notes are written in their order. -/
  notes_eq : details.filterMap (fun l => l.detail.note?) = description.notes

namespace Passage

/-- The header of a section. -/
def headerLine (name : String) : List Char := "## ".toList ++ name.toList

/-- The line of a skater. -/
def subjectLine (d : Description) : List Char := d.lastName.toList ++ ' ' :: d.firstName.toList

/-- The lines of a passage. -/
def lines (p : Passage) : List (List Char) :=
  (p.description.sectionName.map headerLine).toList ++
    subjectLine p.description :: p.details.map DetailLine.text

end Passage

/-- A document of passages. -/
def document (passages : List Passage) : List Char := Text.unlines (passages.flatMap Passage.lines)

/-! ## What the lines are read as -/

/-- A header is read as one. -/
theorem ofLine_headerLine {name : String} (hname : IsField name)
    (hfree : ¬ "##".toList <:+: name.toList) :
    LineKind.ofLine (Passage.headerLine name) = .header name := by
  have hmarker : Text.trimEnd LineKind.sectionMarker = LineKind.sectionMarker := rfl
  have htrimEnd : Text.trimEnd (Passage.headerLine name) =
      LineKind.sectionMarker ++ Text.trimEnd (' ' :: name.toList) :=
    Text.trimEnd_append_of_trimEnd hmarker
  have hnone : Text.occursIn LineKind.sectionMarker (Text.trimEnd (' ' :: name.toList)) = false :=
    LineKind.occursIn_trimEnd_cons (by decide) hfree
  have hremove : Text.removeAll LineKind.sectionMarker
      (LineKind.sectionMarker ++ Text.trimEnd (' ' :: name.toList)) =
      Text.trimEnd (' ' :: name.toList) :=
    (Text.removeAll_append List.not_mem_nil).trans (Text.removeAll_of_not_occursIn hnone)
  unfold LineKind.ofLine LineKind.ofTrimmed
  rw [htrimEnd, Text.isPrefixOf_append, if_pos rfl, hremove,
    Text.trim_trimEnd_cons rfl hname.trimmed, String.ofList_toList]

section Subject

variable (d : Description)

/-- A skater's line is trimmed. -/
theorem trim_subjectLine :
    Text.trimEnd (Passage.subjectLine d) = Passage.subjectLine d ∧
      Text.trim (Passage.subjectLine d) = Passage.subjectLine d := by
  obtain ⟨c, cs, hlast, -⟩ := d.lastName_upper
  have hblank : Text.isBlank c = false := d.lastName_word c (hlast ▸ List.mem_cons_self)
  have hend : Text.trimEnd (Passage.subjectLine d) = Passage.subjectLine d := by
    have hfirst : Text.trimEnd (' ' :: d.firstName.toList) = ' ' :: d.firstName.toList :=
      Text.trimEnd_cons_of_trim d.firstName_valid.trimmed fun hnil =>
        d.firstName_ne_empty (String.toList_eq_nil_iff.mp hnil)
    unfold Passage.subjectLine
    rw [Text.trimEnd_append (by rw [hfirst]; exact List.cons_ne_nil _ _), hfirst]
  have hstart : Text.trimStart (Passage.subjectLine d) = Passage.subjectLine d := by
    unfold Passage.subjectLine
    rw [hlast, List.cons_append, Text.trimStart_cons hblank]
  refine ⟨hend, ?_⟩
  unfold Text.trim
  rw [hstart, hend]

/-- A skater's line is read as one. -/
theorem ofLine_subjectLine : LineKind.ofLine (Passage.subjectLine d) = .subject := by
  obtain ⟨c, cs, hlast, hupper⟩ := d.lastName_upper
  have hmarker : LineKind.sectionMarker.isPrefixOf (Passage.subjectLine d) = false := by
    unfold Passage.subjectLine
    rw [hlast]
    refine Text.isPrefixOf_cons_of_ne ?_
    rintro rfl
    cases hupper
  have hsubject : LineKind.isSubject (Passage.subjectLine d) = true := by
    unfold Passage.subjectLine
    rw [hlast]
    exact hupper
  unfold LineKind.ofLine LineKind.ofTrimmed
  rw [(trim_subjectLine d).1, hmarker, if_neg Bool.false_ne_true, hsubject, if_pos rfl]

/-- A skater's line begins an entry of the skater's name. -/
theorem beginEntry_subjectLine (sectionName : Option String) :
    beginEntry (Passage.subjectLine d) sectionName = .named d.firstName d.lastName sectionName := by
  have hcut : Text.cutAtBlank (Passage.subjectLine d) =
      some (d.lastName.toList, d.firstName.toList) :=
    Text.cutAtBlank_append_cons d.lastName_word rfl
  have hnames : Entry.namesOfLine (Passage.subjectLine d) = (d.firstName, d.lastName) := by
    unfold Entry.namesOfLine
    simp [(trim_subjectLine d).2, hcut, d.firstName_valid.trimmed]
  unfold beginEntry
  rw [(trim_subjectLine d).1, hnames]

end Subject

/-- A detail that a description can have. -/
def Detail.Valid : Detail → Prop
  | event number => number < 2 ^ 32
  | email address => IsField address ∧ address ≠ ""
  | status _ => True
  | note text =>
    IsField text ∧ ¬ "Email:".toList <:+: text.toList ∧ ¬ "Status:".toList <:+: text.toList

/-- What is left of a detail line: only blanks behind a keyword without a field are lost. -/
theorem DetailLine.trimEnd_text (l : DetailLine) : Text.trimEnd l.text =
    l.indent ++ (l.detail.keyword ++ Text.trimEnd (' ' :: l.detail.field)) := by
  obtain ⟨k, ks, hkeyword, hend⟩ :
      ∃ k ks, l.detail.keyword = k :: ks ∧ Text.trimEnd l.detail.keyword = l.detail.keyword := by
    cases l.detail <;> exact ⟨_, _, rfl, rfl⟩
  have hbody : Text.trimEnd (l.detail.keyword ++ ' ' :: l.detail.field) =
      l.detail.keyword ++ Text.trimEnd (' ' :: l.detail.field) :=
    Text.trimEnd_append_of_trimEnd hend
  unfold text
  rw [Text.trimEnd_append (by rw [hbody, hkeyword]; exact List.cons_ne_nil _ _), hbody]

/-- A detail line is read as its detail. -/
theorem DetailLine.ofLine_text {l : DetailLine} (h : l.detail.Valid) :
    LineKind.ofLine l.text = l.detail.kind := by
  have hspace : Text.isBlank ' ' = true := rfl
  unfold LineKind.ofLine
  rw [trimEnd_text]
  cases hdetail : l.detail with
  | event number =>
    rw [hdetail] at h
    unfold Detail.keyword Detail.field
    dsimp only
    rw [LineKind.trimEnd_cons_decimal]
    exact LineKind.ofTrimmed_event l.indent_ne_nil l.indent_blank h
  | email address =>
    rw [hdetail] at h
    exact LineKind.ofTrimmed_contact l.indent_ne_nil l.indent_blank
      (Text.trim_trimEnd_cons hspace h.1.trimmed) h.2
  | status written =>
    unfold Detail.keyword Detail.field
    dsimp only
    rw [Text.trimEnd_cons_of_trim written.trim_text written.text_ne_nil]
    exact LineKind.ofTrimmed_status l.indent_ne_nil l.indent_blank written
  | note text =>
    rw [hdetail] at h
    exact LineKind.ofTrimmed_note l.indent_ne_nil l.indent_blank
      (Text.trim_trimEnd_cons hspace h.1.trimmed) (LineKind.occursIn_trimEnd_cons (by decide) h.2.1)
      (LineKind.occursIn_trimEnd_cons (by decide) h.2.2)

/-- A detail line is not empty and contains no line feed. -/
theorem DetailLine.text_valid {l : DetailLine} (h : l.detail.Valid) :
    l.text ≠ [] ∧ '\n' ∉ l.text := by
  have hkeyword : '\n' ∉ l.detail.keyword := by
    unfold Detail.keyword
    cases l.detail <;> dsimp only <;> decide
  have hfield : '\n' ∉ l.detail.field := by
    cases hdetail : l.detail with
    | event number =>
      exact fun hmem => absurd (Text.isAsciiDigit_of_mem_decimal hmem) (by decide)
    | email address =>
      rw [hdetail] at h
      exact h.1.oneLine
    | status written =>
      exact WrittenStatus.not_mem_text_of_alphabet (by decide) (by decide) (by decide) written
    | note text =>
      rw [hdetail] at h
      exact h.1.oneLine
  refine ⟨List.append_ne_nil_of_left_ne_nil l.indent_ne_nil _, ?_⟩
  exact List.not_mem_append l.indent_oneLine (List.not_mem_append hkeyword
    (List.not_mem_cons_of_ne_of_not_mem (by decide) hfield))

/-! ## Reading passages -/

/-- Only what is left of lines without the blanks at their ends counts. -/
theorem extractFrom_map_trimEnd (filter : SectionFilter) (state : State)
    (lines : List (List Char)) :
    extractFrom filter state (lines.map Text.trimEnd) = extractFrom filter state lines := by
  have hkind (line : List Char) : LineKind.ofLine (Text.trimEnd line) = LineKind.ofLine line := by
    unfold LineKind.ofLine
    rw [Text.trimEnd_trimEnd]
  have hbegin (line : List Char) (sectionName : Option String) :
      beginEntry (Text.trimEnd line) sectionName = beginEntry line sectionName := by
    unfold beginEntry
    rw [Text.trimEnd_trimEnd]
  induction lines generalizing state with
  | nil => rfl
  | cons line lines ih => exact extractFrom_cons_congr (hkind line) (fun _ => hbegin line) ih state

namespace Passage

variable {p : Passage}

/-- The details of a passage are such as a description can have. -/
theorem valid_of_mem {l : DetailLine} (h : l ∈ p.details) : l.detail.Valid := by
  cases hdetail : l.detail with
  | event number =>
    have hmem : number ∈ p.details.filterMap fun l => l.detail.event? :=
      List.mem_filterMap.mpr ⟨l, h, by rw [hdetail]; rfl⟩
    exact p.description.events_lt number (p.events_eq ▸ hmem)
  | email address =>
    have hmem : address ∈ p.details.filterMap fun l => l.detail.email? :=
      List.mem_filterMap.mpr ⟨l, h, by rw [hdetail]; rfl⟩
    rw [p.email_eq, Option.mem_toList] at hmem
    exact p.description.email_valid address hmem
  | status written => trivial
  | note text =>
    have hmem : text ∈ p.details.filterMap fun l => l.detail.note? :=
      List.mem_filterMap.mpr ⟨l, h, by rw [hdetail]; rfl⟩
    exact p.description.notes_valid text (p.notes_eq ▸ hmem)

/-- What the lines below the skater's say. -/
def kinds (p : Passage) : List LineKind := p.details.map fun l => l.detail.kind

/-- The details of a passage make up the entry that it describes. -/
theorem foldl_collect_kinds (p : Passage) :
    p.kinds.foldl collect (.named p.description.firstName p.description.lastName
      p.description.sectionName) = p.description.entry := by
  have hevents : p.kinds.filterMap LineKind.number? = p.description.events := by
    have hkind (d : Detail) : d.kind.number? = d.event? := by cases d <;> rfl
    simpa [kinds, List.filterMap_map, Function.comp_def, hkind] using p.events_eq
  have hemail : p.kinds.filterMap LineKind.address? = p.description.email.toList.map some := by
    have hkind (d : Detail) : d.kind.address? = d.email?.map some := by cases d <;> rfl
    rw [← p.email_eq, List.map_filterMap]
    simp [kinds, List.filterMap_map, hkind]
  have hstatus : p.kinds.filterMap LineKind.reading? =
      p.description.status.toList.map WrittenStatus.reading := by
    have hkind (d : Detail) : d.kind.reading? = d.status?.map WrittenStatus.reading := by
      cases d <;> rfl
    rw [← p.status_eq, List.map_filterMap]
    simp [kinds, List.filterMap_map, hkind]
  have hnotes : p.kinds.filterMap LineKind.note? = p.description.notes := by
    have hkind (d : Detail) : d.kind.note? = d.note? := by cases d <;> rfl
    simpa [kinds, List.filterMap_map, Function.comp_def, hkind] using p.notes_eq
  rw [foldl_collect, hevents, hemail, hstatus, hnotes]
  unfold Description.entry
  cases p.description.email <;> cases p.description.status <;>
    simp [Entry.named, Entry.withStatus]

/-- The details of a passage are collected into the entry that is open. -/
theorem extractFrom_details {details : List DetailLine} (h : ∀ l ∈ details, l.detail.Valid)
    (sectionName : Option String) (e : Entry) (rest : List (List Char)) :
    extractFrom .all ⟨sectionName, some e⟩ (details.map DetailLine.text ++ rest) =
      extractFrom .all ⟨sectionName,
        some ((details.map fun l => l.detail.kind).foldl collect e)⟩ rest := by
  induction details generalizing e with
  | nil => rfl
  | cons l details ih =>
    rw [List.forall_mem_cons] at h
    have hkind := DetailLine.ofLine_text h.1
    have hheader : (LineKind.ofLine l.text).header? = none := by
      rw [hkind]
      cases l.detail <;> rfl
    have hsubject : LineKind.ofLine l.text ≠ .subject := by
      rw [hkind]
      cases l.detail <;> exact nofun
    rw [List.map_cons, List.cons_append, extractFrom_detail hheader hsubject rfl, hkind]
    exact ih h.2 _

/-- A passage completes the entry that is being collected and leaves its own open. The section is
the one of the passage's header; without one, there must not have been any before. -/
theorem extractFrom_lines {sectionName : Option String} (current : Option Entry)
    (hsection : sectionName.isSome → p.description.sectionName.isSome)
    (rest : List (List Char)) :
    extractFrom .all ⟨sectionName, current⟩ (p.lines ++ rest) =
      finished current ++
        extractFrom .all ⟨p.description.sectionName, some p.description.entry⟩ rest := by
  have hbody : extractFrom .all ⟨p.description.sectionName, current⟩
      (subjectLine p.description :: p.details.map DetailLine.text ++ rest) =
      finished current ++
        extractFrom .all ⟨p.description.sectionName, some p.description.entry⟩ rest := by
    rw [List.cons_append, extractFrom_subject (ofLine_subjectLine p.description) rfl,
      beginEntry_subjectLine]
    dsimp only
    rw [extractFrom_details (fun l hl => valid_of_mem hl), ← foldl_collect_kinds]
    rfl
  unfold lines
  cases hname : p.description.sectionName with
  | none =>
    have hnone : sectionName = none := by simpa [hname] using hsection
    rw [hname] at hbody
    rw [hnone]
    exact hbody
  | some name =>
    have hvalid := p.description.sectionName_valid name hname
    rw [hname] at hbody
    rw [Option.map_some, Option.toList_some, List.singleton_append, List.cons_append,
      extractFrom_header (ofLine_headerLine hvalid.1 hvalid.2)]
    exact hbody

/-- The entry of a passage is complete when it ends. -/
theorem finished_description (p : Passage) :
    finished (some p.description.entry) = [p.description.entry] :=
  if_neg fun hempty => p.description.events_ne_nil (List.isEmpty_iff.mp hempty)

/-- Passages are read one after another. -/
theorem extractFrom_flatMap_lines {passages : List Passage} {sectionName : Option String}
    (current : Option Entry)
    (hstart : sectionName.isSome → ∀ p ∈ passages, p.description.sectionName.isSome)
    (hsections : passages.Pairwise fun p q =>
      p.description.sectionName.isSome → q.description.sectionName.isSome) :
    extractFrom .all ⟨sectionName, current⟩ (passages.flatMap lines) =
      finished current ++ passages.map fun p => p.description.entry := by
  -- The entry of the passage before is open until the next skater's line, or until the end.
  induction passages generalizing sectionName current with
  | nil => rw [List.flatMap_nil, extractFrom, List.map_nil, List.append_nil]
  | cons p passages ih =>
    rw [List.pairwise_cons] at hsections
    have hsection (h : sectionName.isSome) : p.description.sectionName.isSome :=
      hstart h p List.mem_cons_self
    rw [List.flatMap_cons, extractFrom_lines current hsection,
      ih _ (fun h q hq => hsections.1 q hq h) hsections.2, finished_description]
    rfl

/-- No line of a passage is empty, and none contains a line feed. -/
theorem line_valid {line : List Char} (h : line ∈ p.lines) : line ≠ [] ∧ '\n' ∉ line := by
  have hname : ∀ name ∈ p.description.sectionName,
      headerLine name ≠ [] ∧ '\n' ∉ headerLine name := by
    intro name hname
    exact ⟨List.cons_ne_nil _ _, List.not_mem_append (by decide)
      (p.description.sectionName_valid name hname).1.oneLine⟩
  have hsubject : subjectLine p.description ≠ [] ∧ '\n' ∉ subjectLine p.description := by
    have hlast : '\n' ∉ p.description.lastName.toList := fun hmem =>
      absurd (p.description.lastName_word _ hmem) (by decide)
    refine ⟨by simp [subjectLine], List.not_mem_append hlast ?_⟩
    exact List.not_mem_cons_of_ne_of_not_mem (by decide) p.description.firstName_valid.oneLine
  have hdetails : ∀ l ∈ p.details, l.text ≠ [] ∧ '\n' ∉ l.text := fun l hl =>
    DetailLine.text_valid (valid_of_mem hl)
  unfold lines at h
  rw [List.mem_append, List.mem_cons, List.mem_map, Option.mem_toList,
    Option.map_eq_some_iff] at h
  rcases h with ⟨name, hmem, rfl⟩ | rfl | ⟨l, hl, rfl⟩
  · exact hname name hmem
  · exact hsubject
  · exact hdetails l hl

end Passage

/-- A document of passages is read as the entries that they describe, in their order, if those
without a section come first; the last line may lack its line feed. -/
theorem extract_document {passages : List Passage}
    (hsections : passages.Pairwise fun p q =>
      p.description.sectionName.isSome → q.description.sectionName.isSome) :
    extract .all (String.ofList (document passages)) =
        passages.map (fun p => p.description.entry) ∧
      extract .all (String.ofList (document passages).dropLast) =
        passages.map (fun p => p.description.entry) := by
  have hlines : ∀ line ∈ passages.flatMap Passage.lines, line ≠ [] ∧ '\n' ∉ line := by
    intro line hline
    obtain ⟨p, -, hp⟩ := List.mem_flatMap.mp hline
    exact Passage.line_valid hp
  have hread {cs : List Char} (h : (Text.lines cs).map Text.trimEnd =
      (passages.flatMap Passage.lines).map Text.trimEnd) :
      extract .all (String.ofList cs) = passages.map fun p => p.description.entry := by
    unfold extract
    rw [String.toList_ofList, ← extractFrom_map_trimEnd, h, extractFrom_map_trimEnd]
    exact Passage.extractFrom_flatMap_lines none nofun hsections
  exact ⟨hread (Text.map_trimEnd_lines_unlines fun l hl => (hlines l hl).2),
    hread (Text.map_trimEnd_lines_dropLast (fun l hl => (hlines l hl).2)
      fun l hl => (hlines l hl).1)⟩

/-- A detail behind three spaces. -/
def DetailLine.indented (d : Detail) : DetailLine :=
  ⟨"   ".toList, d, by decide, List.all_eq_true.mp rfl, by decide⟩

/-- A passage before the first header, without a status. -/
def Passage.unlisted : Passage where
  description := {
    sectionName := none
    lastName := "Doe"
    firstName := "Jane Ann"
    events := [5]
    email := none
    status := none
    notes := []
    sectionName_valid := nofun
    lastName_upper := ⟨'D', ['o', 'e'], rfl, rfl⟩
    lastName_word := Text.forall_isBlank_eq_false rfl
    firstName_valid := ⟨rfl, by decide⟩
    firstName_ne_empty := by decide
    events_ne_nil := by decide
    events_lt := by decide
    email_valid := nofun
    notes_valid := nofun
  }
  details := [.indented (.event 5)]
  events_eq := rfl
  email_eq := rfl
  status_eq := rfl
  notes_eq := rfl

/-- The amount with some digits before the point and some behind it. -/
def Passage.amount (whole fraction : String) (hne : whole.toList.isEmpty = false)
    (hwhole : whole.toList.all Text.isAsciiDigit = true)
    (hfraction : fraction.toList.all Text.isAsciiDigit = true) : WrittenAmount where
  whole := whole.toList
  fraction := some fraction.toList
  whole_ne_nil := List.isEmpty_eq_false_iff.mp hne
  whole_digits := List.all_eq_true.mp hwhole
  fraction_digits := by
    rintro ds ⟨⟩
    exact List.all_eq_true.mp hfraction

/-- The status of a gallery that was bought. -/
def Passage.bought : WrittenStatus :=
  .purchasedFull (amount "45" "10" rfl rfl rfl) (amount "38" "35" rfl rfl rfl)

/-- A passage that mixes its details, with a note that looks like other details. -/
def Passage.mixed : Passage where
  description := {
    sectionName := some "Requested"
    lastName := "Smith"
    firstName := "John"
    events := [3, 7]
    email := some "smith@example.com"
    status := some Passage.bought
    notes := ["Event 9 was $20.00 net"]
    sectionName_valid := by
      rintro name ⟨⟩
      exact ⟨⟨rfl, by decide⟩, by decide⟩
    lastName_upper := ⟨'S', ['m', 'i', 't', 'h'], rfl, rfl⟩
    lastName_word := Text.forall_isBlank_eq_false rfl
    firstName_valid := ⟨rfl, by decide⟩
    firstName_ne_empty := by decide
    events_ne_nil := by decide
    events_lt := by decide
    email_valid := by
      rintro address ⟨⟩
      exact ⟨⟨rfl, by decide⟩, by decide⟩
    notes_valid := List.forall_mem_singleton.mpr ⟨⟨rfl, by decide⟩, by decide, by decide⟩
  }
  details := [.indented (.note "Event 9 was $20.00 net"), .indented (.event 3),
    .indented (.status Passage.bought), .indented (.email "smith@example.com"),
    .indented (.event 7)]
  events_eq := rfl
  email_eq := rfl
  status_eq := rfl
  notes_eq := rfl

/-- The passages are read back from the text in which they are written. -/
theorem extract_document_mixed :
    extract .all
        ("Doe Jane Ann\n   Event 5\n## Requested\nSmith John\n   Note: Event 9 was $20.00 net\n" ++
          "   Event 3\n   Status: Purchased - $45.10 (Net: $38.35)\n" ++
          "   Email: smith@example.com\n   Event 7\n") =
      [⟨"Jane Ann", "Doe", [5], none, .pending, none, none, [], none⟩,
        ⟨"John", "Smith", [3, 7], some "smith@example.com", .purchased,
          some ⟨false, .ofRank 4631544078034324685⟩, some ⟨false, .ofRank 4630594099987926221⟩,
          ["Event 9 was $20.00 net"], some "Requested"⟩] := by
  have hsections : [Passage.unlisted, .mixed].Pairwise fun p q =>
      p.description.sectionName.isSome → q.description.sectionName.isSome := by
    decide
  have hread := (extract_document hsections).1
  have htext : String.ofList (document [Passage.unlisted, .mixed]) =
      "Doe Jane Ann\n   Event 5\n## Requested\nSmith John\n   Note: Event 9 was $20.00 net\n" ++
        "   Event 3\n   Status: Purchased - $45.10 (Net: $38.35)\n" ++
        "   Email: smith@example.com\n   Event 7\n" := by
    decide +kernel
  have hentries : [Passage.unlisted, .mixed].map (fun p => p.description.entry) =
      [⟨"Jane Ann", "Doe", [5], none, .pending, none, none, [], none⟩,
        ⟨"John", "Smith", [3, 7], some "smith@example.com", .purchased,
          some ⟨false, .ofRank 4631544078034324685⟩, some ⟨false, .ofRank 4630594099987926221⟩,
          ["Event 9 was $20.00 net"], some "Requested"⟩] := by
    decide +kernel
  rw [← htext, ← hentries]
  exact hread

end SkaterLedger.Requests
