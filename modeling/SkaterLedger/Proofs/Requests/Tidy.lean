import SkaterLedger.Proofs.Requests.Blocks

/-!
# One section of a tidy document

Reading one section of a document is not the same as reading all of it and then taking the entries
of that section. A reader of one section passes over the others, so that its entry stays open until
the section comes up again, whereas for a reader of the whole document the entry ends at the next
skater's line in any section. Lines that tell something about a skater can then go to different
entries.

In a tidy document they cannot: after a header no such line stands before the next skater's. The two
readers then differ only in when they complete an entry (`extractFrom_named`), and the entries are
the same (`extractLines_named`).
-/

namespace SkaterLedger

/-- Whether a line tells something about a skater: an event, an address, a status or a note. -/
def LineKind.isDetail : LineKind → Bool
  | event _ => true
  | contact _ => true
  | status _ => true
  | note _ => true
  | _ => false

namespace Requests

/-- The lines up to the next skater's line, all of them if there is none. -/
def upToSubject (lines : List (List Char)) : List (List Char) :=
  lines.takeWhile fun line => LineKind.ofLine line != .subject

/-- Between a header and the next skater's line no line tells something about a skater. -/
def Tidy (lines : List (List Char)) : Prop :=
  ∀ before header after, lines = before ++ header :: after →
    (LineKind.ofLine header).header?.isSome →
    ∀ line ∈ upToSubject after, (LineKind.ofLine line).isDetail = false

/-- The entries of a section. -/
def ofSection (name : String) (entries : List Entry) : List Entry :=
  entries.filter fun e => e.sectionName = some name

/-- The entries of a section among those of two lists. -/
theorem ofSection_append (name : String) (es es' : List Entry) :
    ofSection name (es ++ es') = ofSection name es ++ ofSection name es' :=
  List.filter_append _ _

/-! ## Tidy documents -/

/-- A document is tidy if the rest behind its first line is and, should that line be a header, no
detail comes before the next skater. -/
theorem tidy_cons_iff {line : List Char} {lines : List (List Char)} :
    Tidy (line :: lines) ↔ ((LineKind.ofLine line).header?.isSome →
      ∀ l ∈ upToSubject lines, (LineKind.ofLine l).isDetail = false) ∧ Tidy lines := by
  constructor
  · intro h
    exact ⟨h [] line lines rfl, fun before header after heq =>
      h (line :: before) header after (by rw [heq, List.cons_append])⟩
  · rintro ⟨hline, hlines⟩ (_ | ⟨l, before⟩) header after heq
    · obtain ⟨rfl, rfl⟩ := List.cons.inj heq
      exact hline
    · exact hlines before header after (List.cons.inj heq).2

/-- No lines are tidy. -/
theorem tidy_nil : Tidy [] := by
  intro before header after heq
  simp at heq

/-- Whether a document is tidy can be decided line by line. -/
instance decidableTidy : (lines : List (List Char)) → Decidable (Tidy lines)
  | [] => isTrue tidy_nil
  | _ :: lines =>
    have := decidableTidy lines
    decidable_of_iff' _ tidy_cons_iff

/-- Any other line than a skater's stands before the next skater's. -/
theorem upToSubject_cons {line : List Char} {lines : List (List Char)}
    (h : LineKind.ofLine line ≠ .subject) :
    upToSubject (line :: lines) = line :: upToSubject lines := by
  unfold upToSubject
  simp [h]

/-! ## Collecting details -/

/-- Collecting a line leaves the section of an entry. -/
theorem sectionName_collect (e : Entry) (kind : LineKind) :
    (collect e kind).sectionName = e.sectionName := by
  cases kind with
  | event number => cases number <;> rfl
  | _ => rfl

/-- A line that tells nothing about a skater changes no entry. -/
theorem collect_of_not_isDetail {kind : LineKind} (h : kind.isDetail = false) (e : Entry) :
    collect e kind = e := by
  cases kind with
  | event | contact | status | note => cases h
  | header | subject | other => rfl

/-! ## Two readers -/

/-- The entry `own` that a reader of one section collects and the entry `current` that a reader of
the whole document collects: as long as no skater has come neither has one, and an entry of the
section is collected by both. -/
structure InStep (name : String) (own current : Option Entry) : Prop where
  /-- Without a skater there is no entry. -/
  none : current = none → own = none
  /-- An entry of the section is the same for both. -/
  same : ∀ e, current = some e → e.sectionName = some name → own = some e

/-- What the reader of one section has yet to complete while the reader of the whole document has
already completed it: its entry, unless both collect it. -/
def held (name : String) (own current : Option Entry) : List Entry :=
  if current.bind Entry.sectionName = some name then [] else finished own

section Step

variable {name : String} {own current : Option Entry} {sectionName : Option String}
  {lines : List (List Char)}

/-- What an entry completes is in a section if the entry is. -/
theorem ofSection_finished (e : Entry) :
    ofSection name (finished (some e)) =
      if e.sectionName = some name then finished (some e) else [] := by
  cases hevents : e.events.isEmpty <;> simp [ofSection, finished, hevents, List.filter_cons]

/-- Nothing is held while both collect the same entry. -/
theorem held_of_eq {e : Entry} (h : e.sectionName = some name) : held name own (some e) = [] :=
  if_pos h

/-- While the other reader is in another section, the reader's own entry is held. -/
theorem held_of_ne {e : Entry} (h : e.sectionName ≠ some name) :
    held name own (some e) = finished own :=
  if_neg h

/-- What ends for the reader of the section is what it still holds, and what ends for the other
reader as an entry of the section. -/
theorem InStep.finished_eq (h : InStep name own current) :
    finished own = held name own current ++ ofSection name (finished current) := by
  cases current with
  | none =>
    rw [h.none rfl]
    rfl
  | some e =>
    rw [ofSection_finished]
    by_cases hsection : e.sectionName = some name
    · rw [if_pos hsection, held_of_eq hsection, h.same e rfl hsection, List.nil_append]
    · rw [if_neg hsection, held_of_ne hsection, List.append_nil]

/-- The readers are in step when a skater's line has begun an entry of the section. -/
theorem InStep.of_begun (e : Entry) : InStep name (some e) (some e) where
  none h := by cases h
  same _ h _ := h

/-- The readers stay in step when a skater's line of another section has begun an entry. -/
theorem InStep.of_other {e : Entry} (h : e.sectionName ≠ some name) : InStep name own (some e) where
  none h := by cases h
  same e' he' hsection := by
    obtain rfl := Option.some.inj he'
    exact absurd hsection h

/-! ## One line -/

/-- What is being collected, if anything, is an entry of this section. -/
def CollectsIn (sectionName : Option String) (current : Option Entry) : Prop :=
  ∀ e, current = some e → e.sectionName = sectionName

/-- The entry of the reader of one section after a skater's line. -/
def beginOwn (name : String) (sectionName : Option String) (own : Option Entry) (line : List Char) :
    Option Entry :=
  if sectionName = some name then some (beginEntry line sectionName) else own

/-- What a skater's line completes for the reader of one section. -/
def completedOwn (name : String) (sectionName : Option String) (own : Option Entry) : List Entry :=
  if sectionName = some name then finished own else []

/-- The entry of the reader of one section after a line that is no header and no skater's. -/
def collectOwn (name : String) (sectionName : Option String) (own : Option Entry)
    (kind : LineKind) : Option Entry :=
  if sectionName = some name then own.map fun e => collect e kind else own

/-- The entry that a skater's line begins is of the section that the line stands in. -/
theorem CollectsIn.beginEntry (line : List Char) (sectionName : Option String) :
    CollectsIn sectionName (some (beginEntry line sectionName)) := by
  rintro _ ⟨⟩
  rfl

/-- Collecting a line leaves the section of what is collected. -/
theorem CollectsIn.collect (h : CollectsIn sectionName current) (kind : LineKind) :
    CollectsIn sectionName (current.map fun e => collect e kind) := by
  intro e he
  obtain ⟨e', he', rfl⟩ := Option.map_eq_some_iff.mp he
  rw [sectionName_collect, h e' he']

/-- A skater's line keeps the readers in step, and what the reader of one section completes and then
holds is all that it had. -/
theorem InStep.begin (name : String) (sectionName : Option String) (own : Option Entry)
    (line : List Char) :
    InStep name (beginOwn name sectionName own line) (some (beginEntry line sectionName)) ∧
      completedOwn name sectionName own ++
        held name (beginOwn name sectionName own line) (some (beginEntry line sectionName)) =
          finished own := by
  have hbegun : (beginEntry line sectionName).sectionName = sectionName := rfl
  by_cases hsection : sectionName = some name
  · -- The line begins the same entry for both.
    rw [beginOwn, completedOwn, if_pos hsection, if_pos hsection,
      held_of_eq (hbegun.trans hsection), List.append_nil]
    exact ⟨.of_begun _, rfl⟩
  · -- It begins an entry for the reader of the whole document only; the other one keeps its own.
    rw [beginOwn, completedOwn, if_neg hsection, if_neg hsection, held_of_ne (hbegun ▸ hsection),
      List.nil_append]
    exact ⟨.of_other (hbegun ▸ hsection), rfl⟩

/-- A line that is no header and no skater's keeps the readers in step, and nothing is completed, if
the entry of a reader who is told something about a skater is of the current section. -/
theorem InStep.collect (h : InStep name own current) {kind : LineKind}
    (hfresh : kind.isDetail = true → CollectsIn sectionName current) :
    InStep name (collectOwn name sectionName own kind) (current.map fun e => collect e kind) ∧
      held name (collectOwn name sectionName own kind) (current.map fun e => collect e kind) =
        held name own current := by
  cases hdetail : kind.isDetail with
  | false =>
    have hsame : (fun e => Requests.collect e kind) = id :=
      funext fun e => collect_of_not_isDetail hdetail e
    simpa only [collectOwn, hsame, Option.map_id, id_eq, ite_self, and_true] using h
  | true =>
    cases current with
    | none =>
      obtain rfl := h.none rfl
      simpa only [collectOwn, Option.map_none, ite_self, and_true] using h
    | some e =>
      obtain rfl := hfresh hdetail e rfl
      have hcollected := sectionName_collect e kind
      by_cases hsection : e.sectionName = some name
      · -- Both collect the line into the same entry.
        obtain rfl := h.same e rfl hsection
        rw [collectOwn, if_pos hsection, Option.map_some, held_of_eq hsection,
          held_of_eq (hcollected.trans hsection)]
        exact ⟨.of_begun _, rfl⟩
      · -- Only the reader of the whole document collects it, into an entry of no account.
        rw [collectOwn, if_neg hsection, Option.map_some, held_of_ne hsection,
          held_of_ne (hcollected ▸ hsection)]
        exact ⟨.of_other (hcollected ▸ hsection), rfl⟩

/-- A skater's line, for the reader of one section. -/
theorem extractFrom_named_subject {line : List Char} (hsubject : LineKind.ofLine line = .subject) :
    extractFrom (.named name) ⟨sectionName, own⟩ (line :: lines) =
      completedOwn name sectionName own ++
        extractFrom (.named name) ⟨sectionName, beginOwn name sectionName own line⟩ lines := by
  have hheader : (LineKind.ofLine line).header? = none := by rw [hsubject]; rfl
  unfold completedOwn beginOwn
  by_cases hsection : sectionName = some name
  · rw [if_pos hsection, if_pos hsection,
      extractFrom_subject hsubject (by simp [SectionFilter.accepts, hsection])]
  · rw [if_neg hsection, if_neg hsection, List.nil_append,
      extractFrom_rejected hheader (by simp [SectionFilter.accepts, hsection])]

/-- A line that is no header and no skater's, for the reader of one section. -/
theorem extractFrom_named_detail {line : List Char}
    (hheader : (LineKind.ofLine line).header? = none) (hsubject : LineKind.ofLine line ≠ .subject) :
    extractFrom (.named name) ⟨sectionName, own⟩ (line :: lines) =
      extractFrom (.named name) ⟨sectionName, collectOwn name sectionName own (.ofLine line)⟩
        lines := by
  unfold collectOwn
  by_cases hsection : sectionName = some name
  · rw [if_pos hsection,
      extractFrom_detail hheader hsubject (by simp [SectionFilter.accepts, hsection])]
  · rw [if_neg hsection, extractFrom_rejected hheader (by simp [SectionFilter.accepts, hsection])]

/-! ## All lines -/

/-- The rest of a tidy document completes for the reader of one section what that reader holds and,
behind it, those of the entries that it completes for the reader of the whole document which are of
the section. At the start of the rest the entry that is being collected has to be of the current
section, unless no line tells anything before the next skater comes. -/
theorem extractFrom_named (htidy : Tidy lines) (hstep : InStep name own current)
    (hfresh : CollectsIn sectionName current ∨
      ∀ line ∈ upToSubject lines, (LineKind.ofLine line).isDetail = false) :
    extractFrom (.named name) ⟨sectionName, own⟩ lines =
      held name own current ++ ofSection name (extractFrom .all ⟨sectionName, current⟩ lines) := by
  induction lines generalizing sectionName own current with
  | nil => exact hstep.finished_eq
  | cons line lines ih =>
    obtain ⟨hline, htidy⟩ := tidy_cons_iff.mp htidy
    cases hheader : (LineKind.ofLine line).header? with
    | some header =>
      -- Behind a header nothing is told before the next skater.
      have hkind := LineKind.header?_eq_some_iff.mp hheader
      rw [extractFrom_header hkind, extractFrom_header hkind]
      exact ih htidy hstep (.inr (hline (by rw [hheader]; rfl)))
    | none =>
      by_cases hsubject : LineKind.ofLine line = .subject
      · -- An entry of the section that the reader of the whole document completes here is completed
        -- by the other one too, or held from here on.
        have hall : extractFrom .all ⟨sectionName, current⟩ (line :: lines) =
            finished current ++
              extractFrom .all ⟨sectionName, some (beginEntry line sectionName)⟩ lines :=
          extractFrom_subject hsubject rfl
        obtain ⟨hstep', hcompleted⟩ := InStep.begin name sectionName own line
        rw [extractFrom_named_subject hsubject, ih htidy hstep' (.inl (.beginEntry _ _)),
          ← List.append_assoc, hcompleted, hstep.finished_eq, hall, ofSection_append,
          List.append_assoc]
      · -- Both readers collect the line, or only the other one, or it tells neither anything.
        have hall : extractFrom .all ⟨sectionName, current⟩ (line :: lines) =
            extractFrom .all ⟨sectionName, current.map fun e => collect e (.ofLine line)⟩ lines :=
          extractFrom_detail hheader hsubject rfl
        rw [upToSubject_cons hsubject, List.forall_mem_cons] at hfresh
        have hown : (LineKind.ofLine line).isDetail = true → CollectsIn sectionName current :=
          fun hdetail => hfresh.resolve_right fun h => absurd hdetail (by rw [h.1]; decide)
        obtain ⟨hstep', hheld⟩ := hstep.collect hown
        rw [extractFrom_named_detail hheader hsubject,
          ih htidy hstep' (hfresh.imp (fun h => h.collect _) And.right), hheld, hall]

end Step

/-- In a tidy document the entries that a reader of one section finds are those of all entries that
are of this section, in their order. -/
theorem extractLines_named (lines : List String) (name : String)
    (htidy : Tidy (lines.map String.toList)) :
    extractLines (.named name) lines =
      (extractLines .all lines).filter fun e => e.sectionName = some name := by
  have hstart : InStep name none none := ⟨fun _ => rfl, fun _ h => by cases h⟩
  exact extractFrom_named htidy hstart (.inl fun _ h => by cases h)

/-- A document with a skater before the first header, a section that comes twice, a header right
behind another, and a line of no kind between a header and a skater. -/
theorem extractLines_named_recurring :
    let lines := ["Doe Jane", "   Event 7", "## Requested", "", "## Requested", "   three skaters",
      "Smith John", "   Event 1", "   Email: js@example.com", "## Unrequested", "Doe Jane",
      "   Event 2", "   Status: Sent", "## Requested", "Ray Ann", "   Event 5", "   Note: late"]
    Tidy (lines.map String.toList) ∧
      extractLines (.named "Requested") lines =
        (extractLines .all lines).filter fun e => e.sectionName = some "Requested" := by
  intro lines
  have htidy : Tidy (lines.map String.toList) := by decide
  exact ⟨htidy, extractLines_named lines "Requested" htidy⟩

/-- Without tidiness a line of another section can go to an entry of the section. -/
example :
    let lines := ["## Requested", "Smith John", "   Event 1", "## Unrequested", "   Event 2",
      "Doe Jane", "   Event 3"]
    (extractLines (.named "Requested") lines).map Entry.events = [[1]] ∧
      ((extractLines .all lines).filter fun e => e.sectionName = some "Requested").map
        Entry.events = [[1, 2]] := by
  decide

end Requests

end SkaterLedger
