import Mathlib.Data.List.Basic
import SkaterLedger.Requests.Document

/-!
# A document as blocks of lines

The entries of a document can be read off without going through it line by line: headers and the
lines of sections that are not asked for are dropped, every skater's line that remains opens a block
which reaches to the next one, and each block gives the entry that its lines describe. `entry?` is
this reading of a block, and `extractLines_eq_blocks` shows that the entries are those of the blocks.

The reader carries the current section and the entry that is being collected from line to line. In
terms of blocks these are the last header before the line and the block that is still open, whose
further lines are the remaining ones up to the next skater's (`extractFrom_eq`).
-/

namespace SkaterLedger

namespace LineKind

/-- The name on a header. -/
def header? : LineKind → Option String
  | header name => some name
  | _ => none

/-- The number on an event line, if it can be read. -/
def number? : LineKind → Option Nat
  | event number => number
  | _ => none

/-- The address on a contact line, which may lack one. -/
def address? : LineKind → Option (Option String)
  | contact email => some email
  | _ => none

/-- The status and amounts on a status line. -/
def reading? : LineKind → Option StatusReading
  | status reading => some reading
  | _ => none

/-- The text on a note line. -/
def note? : LineKind → Option String
  | note text => some text
  | _ => none

/-- Only a header has a name on it. -/
theorem header?_eq_some_iff {kind : LineKind} {name : String} :
    kind.header? = some name ↔ kind = header name := by
  cases kind <;> simp [header?]

end LineKind

namespace Requests

/-- A line of a document with the section that governs it. -/
structure PlacedLine where
  /-- The name of the section, `none` before the first header. -/
  sectionName : Option String
  /-- The line. -/
  text : List Char
deriving DecidableEq, Repr

/-- What a line says. -/
def PlacedLine.kind (l : PlacedLine) : LineKind := .ofLine l.text

/-- The name on the last header among some lines. -/
def lastHeader? (lines : List (List Char)) : Option String :=
  (lines.filterMap fun line => (LineKind.ofLine line).header?).getLast?

/-- Lines that follow some others, each with the name of the nearest header before it. -/
def placedAfter (before lines : List (List Char)) : List PlacedLine :=
  lines.zipIdx.map fun (line, i) => ⟨lastHeader? (before ++ lines.take i), line⟩

/-- Whether a line remains: it is no header, and the filter accepts its section. -/
def PlacedLine.remains (filter : SectionFilter) (l : PlacedLine) : Bool :=
  l.kind.header?.isNone && filter.accepts l.sectionName

/-- The lines of a document that remain. -/
def remaining (filter : SectionFilter) (lines : List (List Char)) : List PlacedLine :=
  (placedAfter [] lines).filter (·.remains filter)

/-- A skater's line and the lines up to the next one. -/
structure Block where
  /-- The skater's line. -/
  subject : PlacedLine
  /-- The other lines. -/
  details : List PlacedLine
deriving DecidableEq, Repr

/-- The lines up to the next skater's line. -/
def untilSubject (lines : List PlacedLine) : List PlacedLine :=
  lines.takeWhile fun l => l.kind != .subject

/-- The blocks of some lines: each skater's line opens one. -/
def blocks : List PlacedLine → List Block
  | [] => []
  | l :: lines =>
    if l.kind == .subject then ⟨l, untilSubject lines⟩ :: blocks lines else blocks lines

namespace Block

/-- What the lines after the skater's say. -/
def kinds (b : Block) : List LineKind := b.details.map PlacedLine.kind

/-- The status and amounts of the last status line, pending without one. -/
def reading (b : Block) : StatusReading :=
  (b.kinds.filterMap LineKind.reading?).getLast?.getD ⟨.pending, none, none⟩

/-- The entry that the lines of a block describe. -/
def entry (b : Block) : Entry where
  firstName := (Entry.namesOfLine (Text.trimEnd b.subject.text)).1
  lastName := (Entry.namesOfLine (Text.trimEnd b.subject.text)).2
  events := b.kinds.filterMap LineKind.number?
  email := (b.kinds.filterMap LineKind.address?).getLast?.getD none
  status := b.reading.status
  grossAmount := b.reading.gross
  netAmount := b.reading.net
  notes := b.kinds.filterMap LineKind.note?
  sectionName := b.subject.sectionName

/-- The entry of a block, none if no event number can be read. -/
def entry? (b : Block) : Option Entry :=
  if b.entry.events = [] then none else some b.entry

end Block

/-! ## Placing lines -/

/-- A header is the last one of the lines that it ends. -/
theorem lastHeader?_append_header {before : List (List Char)} {line : List Char} {name : String}
    (h : LineKind.ofLine line = .header name) : lastHeader? (before ++ [line]) = some name := by
  simp [lastHeader?, h, LineKind.header?]

/-- Another line changes nothing about the last header. -/
theorem lastHeader?_append_other {before : List (List Char)} {line : List Char}
    (h : (LineKind.ofLine line).header? = none) :
    lastHeader? (before ++ [line]) = lastHeader? before := by
  simp [lastHeader?, h]

/-- The first line is governed by the last header before it, and stands itself before the others. -/
theorem placedAfter_cons (before lines : List (List Char)) (line : List Char) :
    placedAfter before (line :: lines) =
      ⟨lastHeader? before, line⟩ :: placedAfter (before ++ [line]) lines := by
  simp [placedAfter, List.zipIdx_cons, List.zipIdx_succ, Function.comp_def]

/-! ## Lines in blocks -/

section Blocks

variable {l : PlacedLine} {lines : List PlacedLine}

/-- A skater's line ends the block before it. -/
theorem untilSubject_cons_subject (h : l.kind = .subject) : untilSubject (l :: lines) = [] := by
  unfold untilSubject
  simp [h]

/-- Any other line belongs to the block before it. -/
theorem untilSubject_cons_detail (h : l.kind ≠ .subject) :
    untilSubject (l :: lines) = l :: untilSubject lines := by
  unfold untilSubject
  simp [h]

/-- A skater's line opens a block. -/
theorem blocks_cons_subject (h : l.kind = .subject) :
    blocks (l :: lines) = ⟨l, untilSubject lines⟩ :: blocks lines := by
  rw [blocks]
  simp [h]

/-- Any other line opens none. -/
theorem blocks_cons_detail (h : l.kind ≠ .subject) : blocks (l :: lines) = blocks lines := by
  rw [blocks]
  simp [h]

end Blocks

/-- Lines before the first skater's line belong to no block. -/
theorem blocks_dropWhile (lines : List PlacedLine) :
    blocks (lines.dropWhile fun l => l.kind != .subject) = blocks lines := by
  induction lines with
  | nil => rfl
  | cons l lines ih =>
    by_cases hsubject : l.kind = .subject
    · simp [hsubject]
    · rw [blocks_cons_detail hsubject, ← ih]
      simp [hsubject]

/-! ## Collecting lines -/

/-- An entry after several of its lines has their events and notes in order, and the address and the
status of the last line that tells it. -/
theorem foldl_collect (kinds : List LineKind) (e : Entry) :
    kinds.foldl collect e =
      Entry.withStatus
        { e with
          events := e.events ++ kinds.filterMap LineKind.number?
          email := (kinds.filterMap LineKind.address?).getLast?.getD e.email
          notes := e.notes ++ kinds.filterMap LineKind.note? }
        ((kinds.filterMap LineKind.reading?).getLast?.getD
          ⟨e.status, e.grossAmount, e.netAmount⟩) := by
  -- A line's own address or status counts only if none of the later lines has one.
  induction kinds generalizing e with
  | nil => simp [Entry.withStatus]
  | cons kind kinds ih =>
    rw [List.foldl_cons, ih]
    cases kind with
    | event number =>
      cases number <;> simp [collect, Entry.withStatus, List.filterMap_cons, LineKind.number?,
        LineKind.address?, LineKind.reading?, LineKind.note?]
    | _ => simp [collect, Entry.withStatus, List.filterMap_cons, LineKind.number?,
        LineKind.address?, LineKind.reading?, LineKind.note?, List.getLast?_cons]

/-- Collecting the lines of a block from its skater's line on gives the entry of the block. -/
theorem foldl_collect_beginEntry (b : Block) :
    b.kinds.foldl collect (beginEntry b.subject.text b.subject.sectionName) = b.entry := by
  rw [foldl_collect]
  simp [beginEntry, Entry.named, Entry.withStatus, Block.entry, Block.reading]

/-- When a block ends, its entry is complete. -/
theorem finished_entry (b : Block) : finished (some b.entry) = b.entry?.toList := by
  simp only [finished, Block.entry?, List.isEmpty_iff]
  split <;> rfl

/-! ## One line -/

variable {filter : SectionFilter} {state : State} {line : List Char} {lines : List (List Char)}

/-- A header only changes the section. -/
theorem extractFrom_header {name : String} (h : LineKind.ofLine line = .header name) :
    extractFrom filter state (line :: lines) =
      extractFrom filter { state with sectionName := some name } lines := by
  simp [extractFrom, h]

/-- A line in a section that is not accepted changes nothing. -/
theorem extractFrom_rejected (h : (LineKind.ofLine line).header? = none)
    (hreject : filter.accepts state.sectionName = false) :
    extractFrom filter state (line :: lines) = extractFrom filter state lines := by
  rw [extractFrom]
  split
  · rename_i hkind
    simp [hkind, LineKind.header?] at h
  · simp [hreject]

/-- An accepted skater's line completes the entry that is being collected and begins a new one. -/
theorem extractFrom_subject (h : LineKind.ofLine line = .subject)
    (haccept : filter.accepts state.sectionName = true) :
    extractFrom filter state (line :: lines) =
      finished state.current ++
        extractFrom filter { state with current := some (beginEntry line state.sectionName) }
          lines := by
  simp [extractFrom, h, haccept]

/-- Any other accepted line is collected into the entry. -/
theorem extractFrom_detail (h : (LineKind.ofLine line).header? = none)
    (hsubject : LineKind.ofLine line ≠ .subject)
    (haccept : filter.accepts state.sectionName = true) :
    extractFrom filter state (line :: lines) =
      extractFrom filter
        { state with current := state.current.map fun e => collect e (.ofLine line) } lines := by
  rw [extractFrom]
  split
  · rename_i hkind
    simp [hkind, LineKind.header?] at h
  · simp [haccept, hsubject]

/-- A line that says the same, and that begins the same entry if it is a skater's, may stand in place
of another one; the rest may change as well if what it completes stays. -/
theorem extractFrom_cons_congr {line' : List Char} {lines' : List (List Char)}
    (hkind : LineKind.ofLine line = LineKind.ofLine line')
    (hbegin : LineKind.ofLine line = .subject →
      ∀ sectionName, beginEntry line sectionName = beginEntry line' sectionName)
    (hlines : ∀ state, extractFrom filter state lines = extractFrom filter state lines')
    (state : State) :
    extractFrom filter state (line :: lines) = extractFrom filter state (line' :: lines') := by
  cases hheader : (LineKind.ofLine line).header? with
  | some name =>
    have hline := LineKind.header?_eq_some_iff.mp hheader
    rw [extractFrom_header hline, extractFrom_header (hkind ▸ hline), hlines]
  | none =>
    have hheader' : (LineKind.ofLine line').header? = none := hkind ▸ hheader
    cases haccept : filter.accepts state.sectionName with
    | false =>
      rw [extractFrom_rejected hheader haccept, extractFrom_rejected hheader' haccept, hlines]
    | true =>
      by_cases hsubject : LineKind.ofLine line = .subject
      · rw [extractFrom_subject hsubject haccept, extractFrom_subject (hkind ▸ hsubject) haccept,
          hbegin hsubject, hlines]
      · rw [extractFrom_detail hheader hsubject haccept,
          extractFrom_detail hheader' (hkind ▸ hsubject) haccept, hkind, hlines]

/-- What may stand in place of some lines at the start of a document may stand in place of them behind
other lines. -/
theorem extractFrom_append_congr {lines' : List (List Char)}
    (hlines : ∀ state, extractFrom filter state lines = extractFrom filter state lines')
    (before : List (List Char)) (state : State) :
    extractFrom filter state (before ++ lines) = extractFrom filter state (before ++ lines') := by
  induction before generalizing state with
  | nil => exact hlines state
  | cons line before ih => exact extractFrom_cons_congr rfl (fun _ _ => rfl) ih state

/-! ## Reading by blocks -/

/-- What the rest of a document completes: the entry that is being collected, with the remaining lines
up to the next skater's, and the entries of the blocks in the rest. -/
theorem extractFrom_eq (filter : SectionFilter) (before lines : List (List Char))
    (current : Option Entry) :
    extractFrom filter ⟨lastHeader? before, current⟩ lines =
      finished (current.map fun e =>
        ((untilSubject ((placedAfter before lines).filter (·.remains filter))).map
          PlacedLine.kind).foldl collect e) ++
      (blocks ((placedAfter before lines).filter (·.remains filter))).filterMap Block.entry? := by
  -- The induction is on the lines that are still to come; those gone by are told by `before`.
  induction lines generalizing before current with
  | nil => simp [extractFrom, placedAfter, untilSubject, blocks]
  | cons line lines ih =>
    have hrest := ih (before ++ [line])
    rw [placedAfter_cons, List.filter_cons]
    generalize (placedAfter (before ++ [line]) lines).filter (·.remains filter) = rest at hrest ⊢
    cases hheader : (LineKind.ofLine line).header? with
    | some name =>
      have hkind := LineKind.header?_eq_some_iff.mp hheader
      rw [lastHeader?_append_header hkind] at hrest
      rw [extractFrom_header hkind, hrest, if_neg]
      simp [PlacedLine.remains, PlacedLine.kind, hheader]
    | none =>
      rw [lastHeader?_append_other hheader] at hrest
      cases haccept : filter.accepts (lastHeader? before) with
      | false =>
        rw [extractFrom_rejected hheader haccept, hrest, if_neg]
        simp [PlacedLine.remains, haccept]
      | true =>
        rw [if_pos (by simp [PlacedLine.remains, PlacedLine.kind, hheader, haccept])]
        let l : PlacedLine := ⟨lastHeader? before, line⟩
        by_cases hsubject : l.kind = .subject
        · -- A new block opens: what was collected so far is complete.
          have hcurrent : (current.map fun e => ([] : List LineKind).foldl collect e) = current := by
            cases current <;> rfl
          have hblock : ((untilSubject rest).map PlacedLine.kind).foldl collect
              (beginEntry line (lastHeader? before)) = (Block.mk l (untilSubject rest)).entry :=
            foldl_collect_beginEntry ⟨l, untilSubject rest⟩
          rw [extractFrom_subject hsubject haccept, hrest, untilSubject_cons_subject hsubject,
            blocks_cons_subject hsubject, List.map_nil, hcurrent, Option.map_some, hblock,
            finished_entry, List.filterMap_cons]
          cases Block.entry? ⟨l, untilSubject rest⟩ <;> simp
        · -- The line goes to the block that is open, if there is one.
          rw [extractFrom_detail hheader hsubject haccept, hrest, untilSubject_cons_detail hsubject,
            blocks_cons_detail hsubject, List.map_cons, Option.map_map]
          rfl

/-- Reading a document line by line gives the entries of the blocks of the lines that remain, in their
order; what stands before the first skater's line that remains has no effect. -/
theorem extractLines_eq_blocks (filter : SectionFilter) (lines : List String) :
    extractLines filter lines =
        (blocks (remaining filter (lines.map String.toList))).filterMap Block.entry? ∧
      extractLines filter lines =
        (blocks ((remaining filter (lines.map String.toList)).dropWhile
          fun l => l.kind != .subject)).filterMap Block.entry? := by
  have h := extractFrom_eq filter [] (lines.map String.toList) none
  rw [blocks_dropWhile, and_self]
  simpa [extractLines, remaining, State.start, lastHeader?, finished] using h

/-- An entry pauses in a section that is not asked for and goes on after it. -/
example :
    (extractLines (.named "Requested")
      ["## Requested", "Smith John", "   Event 1", "## Unrequested", "Doe Jane", "   Event 2",
        "## Requested", "   Event 5"]).map (fun e => (e.lastName, e.events)) =
      [("Smith", [1, 5])] := by
  rfl

end Requests

end SkaterLedger
