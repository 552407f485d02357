import SkaterLedger.Requests.Entry
import SkaterLedger.Requests.Line
import SkaterLedger.Requests.Section

/-!
# Requests documents

Reading a document line by line into its entries. The entry of a skater's line collects the event,
contact, status and note lines up to the next skater's line, also across section headers; an entry
without events is dropped.
-/

namespace SkaterLedger.Requests

/-- What is known between two lines. -/
structure State where
  /-- The name of the current section, `none` before the first header. -/
  sectionName : Option String
  /-- The entry that is being collected. -/
  current : Option Entry
deriving DecidableEq, Repr

/-- The state before the first line. -/
def State.start : State := ⟨none, none⟩

/-- The entries that are complete when an entry ends: none, or the entry itself if it has
events. -/
def finished : Option Entry → List Entry
  | none => []
  | some e => if e.events.isEmpty then [] else [e]

/-- An entry after one of its lines. -/
def collect (e : Entry) : LineKind → Entry
  | .event (some n) => { e with events := e.events ++ [n] }
  | .contact email => { e with email := email }
  | .status reading => e.withStatus reading
  | .note text => { e with notes := e.notes ++ [text] }
  | _ => e

/-- The entry that a skater's line begins. -/
def beginEntry (line : List Char) (sectionName : Option String) : Entry :=
  let (first, last) := Entry.namesOfLine (Text.trimEnd line)
  .named first last sectionName

/-- The entries that the rest of a document completes. -/
def extractFrom (filter : SectionFilter) (state : State) : List (List Char) → List Entry
  | [] => finished state.current
  | line :: lines =>
    match LineKind.ofLine line with
    | .header name => extractFrom filter { state with sectionName := some name } lines
    | kind =>
      if !filter.accepts state.sectionName then extractFrom filter state lines
      else if kind == .subject then
        let entry := beginEntry line state.sectionName
        finished state.current ++ extractFrom filter { state with current := some entry } lines
      else
        extractFrom filter { state with current := state.current.map fun e => collect e kind } lines

/-- The entries of the lines of a document. -/
def extractLines (filter : SectionFilter) (lines : List String) : List Entry :=
  extractFrom filter .start (lines.map String.toList)

/-- The entries of a document. -/
def extract (filter : SectionFilter) (text : String) : List Entry :=
  extractFrom filter .start (Text.lines text.toList)

end SkaterLedger.Requests
