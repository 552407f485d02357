import SkaterLedger.Requests.Status
import SkaterLedger.Text.Uppercase

/-!
# Lines of a requests document

Every line is of one kind, told by how it starts or by a keyword in it. The kinds are tried in this
order: section header, skater, event, contact, status, note.
-/

namespace SkaterLedger

/-- What a line of a requests document says. -/
inductive LineKind where
  /-- The header of a section. -/
  | header (name : String)
  /-- The line of a skater, with whom an entry begins. -/
  | subject
  /-- An event; `none` if its number cannot be read. -/
  | event (number : Option Nat)
  /-- An email address; `none` if the line has none. -/
  | contact (email : Option String)
  /-- A gallery status. -/
  | status (reading : StatusReading)
  /-- A note. -/
  | note (text : String)
  /-- Anything else. -/
  | other
deriving DecidableEq, Repr

namespace LineKind

/-- What section headers start with. -/
def sectionMarker : List Char := "##".toList

/-- What the text of event lines starts with. -/
def eventKeyword : List Char := "Event ".toList

/-- What contact lines contain. -/
def contactKeyword : List Char := "Email:".toList

/-- What note lines contain. -/
def noteKeyword : List Char := "Note:".toList

/-- The largest event number, `2^32 - 1`. -/
def maxEvent : Nat := 4294967295

/-- The event number that a word writes: digits with at most one plus sign in front. -/
def eventNumber? (word : List Char) : Option Nat :=
  let digits :=
    match word with
    | '+' :: rest => rest
    | _ => word
  if digits.isEmpty || !digits.all Text.isAsciiDigit then none
  else
    let n := Text.numberOfDigits digits
    if n ≤ maxEvent then some n else none

/-- Whether a line belongs to a skater: it starts with an upper-case letter. -/
def isSubject : List Char → Bool
  | [] => false
  | c :: _ => Text.isUppercase c

/-- The trimmed text after the first keyword of a line. -/
def textAfter (keyword line : List Char) : String :=
  String.ofList (Text.trim (Text.after keyword line))

/-- The kind of a line without trailing blanks. -/
def ofTrimmed (line : List Char) : LineKind :=
  if sectionMarker.isPrefixOf line then
    header (String.ofList (Text.trim (Text.removeAll sectionMarker line)))
  else if isSubject line then subject
  else if eventKeyword.isPrefixOf (Text.trim line) then
    event ((Text.words (Text.trim line))[1]?.bind eventNumber?)
  else if Text.occursIn contactKeyword line then
    let email := textAfter contactKeyword line
    contact (if email.isEmpty then none else some email)
  else if Text.occursIn statusKeyword line then status (.ofLine line)
  else if Text.occursIn noteKeyword line then note (textAfter noteKeyword line)
  else other

/-- The kind of a line. -/
def ofLine (line : List Char) : LineKind := ofTrimmed (Text.trimEnd line)

end LineKind

end SkaterLedger
