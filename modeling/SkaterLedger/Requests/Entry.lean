import SkaterLedger.Requests.Status

/-!
# Entries

A requests document holds one entry per skater: who it is, which events are asked for, and how far
the gallery has got.
-/

namespace SkaterLedger

/-- What a requests document says about one skater. -/
structure Entry where
  /-- The first name. -/
  firstName : String
  /-- The last name. -/
  lastName : String
  /-- The event numbers, in document order. -/
  events : List Nat
  /-- The address to write to. -/
  email : Option String
  /-- The state of the gallery. -/
  status : GalleryStatus
  /-- The gross amount paid. -/
  grossAmount : Option Binary64
  /-- The net amount paid. -/
  netAmount : Option Binary64
  /-- The notes, in document order. -/
  notes : List String
  /-- The section that the skater's line stands in. -/
  sectionName : Option String
deriving DecidableEq, Repr

namespace Entry

/-- An entry of which only the skater's line is known. -/
def named (firstName lastName : String) (sectionName : Option String) : Entry :=
  ⟨firstName, lastName, [], none, .pending, none, none, [], sectionName⟩

/-- First and last name. -/
def fullName (e : Entry) : String := e.firstName ++ " " ++ e.lastName

/-- The first and last name on a skater's line: the last name comes first, and a single word is
used for both. -/
def namesOfLine (line : List Char) : String × String :=
  let text := Text.trim line
  match Text.cutAtBlank text with
  | some (last, first) => (String.ofList (Text.trim first), String.ofList last)
  | none => (String.ofList text, String.ofList text)

/-- An entry with the status and amounts of a status line. -/
def withStatus (e : Entry) (reading : StatusReading) : Entry :=
  { e with status := reading.status, grossAmount := reading.gross, netAmount := reading.net }

end Entry

end SkaterLedger
