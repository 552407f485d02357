import SkaterLedger.Failure
import SkaterLedger.Text.Blank

/-!
# Record ids

An id names a table and a key in it, with a colon between them. The key may hold further colons.
-/

namespace SkaterLedger

/-- The two parts of an id. -/
structure RecordId where
  /-- The table. -/
  table : String
  /-- The key. -/
  key : String
deriving DecidableEq, Repr

namespace RecordId

/-- Whether a character may stand in the table part. -/
def isTableChar (c : Char) : Bool :=
  ('a' ≤ c && c ≤ 'z') || ('A' ≤ c && c ≤ 'Z') || ('0' ≤ c && c ≤ '9') || c == '_'

/-- A text cut at its first colon. -/
def cutAtColon : List Char → Option (List Char × List Char)
  | [] => none
  | c :: cs =>
    if c == ':' then some ([], cs)
    else (cutAtColon cs).map fun (table, key) => (c :: table, key)

/-- The parts of an id: the table has at least one character, and the key one that is not blank. -/
def ofText? (s : String) : Option RecordId := do
  let (table, key) ← cutAtColon s.toList
  if !table.isEmpty && table.all isTableChar && !Text.allBlank key then
    some ⟨String.ofList table, String.ofList key⟩
  else none

/-- The id as a text. -/
def toText (r : RecordId) : String := r.table ++ ":" ++ r.key

/-- The parts of the id in a field of a relation. -/
def parse (field : IdField) (s : String) : Except Failure RecordId :=
  match ofText? s with
  | some r => .ok r
  | none => .error (.malformedId field s)

end RecordId

end SkaterLedger
