import SkaterLedger.Csv.Reader
import SkaterLedger.Failure
import SkaterLedger.Text.Blank
import SkaterLedger.Text.Search
import SkaterLedger.Text.Utf8

/-!
# Contacts

A contact is a row of a contacts file: the first names of one or more siblings, their last name, and
an email address.
-/

namespace SkaterLedger

/-- A contact, possibly of several siblings. -/
structure Contact where
  /-- The first names. -/
  firstNames : List String
  /-- The last name. -/
  lastName : String
  /-- Whether more than one sibling is named. -/
  isFamily : Bool
  /-- The address, if there is one. -/
  email : Option String
  /-- The first names as written. -/
  rawFirst : String
deriving DecidableEq, Repr

/-- The names that a contact's fields give. -/
structure ContactName where
  /-- The first names. -/
  firstNames : List String
  /-- The last name. -/
  lastName : String
  /-- Whether more than one sibling is named. -/
  isFamily : Bool
deriving DecidableEq, Repr

namespace ContactName

/-- What stands between the names of siblings; a comma does as well. -/
def conjunction : List Char := " and ".toList

/-- Whether a text of first names is a list. -/
def isList (first : List Char) : Bool := Text.occursIn conjunction first || first.contains ','

/-- The names of a list, without the empty ones. -/
def splitNames (first : List Char) : List (List Char) :=
  ((Text.splitAll conjunction (Text.substitute ',' conjunction first)).map Text.trim).filter
    fun name => !name.isEmpty

/-- Reads the fields of first and last name. -/
def ofFields (first last : String) : ContactName :=
  if isList first.toList then
    let names := splitNames first.toList
    ⟨names.map String.ofList, Text.trimmed last, 1 < names.length⟩
  else ⟨[Text.trimmed first], Text.trimmed last, false⟩

end ContactName

namespace Contact

/-- The contact of a row of a contacts file. -/
def ofRow (first last : String) (email : Option String) : Contact :=
  let name := ContactName.ofFields first last
  let address := (email.map Text.trimmed).filter fun e => !e.isEmpty
  ⟨name.firstNames, name.lastName, name.isFamily, address, first⟩

/-- The column of the first names. -/
def firstColumn : String := "First Name"

/-- The column of the last name. -/
def lastColumn : String := "Last Name"

/-- The column of the address, which a file may lack. -/
def emailColumn : String := "Email"

/-- A record of a contacts file; `none` stands for a field that cannot be decoded. -/
abbrev Fields := List (Option String)

/-- The fields of a record that stand under a column name. -/
def under (name : String) (header record : Fields) : Fields :=
  ((header.zip record).filter fun (column, _) => column == some name).map (·.2)

/-- The contact of a record by the names of the columns, each of which may occur only once. -/
def ofColumns? (header record : Fields) : Option Contact :=
  match under firstColumn header record, under lastColumn header record,
    under emailColumn header record with
  | [some first], [some last], [] => some (ofRow first last none)
  | [some first], [some last], [some email] => some (ofRow first last (some email))
  | _, _, _ => none

/-- The contact of a record by position: the first names, the last name and, if there is a third
field, the address. -/
def ofPositions? : Fields → Option Contact
  | some first :: some last :: [] => some (ofRow first last none)
  | some first :: some last :: email :: _ => some (ofRow first last email)
  | _ => none

/-- The contact of a record, which has to be as long as the header and decodable. The columns have
no names if one of them cannot be decoded. -/
def ofRecord? (header record : Fields) : Option Contact :=
  if header.length ≠ record.length || record.any Option.isNone then none
  else if header.any Option.isNone then ofPositions? record
  else ofColumns? header record

/-- The contacts of the records after the first `done` ones. -/
def ofRecords (header : Fields) (done : Nat) : List Fields → Except Failure (List Contact)
  | [] => .ok []
  | record :: records =>
    match ofRecord? header record with
    | none => .error (.contactRow (done + 1))
    | some contact => do
      let contacts ← ofRecords header (done + 1) records
      .ok (contact :: contacts)

/-- The contacts of the records of a file, of which the first is the header. -/
def ofTable : List Fields → Except Failure (List Contact)
  | [] => .ok []
  | header :: records => ofRecords header 0 records

/-- The contacts of a text. -/
def readText (text : String) : Except Failure (List Contact) :=
  ofTable ((Csv.records .ofChars text.toList).map fun record =>
    record.map fun field => some (String.ofList field))

/-- The contacts of some bytes. -/
def readBytes (bytes : List UInt8) : Except Failure (List Contact) :=
  ofTable ((Csv.records .ofBytes bytes).map fun record => record.map Text.stringOfBytes?)

/-- The contacts of a file; `none` stands for a file that cannot be opened. -/
def ofFile (path : String) : Option (List UInt8) → Except Failure (List Contact)
  | none => .error (.openContacts path)
  | some bytes => readBytes bytes

end Contact

end SkaterLedger
