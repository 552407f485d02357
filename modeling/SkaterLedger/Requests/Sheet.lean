import SkaterLedger.Binary64.Shortest
import SkaterLedger.Csv.Writer
import SkaterLedger.Failure
import SkaterLedger.Requests.Document
import SkaterLedger.Text.Utf8

/-!
# Requests files and sheets

Reading a requests document from a file, and writing its entries as a sheet of comma-separated
values, one line per entry under a line of column names.
-/

namespace SkaterLedger.Requests

/-- The entries of a file; `none` stands for a file that cannot be read. -/
def extractFile (filter : SectionFilter) (path : String) (contents : Option (List UInt8)) :
    Except Failure (List Entry) :=
  match contents.bind Text.stringOfBytes? with
  | some text => .ok (extract filter text)
  | none => .error (.readRequests path)

/-- The style of the amounts in a sheet. -/
def amountStyle : NumberStyle := ⟨[], ['i', 'n', 'f']⟩

/-- The column names of a sheet. -/
def sheetHeader : List String :=
  ["last_name", "first_name", "section", "events", "email", "status", "gross_amount", "net_amount",
    "notes"]

/-- An amount in a sheet, empty if there is none. -/
def sheetAmount : Option Binary64 → List Char
  | some x => amountStyle.write x
  | none => []

/-- The line of an entry: the events are joined by semicolons and the notes by bars. -/
def sheetRow (e : Entry) : List (List Char) :=
  [e.lastName.toList, e.firstName.toList, (e.sectionName.getD "").toList,
    [';'].intercalate (e.events.map Text.decimal), (e.email.getD "").toList,
    e.status.word.toList, sheetAmount e.grossAmount, sheetAmount e.netAmount,
    [' ', '|', ' '].intercalate (e.notes.map String.toList)]

/-- The sheet of some entries; without entries it has no header either. -/
def sheet (entries : List Entry) : String :=
  if entries.isEmpty then ""
  else
    String.ofList
      ((sheetHeader.map String.toList :: entries.map sheetRow).flatMap Csv.writeRecord)

end SkaterLedger.Requests
