import SkaterLedger.Json.Printer
import SkaterLedger.Requests.Entry

/-!
# Listings

The entries of a requests document as an indented JSON document, for people and programs to read.
-/

namespace SkaterLedger

/-- An entry as a JSON object. -/
def Entry.toJson (e : Entry) : Json :=
  .obj [("first_name", .str e.firstName), ("last_name", .str e.lastName),
    ("events", .arr (e.events.map fun (n : Nat) => .int n)), ("email", Json.strOrNull e.email),
    ("status", .str e.status.word), ("gross_amount", Json.realOrNull e.grossAmount),
    ("net_amount", Json.realOrNull e.netAmount), ("notes", .arr (e.notes.map .str)),
    ("section", Json.strOrNull e.sectionName)]

/-- The listing of some entries. -/
def Requests.listing (entries : List Entry) : String :=
  (Json.arr (entries.map Entry.toJson)).toIndented

end SkaterLedger
