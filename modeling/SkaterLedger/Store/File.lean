import SkaterLedger.Json.Reading
import SkaterLedger.Store.Basic
import SkaterLedger.Text.Utf8

/-!
# Store files

A store as a JSON document: an object with the rows of every table that exists, the last number of
the audit trail, and whether the file has a log. Every cell is written so that reading gives the same
cell again; a number is written as its sign and its rank among the magnitudes.
-/

namespace SkaterLedger

/-- A store as a file keeps it. -/
structure KeptStore where
  /-- The store. -/
  store : Store
  /-- Whether the file has a log that its users share. -/
  logged : Bool
deriving DecidableEq, Repr

/-- A file that holds nothing. -/
def KeptStore.empty : KeptStore := ⟨.empty, false⟩

namespace Cell

/-- The notation of a cell in a store file. -/
def toFileJson : Cell → Json
  | null => .null
  | integer n => .int n
  | real x => .obj [("negative", .bool x.negative), ("rank", .int x.magnitude.rank)]
  | text s => .str s
  | blob bytes => .arr (bytes.map fun b => .int b.toNat)

/-- The byte of an item of a blob. -/
def byteOfFileJson? : Json → Option UInt8
  | .int n => if 0 ≤ n && n < 256 then some (.ofNat n.toNat) else none
  | _ => none

/-- The cell of a notation. -/
def ofFileJson? : Json → Option Cell
  | .null => some null
  | .int n => some (integer n)
  | .str s => some (text s)
  | .arr items => (items.mapM byteOfFileJson?).map blob
  | .obj [("negative", .bool negative), ("rank", .int rank)] =>
    some (real ⟨negative, .ofRank rank.toNat⟩)
  | _ => none

end Cell

namespace Shape

variable {ρ : Type}

/-- The notation of a row: its cells in the order of the columns. -/
def rowToFileJson (shape : Shape ρ) (r : ρ) : Json := .arr ((shape.cells r).map Cell.toFileJson)

/-- The row of a notation. -/
def rowOfFileJson? (shape : Shape ρ) : Json → Option ρ
  | .arr items => do
    let cells ← items.mapM Cell.ofFileJson?
    if cells.length ≠ shape.columns.length then none
    let named := (shape.columns.map (·.name)).zip cells
    some (shape.ofCells fun name => (named.lookup name).getD .null)
  | _ => none

/-- The member for a table, `null` if the table does not exist. -/
def toMember (shape : Shape ρ) (rows : Option (List ρ)) : String × Json :=
  (shape.table.name,
    match rows with
    | some rows => .arr (rows.map shape.rowToFileJson)
    | none => .null)

/-- The rows of the member for a table. -/
def ofMember? (shape : Shape ρ) (members : List (String × Json)) : Option (Option (List ρ)) :=
  match members.lookup shape.table.name with
  | some .null => some none
  | some (.arr items) => (items.mapM shape.rowOfFileJson?).map some
  | _ => none

end Shape

namespace Store

/-- The member for the last number of the audit trail. -/
def lastNumberKey : String := "last_audit_number"

/-- The members of a store's document. -/
def toMembers (s : Store) : List (String × Json) :=
  [Shape.competitions.toMember s.competitions, Shape.events.toMember s.events,
    Shape.skaters.toMember s.skaters, Shape.families.toMember s.families,
    Shape.competedIn.toMember s.competedIn, Shape.belongsTo.toMember s.belongsTo,
    Shape.auditLog.toMember (s.auditLog.map (·.rows)),
    (lastNumberKey, .int ((s.auditLog.map (·.lastId)).getD 0))]

/-- The store of a document's members. -/
def ofMembers? (members : List (String × Json)) : Option Store := do
  let lastId ←
    match members.lookup lastNumberKey with
    | some (.int n) => some n
    | _ => none
  let auditRows ← Shape.auditLog.ofMember? members
  some {
    competitions := ← Shape.competitions.ofMember? members
    events := ← Shape.events.ofMember? members
    skaters := ← Shape.skaters.ofMember? members
    families := ← Shape.families.ofMember? members
    competedIn := ← Shape.competedIn.ofMember? members
    belongsTo := ← Shape.belongsTo.ofMember? members
    auditLog := auditRows.map fun rows => ⟨rows, lastId⟩ }

end Store

namespace KeptStore

/-- The member that tells whether there is a log. -/
def loggedKey : String := "logged"

/-- The document of a file. -/
def toFileText (k : KeptStore) : String :=
  (Json.obj (k.store.toMembers ++ [(loggedKey, .bool k.logged)])).toCompact

/-- What a document's members keep. -/
def ofMembers? (members : List (String × Json)) : Option KeptStore := do
  let logged ←
    match members.lookup loggedKey with
    | some (.bool b) => some b
    | _ => none
  some ⟨← Store.ofMembers? members, logged⟩

/-- What a file keeps; `none` if it holds something else than a store. -/
def ofFile? (contents : List UInt8) : Option KeptStore :=
  if contents.isEmpty then some .empty
  else
    match (Text.stringOfBytes? contents).bind fun text => Json.parse? text.toList with
    | some (.obj members) => ofMembers? members
    | _ => none

end KeptStore

end SkaterLedger
