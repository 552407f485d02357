import SkaterLedger.Calendar.Rfc3339
import SkaterLedger.Digest
import SkaterLedger.Json.Printer
import SkaterLedger.Json.Reading
import SkaterLedger.Store.Basic
import SkaterLedger.Text.Utf8

/-!
# Backups

A backup holds every row of every table as a JSON document, with a checksum over the tables that
tells whether they were edited since.
-/

namespace SkaterLedger

/-- A row of a backup: its cells by column name, in ascending order. -/
abbrev BackupRow := List (String × Json)

/-- The tables of a backup: their rows by table name, in ascending order. -/
abbrev BackupTables := List (String × List BackupRow)

/-- A backup. -/
structure Backup where
  /-- When it was made. -/
  timestamp : Instant
  /-- What the store is called. -/
  database : String
  /-- The tables. -/
  tables : BackupTables
  /-- The digest of the tables. -/
  checksum : String

namespace Backup

/-- The tables as a JSON object. -/
def tablesToJson (tables : BackupTables) : Json :=
  .obj (tables.map fun (name, rows) => (name, .arr (rows.map .obj)))

/-- The text that the checksum is taken over. -/
def checksumText (tables : BackupTables) : List Char := (tablesToJson tables).compact

/-- The digest of tables. -/
def checksumOf (tables : BackupTables) : String :=
  Digest.sha256 (Text.encode (checksumText tables))

/-- Whether the tables still have the digest that the backup carries. -/
def verify (b : Backup) : Bool := checksumOf b.tables == b.checksum

/-- The number of rows of all tables. -/
def totalRecords (b : Backup) : Nat := (b.tables.map fun table => table.2.length).foldr (· + ·) 0

/-- A row of a table in a backup. -/
def rowOfCells (cells : List (String × Cell)) : BackupRow :=
  Json.sortMembers (cells.map fun (name, cell) => (name, cell.toJson))

/-- The rows of a table in a backup, in the order of the table. -/
def rowsOf (s : Store) (table : Table) : Except Failure (List BackupRow) := do
  .ok ((← s.rows table).map rowOfCells)

/-- A table's name and its rows in a backup. -/
def tableOf (s : Store) (table : Table) : Except Failure (String × List BackupRow) := do
  .ok (table.name, ← (rowsOf s table).mapError fun _ => .backupTable table)

/-- The backup of a store. -/
def create (timestamp : Instant) (database : String) (s : Store) : Except Failure Backup := do
  let tables := Json.sortMembers (← Table.all.mapM (tableOf s))
  .ok ⟨timestamp, database, tables, checksumOf tables⟩

/-- The document of a backup. -/
def toJson (b : Backup) : Json :=
  .obj [("timestamp", .str b.timestamp.toDocument), ("database", .str b.database),
    ("tables", tablesToJson b.tables), ("checksum", .str b.checksum)]

/-- The text of the document. -/
def toText (b : Backup) : String := b.toJson.toIndented

/-- The row of a parse tree whose values nest less than `depth` deep. -/
def rowOfTree? (depth : Nat) : Json.Tree → Option BackupRow
  | .object members => (Json.Tree.toMembers? depth members).map Json.sortMembers
  | _ => none

/-- The rows of a parse tree. -/
def rowsOfTree? (depth : Nat) : Json.Tree → Option (List BackupRow)
  | .array items => items.mapM (rowOfTree? depth)
  | _ => none

/-- The tables of a parse tree whose arrays and objects nest less than `depth` deep. Tables, rows
and cells take up three levels. Of the tables of one name the last one counts. -/
def tablesOfTree? (depth : Nat) : Json.Tree → Option BackupTables
  | .object members => do
    let fields ← Json.Tree.keyed? members
    let tables ← fields.mapM fun (name, tree) =>
      (rowsOfTree? (depth - 3) tree).map fun rows => (name, rows)
    some (Json.sortMembers tables)
  | _ => none

/-- The names of the fields of the document, in order. -/
def fieldNames : List String := ["timestamp", "database", "tables", "checksum"]

/-- The backup of a parse tree; all fields are needed. -/
def ofTree? (tree : Json.Tree) : Option Backup := do
  let fields ← tree.record? fieldNames
  let timestamp ← Rfc3339.lenient? (← (← fields.lookup "timestamp").string?)
  let database ← (← fields.lookup "database").string?
  let tables ← tablesOfTree? (Json.Tree.depthLimit - 1) (← fields.lookup "tables")
  let checksum ← (← fields.lookup "checksum").string?
  some ⟨timestamp, database, tables, checksum⟩

/-- The backup of a text. -/
def ofText? (text : String) : Option Backup := do ofTree? (← Json.Tree.ofText? text.toList)

/-- The backup of a file; `none` stands for a file that cannot be read. -/
def read (path : String) (contents : Option (List UInt8)) : Except Failure Backup :=
  match contents.bind Text.stringOfBytes? with
  | none => .error (.readBackup path)
  | some text =>
    match ofText? text with
    | some b => .ok b
    | none => .error .parseBackup

/-- The name of a backup's file, made from the time of day where it is made. -/
def fileName (t : CivilTime) : String :=
  "photography_backup_" ++ String.ofList t.fileStamp ++ ".json"

end Backup

end SkaterLedger
