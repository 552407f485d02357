import SkaterLedger.Text.Quoted

/-!
# Failures

Everything that can go wrong, by its cause, and what a user is told about it.
-/

namespace SkaterLedger

/-- The tables of the store. -/
inductive Table where
  /-- The competitions. -/
  | competitions
  /-- The events of competitions. -/
  | events
  /-- The skaters. -/
  | skaters
  /-- The families. -/
  | families
  /-- Which skater takes part in which event. -/
  | competedIn
  /-- Which skater belongs to which family. -/
  | belongsTo
  /-- The audit trail. -/
  | auditLog
deriving DecidableEq, Repr

namespace Table

/-- Every table, in the order in which they are backed up. -/
def all : List Table :=
  [competitions, events, skaters, families, competedIn, belongsTo, auditLog]

/-- The name of a table. -/
def name : Table → String
  | competitions => "competitions"
  | events => "events"
  | skaters => "skaters"
  | families => "families"
  | competedIn => "competed_in"
  | belongsTo => "belongs_to"
  | auditLog => "audit_log"

/-- The table of a name. -/
def ofName? (s : String) : Option Table := all.find? fun t => t.name == s

end Table

/-- The kind of a stored value. -/
inductive CellKind where
  /-- No value. -/
  | null
  /-- An integer. -/
  | integer
  /-- A binary64 number. -/
  | real
  /-- A text. -/
  | text
  /-- Bytes. -/
  | blob
deriving DecidableEq, Repr

/-- How a kind is named in messages. -/
def CellKind.name : CellKind → String
  | null => "Null"
  | integer => "Integer"
  | real => "Real"
  | text => "Text"
  | blob => "Blob"

/-- What the tables refuse. -/
inductive StoreFault where
  /-- The table does not exist. -/
  | noSuchTable (table : Table)
  /-- The table has no column of the name. -/
  | noSuchColumn (table : Table) (column : String)
  /-- A row has the same values in columns that have to tell rows apart. -/
  | notUnique (table : Table) (columns : List String)
  /-- A column that needs a value has none. -/
  | missingValue (table : Table) (column : String)
  /-- A row number is not an integer. -/
  | notARowNumber
  /-- A value read as a column of a query's result has the wrong kind. -/
  | wrongKind (kind : CellKind) (index : Nat) (column : String)
  /-- There is no number left for a row. -/
  | full
  /-- The file holds something else. -/
  | notAStore
  /-- The file cannot be used the way it was asked for. -/
  | notUsable
  /-- The store may only be read. -/
  | readOnly
deriving DecidableEq, Repr

/-- What a user is told about a refusal. -/
def StoreFault.message : StoreFault → String
  | noSuchTable t => "no such table: " ++ t.name
  | noSuchColumn t c => "table " ++ t.name ++ " has no column named " ++ c
  | notUnique t cs =>
    "UNIQUE constraint failed: " ++ ", ".intercalate (cs.map fun c => t.name ++ "." ++ c)
  | missingValue t c => "NOT NULL constraint failed: " ++ t.name ++ "." ++ c
  | notARowNumber => "datatype mismatch"
  | wrongKind kind index c =>
    "Invalid column type " ++ kind.name ++ " at index: " ++ toString index ++ ", name: " ++ c
  | full => "database or disk is full"
  | notAStore => "file is not a database"
  | notUsable => "unable to open database file"
  | readOnly => "attempt to write a readonly database"

/-- The field of a relation that holds an id. -/
inductive IdField where
  /-- The relation's own id. -/
  | id
  /-- The skater's id. -/
  | subject
  /-- The event's id. -/
  | target
deriving DecidableEq, Repr

/-- The name of a field in documents and messages. -/
def IdField.name : IdField → String
  | id => "id"
  | subject => "in"
  | target => "out"

/-- What can go wrong. -/
inductive Failure where
  /-- An id is not of the form `table:key`. -/
  | malformedId (field : IdField) (value : String)
  /-- No relation has the id. -/
  | recordNotFound (id : String)
  /-- The store refuses. -/
  | store (fault : StoreFault)
  /-- The store refuses to delete a relation. -/
  | deletion (fault : StoreFault)
  /-- No table has the name. -/
  | unknownTable (name : String)
  /-- A skater cannot be written. -/
  | upsertSkater (id : String)
  /-- An event cannot be written. -/
  | upsertEvent (id : String)
  /-- A family cannot be written. -/
  | upsertFamily (id : String)
  /-- Two rows cannot be related. -/
  | relate (subject target : String)
  /-- The timestamp of an audit row cannot be read. -/
  | auditTimestamp (text : String)
  /-- The data of an audit row cannot be read. -/
  | auditPayload
  /-- A row of a contacts file cannot be read; rows count from 1. -/
  | contactRow (number : Nat)
  /-- A contacts file cannot be opened. -/
  | openContacts (path : String)
  /-- A requests file cannot be read. -/
  | readRequests (path : String)
  /-- A CSV file cannot be created. -/
  | createCsv (path : String)
  /-- A deletion plan cannot be written. -/
  | writePlan (path : String)
  /-- A deletion plan cannot be read. -/
  | readPlan (path : String)
  /-- A deletion plan is not what it should be. -/
  | parsePlan
  /-- A table cannot be backed up. -/
  | backupTable (table : Table)
  /-- A backup cannot be written. -/
  | writeBackup (path : String)
  /-- A backup cannot be read. -/
  | readBackup (path : String)
  /-- A backup is not what it should be. -/
  | parseBackup
  /-- The configuration cannot be read. -/
  | readConfig
  /-- The configuration is not what it should be. -/
  | parseConfig
  /-- The store cannot be opened. -/
  | openStore (path : String)
deriving DecidableEq, Repr

/-- What a user is told about a failure. -/
def Failure.message : Failure → String
  | malformedId field value =>
    "Malformed record id in field '" ++ field.name ++ "': " ++ Text.quoted value
  | recordNotFound id => "Record not found: " ++ id
  | store fault => fault.message
  | deletion fault => "Database error: " ++ fault.message
  | unknownTable name => "Unknown table: " ++ name
  | upsertSkater id => "Failed to upsert skater " ++ id
  | upsertEvent id => "Failed to upsert event " ++ id
  | upsertFamily id => "Failed to upsert family " ++ id
  | relate subject target => "Failed to relate " ++ subject ++ " -> " ++ target
  | auditTimestamp text => "Bad audit timestamp: " ++ text
  | auditPayload => "Bad audit payload"
  | contactRow number => "Bad contact row " ++ toString number
  | openContacts path => "Failed to open contacts CSV: " ++ path
  | readRequests path => "Failed to read requests file: " ++ path
  | createCsv path => "Failed to create CSV file: " ++ path
  | writePlan path => "Failed to write deletion plan: " ++ path
  | readPlan path => "Failed to read deletion plan: " ++ path
  | parsePlan => "Failed to parse deletion plan JSON"
  | backupTable table => "Failed to back up table " ++ table.name
  | writeBackup path => "Failed to write backup: " ++ path
  | readBackup path => "Failed to read backup: " ++ path
  | parseBackup => "Failed to parse backup JSON"
  | readConfig => "failed to read config file"
  | parseConfig => "failed to parse config TOML"
  | openStore path => "Failed to open database: " ++ path

end SkaterLedger
