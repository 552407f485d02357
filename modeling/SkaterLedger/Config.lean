import SkaterLedger.Failure
import SkaterLedger.Text.Utf8
import SkaterLedger.Toml.Document

/-!
# Configuration

Where the store and other files are, and which section is read. What the configuration file leaves
out has a standard value, and variables of the environment come before the file.
-/

namespace SkaterLedger

/-- Where things are stored. -/
structure StorageConfig where
  /-- The path of the store. -/
  dbPath : String
  /-- What the store is called in backups. -/
  database : String
  /-- Where backups are put. -/
  backupDir : String
deriving DecidableEq, Repr

/-- How requests are read and plans are kept. -/
structure ImportConfig where
  /-- The section that is read. -/
  sectionName : String
  /-- The path of the deletion plan. -/
  planPath : String
deriving DecidableEq, Repr

/-- The configuration. -/
structure Config where
  /-- Where things are stored. -/
  storage : StorageConfig
  /-- How requests are read and plans are kept. -/
  requests : ImportConfig
  /-- How much is logged. -/
  logLevel : String
deriving DecidableEq, Repr

/-- The variables of the environment that come before the configuration file. -/
structure Overrides where
  /-- The path of the store. -/
  dbPath : Option String
  /-- The section that is read. -/
  sectionName : Option String
  /-- How much is logged. -/
  logLevel : Option String
deriving DecidableEq, Repr

namespace Overrides

/-- The variable for the path of the store. -/
def dbVariable : String := "PHOTO_LEDGER_DB"

/-- The variable for the section. -/
def sectionVariable : String := "PHOTO_LEDGER_SECTION"

/-- The variable for how much is logged. -/
def logVariable : String := "PHOTO_LEDGER_LOG_LEVEL"

end Overrides

/-- Reads one field of a table. -/
def fieldOf (read : Toml.Value → Option α) (standard : α) : Option Toml.Value → Option α
  | none => some standard
  | some value => read value

/-- Finds the fields of a table. A table is also given by an array of its values in order, and a
date stands for a table without fields. -/
def Toml.Value.fields? (names : List String) : Toml.Value → Option (List (String × Toml.Value))
  | .table _ entries => some entries
  | .array items => some (names.zip items)
  | .tables items => some (names.zip (items.map fun entries => .table .header entries))
  | .moment _ => some []
  | _ => none

/-- The text of a string. -/
def Toml.Value.text? : Toml.Value → Option String
  | .string s => some s
  | _ => none

namespace StorageConfig

/-- What holds if nothing is said. -/
def standard : StorageConfig := ⟨"photography.db", "photography", "."⟩

/-- Reads the table. -/
def ofValue? (value : Toml.Value) : Option StorageConfig := do
  let fields ← value.fields? ["db_path", "database", "backup_dir"]
  let text? (name standard : String) :=
    fieldOf Toml.Value.text? standard (Toml.Entries.find? name fields)
  some {
    dbPath := ← text? "db_path" standard.dbPath
    database := ← text? "database" standard.database
    backupDir := ← text? "backup_dir" standard.backupDir }

end StorageConfig

namespace ImportConfig

/-- What holds if nothing is said. -/
def standard : ImportConfig := ⟨"Requested", "deletion_plan.json"⟩

/-- Reads the table. -/
def ofValue? (value : Toml.Value) : Option ImportConfig := do
  let fields ← value.fields? ["section", "plan_path"]
  let text? (name standard : String) :=
    fieldOf Toml.Value.text? standard (Toml.Entries.find? name fields)
  some {
    sectionName := ← text? "section" standard.sectionName
    planPath := ← text? "plan_path" standard.planPath }

end ImportConfig

namespace Config

/-- How much is logged if nothing is said. -/
def standardLogLevel : String := "warn"

/-- What holds if nothing is said. -/
def standard : Config := ⟨.standard, .standard, standardLogLevel⟩

/-- The path of the configuration file if none is given. -/
def standardPath : String := "photo-ledger.toml"

/-- Reads the level of logging from its table. -/
def logLevelOf? (value : Toml.Value) : Option String := do
  let fields ← value.fields? ["level"]
  fieldOf Toml.Value.text? standardLogLevel (Toml.Entries.find? "level" fields)

/-- Reads the table of a document. Keys that mean nothing here are ignored. -/
def ofEntries? (entries : Toml.Entries) : Option Config := do
  some {
    storage :=
      ← fieldOf StorageConfig.ofValue? .standard (Toml.Entries.find? "storage" entries)
    requests := ← fieldOf ImportConfig.ofValue? .standard (Toml.Entries.find? "import" entries)
    logLevel := ← fieldOf logLevelOf? standardLogLevel (Toml.Entries.find? "logging" entries) }

/-- Reads a file that exists; `none` stands for contents that cannot be read. -/
def ofFile (contents : Option (List UInt8)) : Except Failure Config :=
  match contents.bind Text.stringOfBytes? with
  | none => .error .readConfig
  | some text =>
    match (Toml.parse? text).bind ofEntries? with
    | some config => .ok config
    | none => .error .parseConfig

/-- The configuration with the variables that are set. -/
def override (o : Overrides) (config : Config) : Config where
  storage := { config.storage with dbPath := o.dbPath.getD config.storage.dbPath }
  requests :=
    { config.requests with sectionName := o.sectionName.getD config.requests.sectionName }
  logLevel := o.logLevel.getD config.logLevel

/-- What is noted about a configuration file that does not exist. -/
def missingNotice (path : String) : String := "no config file at " ++ path ++ ", using defaults"

end Config

end SkaterLedger
