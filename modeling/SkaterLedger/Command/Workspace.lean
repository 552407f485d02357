import SkaterLedger.Config
import SkaterLedger.Store.Opened

/-!
# Workspaces

What a command needs from outside: a place to print to, files, files of stores, and the time. A
command is written once, for any monad that offers these.
-/

namespace SkaterLedger

/-- What stands under the path of a store's file. -/
inductive StoreFile where
  /-- Nothing. -/
  | missing
  /-- Something that cannot be opened as a file. -/
  | unusable
  /-- A file that holds something else. -/
  | damaged
  /-- A store. -/
  | kept (kept : KeptStore)

/-- The outside of a command. -/
structure Workspace (m : Type → Type) where
  /-- Prints a text. -/
  print : String → m Unit
  /-- Reads a variable of the environment. -/
  environment : String → m (Option String)
  /-- Whether something stands under a path. -/
  contains : String → m Bool
  /-- Whether a directory stands under a path. -/
  isDirectory : String → m Bool
  /-- Reads a file. -/
  contents : String → m (Option (List UInt8))
  /-- Writes a file, and tells whether that worked. -/
  writeFile : String → String → m Bool
  /-- Looks at the file of a store. -/
  findStore : String → m StoreFile
  /-- Writes the file of a store, and tells whether that worked. -/
  saveStore : String → KeptStore → m Bool
  /-- The time, and ids for new rows of the store in a file. -/
  moment : Option String → m Moment
  /-- The time on the clock of the place. -/
  clock : m CivilTime

namespace Workspace

variable {m : Type → Type} [Monad m]

/-- A command's part, which may fail. -/
abbrev Action (m : Type → Type) (α : Type) : Type := ExceptT Failure m α

/-- Prints a line. -/
def line (w : Workspace m) (text : String) : Action m Unit := w.print (text ++ "\n")

/-- Writes a file or fails. -/
def write (w : Workspace m) (failure : Failure) (path text : String) : Action m Unit := do
  if !(← w.writeFile path text) then throw failure

/-- Reads the variables that come before the configuration file. -/
def overrides (w : Workspace m) : Action m Overrides := do
  let dbPath ← w.environment Overrides.dbVariable
  let sectionName ← w.environment Overrides.sectionVariable
  let logLevel ← w.environment Overrides.logVariable
  pure ⟨dbPath, sectionName, logLevel⟩

/-- Runs what may fail without the outside. -/
def attempt {α : Type} (result : Except Failure α) : Action m α := ExceptT.mk (pure result)

/-- Reads the configuration of a path, which may be missing. -/
def config (w : Workspace m) (path : String) : Action m Config := do
  let found ←
    if ← w.contains path then attempt (Config.ofFile (← w.contents path)) else pure .standard
  pure (found.override (← w.overrides))

/-- What is noted about the configuration of a path. -/
def configNotice (w : Workspace m) (path : String) : m (Option String) := do
  if ← w.contains path then pure none else pure (some (Config.missingNotice path))

end Workspace

end SkaterLedger
