import SkaterLedger.Backup
import SkaterLedger.Command.Arguments
import SkaterLedger.Command.Workspace
import SkaterLedger.Relations.PlanFile
import SkaterLedger.Requests.Listing
import SkaterLedger.Requests.Sheet
import SkaterLedger.Store.Query

/-!
# Running commands

What each command reads, changes, writes and tells the user. Lines that were printed before a
failure stay printed. A change that fails is rolled back (`Store.settled`), so a store is kept
only after a change that succeeds.
-/

namespace SkaterLedger.Workspace

variable {m : Type → Type} [Monad m]

/-- A store that a command works with. -/
structure Session extends OpenStore where
  /-- Its file, if it has one. -/
  file : Option String
  /-- Whether the file has a log. -/
  logged : Bool

/-- Keeps the store of a session after a change. -/
def save (w : Workspace m) (session : Session) (s : Store) : Action m Unit := do
  match session.file with
  | some path => if session.writable then discard (w.saveStore path ⟨s, session.logged⟩)
  | none => pure ()

/-- What is kept at a location, which a user wrote as `text`. -/
def kept (w : Workspace m) (text : String) (l : Location) : Action m KeptStore := do
  match l.file with
  | none => pure .empty
  | some path =>
    if let some model := l.model then
      if !(← w.contains model) then throw (.openStore text)
    match ← w.findStore path with
    | .missing =>
      if !l.creates then throw (.openStore text)
      if ← w.saveStore path .empty then pure .empty else throw (.openStore text)
    | .unusable => throw (.openStore text)
    | .damaged => throw (.store .notAStore)
    | .kept kept => pure kept

/-- Opens the store that a text names and makes the tables that are missing. -/
def openTables (w : Workspace m) (text : String) : Action m Session := do
  match Location.ofText? text with
  | none => throw (.openStore text)
  | some location =>
    let kept ← attempt ((location.accept (← w.kept text location)).mapError .store)
    let session : Session := {
      store := kept.store
      moment := ← w.moment location.file
      writable := location.writable
      file := location.file
      logged := kept.logged }
    w.save session kept.store
    pure session

/-- A line across the page. -/
def ruler : String := String.ofList (List.replicate 80 '=')

/-- Prints a title between rulers. -/
def title (w : Workspace m) (text : String) : Action m Unit := do
  w.line ruler
  w.line text
  w.line ruler

/-- The number of items of a long list that are shown. -/
def shownItems : Nat := 10

/-- Prints the first items of a list and how many there are more. -/
def shortened (w : Workspace m) (items : List String) : Action m Unit := do
  (items.take shownItems).forM fun item => w.line ("   - " ++ item)
  if shownItems < items.length then
    w.line ("   ... and " ++ toString (items.length - shownItems) ++ " more")

/-- Lists the entries of a requests file. -/
def runParse (w : Workspace m) (file : String) (filter : SectionFilter) : Action m Unit := do
  let entries ← attempt (Requests.extractFile filter file (← w.contents file))
  w.line (Requests.listing entries)

/-- Imports a requests file for a competition. -/
def runImport (w : Workspace m) (dbPath file competition : String) (filter : SectionFilter) :
    Action m Unit := do
  w.line ("📖 Parsing " ++ file ++ " (section: " ++ filter.label ++ ")...")
  let entries ← attempt (Requests.extractFile filter file (← w.contents file))
  w.line ("   Found " ++ toString entries.length ++ " skaters")
  w.line ("\n💾 Importing (competition: " ++ competition ++ ")...")
  let session ← w.openTables dbPath
  let (summary, store) ← attempt (session.importEntries competition entries)
  w.save session store
  w.line ("✅ Imported " ++ toString summary.skaters ++ " skaters with " ++
    toString summary.relations ++ " event relationships (" ++ toString summary.events ++
    " events)")

/-- Writes the entries of a requests file as a sheet. -/
def runExport (w : Workspace m) (file output : String) (filter : SectionFilter) :
    Action m Unit := do
  let entries ← attempt (Requests.extractFile filter file (← w.contents file))
  w.write (.createCsv output) output (Requests.sheet entries)
  w.line ("✓ Wrote " ++ toString entries.length ++ " entries to " ++ output)

/-- Prints the decision about a pair. -/
def showDecision (w : Workspace m) (d : PairDecision) : Action m Unit := do
  let shown (r : ScoredRelation) := r.id ++ " (score " ++ toString r.score ++ ")"
  w.line ("\n📌 DUPLICATE: " ++ d.subjectLabel ++ " at " ++ d.targetLabel)
  w.line ("   KEEP:   " ++ shown d.keep)
  d.delete.forM fun r => w.line ("   DELETE: " ++ shown r)

/-- Looks for duplicates and writes a deletion plan if there are any. -/
def runInvestigate (w : Workspace m) (dbPath out : String) : Action m Unit := do
  let session ← w.openTables dbPath
  w.line "Loading all competed_in relations..."
  let relations ← attempt session.store.relations
  w.line ("Found " ++ toString relations.length ++ " total competed_in records\n")
  let plan ← attempt session.store.plan
  w.title "DUPLICATE ANALYSIS"
  w.line plan.summary
  if plan.isEmpty then w.line "\n✅ No duplicates found!"
  else
    plan.groups.forM w.showDecision
    w.write (.writePlan out) out (PlanFile.toText plan.items)
    w.line ("\n💾 Deletion plan saved to: " ++ out)
    w.line "   Review it, take a backup, then run: photo-ledger cleanup"

/-- Prints what a cleanup did. -/
def showCleanup (w : Workspace m) (report : CleanupReport) : Action m Unit := do
  w.title "CLEANUP COMPLETE"
  w.line ("\nRecords BEFORE: " ++ toString report.before)
  w.line ("Records AFTER: " ++ toString report.after)
  w.line ("Records DELETED: " ++ toString report.deleted)
  w.line ("Expected deletion: " ++ toString report.planned)
  w.line ("Failed deletions: " ++ toString report.failed.length)
  if report.allDeleted then w.line "\n✅ All planned deletions executed successfully!"
  else
    w.line ("\n⚠️  Some deletions failed (" ++ toString report.failed.length ++ " failures)")
    (report.failed.take shownItems).forM fun (id, failure) =>
      w.line ("  - " ++ id ++ ": " ++ failure.message)

/-- Carries out the deletion plan of a file. -/
def runCleanup (w : Workspace m) (dbPath planPath : String) : Action m Unit := do
  let items ← attempt (PlanFile.read planPath (← w.contents planPath))
  w.line ("Loaded deletion plan: " ++ toString items.length ++ " records to delete\n")
  let session ← w.openTables dbPath
  let (report, store) ← attempt (session.cleanup items)
  w.save session store
  w.showCleanup report
  w.line "\nVerifying cleanup..."
  let remaining ← attempt store.remainingDuplicates
  if 0 < remaining then
    w.line ("⚠️  WARNING: " ++ toString remaining ++ " duplicate pairs still remain")
  else w.line "✅ No duplicates remain - cleanup successful!"

/-- An address to fill in, in one line. -/
def emailLine (u : EmailUpdate) : String := u.lastName ++ ", " ++ u.firstName ++ " → " ++ u.email

/-- A family to form, in one line. -/
def familyLine (g : FamilyGroup) : String :=
  g.lastName ++ ", " ++ " and ".intercalate g.firstNames ++ " → " ++ g.email.getD "(no email)"

/-- Prints what a contacts file says. -/
def showReport (w : Workspace m) (report : ContactReport) : Action m Unit := do
  w.title "VALIDATION REPORT"
  w.line ("\n✓ MATCHED: " ++ toString report.matched.length ++
    " CSV contacts matched to DB skaters")
  w.line ("✗ UNMATCHED: " ++ toString report.unmatched.length ++ " CSV contacts not found in DB")
  if !report.emailUpdates.isEmpty then
    w.line ("\n📧 EMAILS TO POPULATE: " ++ toString report.emailUpdates.length)
    w.shortened (report.emailUpdates.map emailLine)
  if !report.familyGroups.isEmpty then
    w.line ("\n👨‍👩‍👧‍👦 POTENTIAL FAMILY GROUPS: " ++ toString report.familyGroups.length)
    w.shortened (report.familyGroups.map familyLine)
  w.line ("\n" ++ ruler)

/-- Looks contacts up among the stored skaters, and writes what follows if asked to. A directory
counts as a contacts file without rows. -/
def runValidateContacts (w : Workspace m) (dbPath csv : String) (execute : Bool) :
    Action m Unit := do
  let session ← w.openTables dbPath
  w.line "Loading database state..."
  let skaters ← attempt session.store.storedSkaters
  w.line ("Found " ++ toString skaters.length ++ " skaters in DB\n")
  w.line ("Parsing " ++ csv ++ "...")
  let file ← if ← w.isDirectory csv then pure (some []) else w.contents csv
  let contacts ← attempt (Contact.ofFile csv file)
  w.line ("Parsed " ++ toString contacts.length ++ " contacts from CSV\n")
  let report := ContactReport.validate contacts skaters
  w.showReport report
  if execute then
    w.line "\n⚠️  EXECUTE MODE - Making changes..."
    let (summary, store) ← attempt (session.applyContacts report)
    w.save session store
    w.line ("✅ Created " ++ toString summary.familiesCreated ++ " family groups")
    w.line ("✅ Populated " ++ toString summary.emailsPopulated ++ " email addresses")
  else
    w.line "\n🔍 DRY RUN MODE - No changes made"
    w.line "Run with --execute to apply updates"

/-- Backs up all tables. -/
def runBackup (w : Workspace m) (dbPath out database : String) : Action m Unit := do
  let session ← w.openTables dbPath
  let backup ← attempt (Backup.create session.moment.time database session.store)
  w.write (.writeBackup out) out backup.toText
  w.line ("✅ Backup complete: " ++ out)
  w.line "\nBackup Statistics:"
  backup.tables.forM fun (name, rows) =>
    w.line ("  " ++ name ++ ": " ++ toString rows.length ++ " records")
  w.line ("  TOTAL: " ++ toString backup.totalRecords ++ " records")

/-- The path of a file in a directory. -/
def join (directory file : String) : String :=
  if directory.isEmpty || directory.toList.getLast? == some '/' then directory ++ file
  else directory ++ "/" ++ file

/-- The filter that a command uses: the section that it names, else the configured one. -/
def filterOf (config : Config) (sectionName : Option String) : SectionFilter :=
  .ofText (sectionName.getD config.requests.sectionName)

/-- Runs a command. -/
def runCommand (w : Workspace m) (config : Config) (dbPath : String) : Command → Action m Unit
  | .parse file sectionName => w.runParse file (filterOf config sectionName)
  | .importFile file competition sectionName =>
    w.runImport dbPath file competition (filterOf config sectionName)
  | .exportSheet file output sectionName =>
    w.runExport file output (filterOf config sectionName)
  | .investigate out => w.runInvestigate dbPath (out.getD config.requests.planPath)
  | .cleanup plan => w.runCleanup dbPath (plan.getD config.requests.planPath)
  | .validateContacts csv execute => w.runValidateContacts dbPath csv execute
  | .backup (some out) => w.runBackup dbPath out config.storage.database
  | .backup none => do
    let name := Backup.fileName (← w.clock)
    w.runBackup dbPath (join config.storage.backupDir name) config.storage.database

/-- Reads the configuration and runs a command. -/
def run (w : Workspace m) (i : Invocation) : Action m Unit := do
  let config ← w.config (i.configPath.getD Config.standardPath)
  w.runCommand config (i.dbPath.getD config.storage.dbPath) i.command

end SkaterLedger.Workspace

namespace SkaterLedger

/-- How a command line ended. -/
inductive Outcome where
  /-- The command did what it should. -/
  | done
  /-- The command failed. -/
  | failed (failure : Failure)
  /-- There was no command to run. -/
  | refused (refusal : Refusal)
deriving DecidableEq, Repr

namespace Outcome

/-- The exit code of an outcome. -/
def exitCode : Outcome → Nat
  | done => 0
  | failed _ => 1
  | refused .usage => 2
  | refused _ => 0

end Outcome

/-- The name and the version of the program. -/
def versionText : String := "photo-ledger 0.1.0"

/-- How the program is used. -/
def helpText : String :=
  "\n".intercalate
    ["Skater request import and duplicate cleanup", "",
      "Usage: photo-ledger [--config PATH] [--db PATH] COMMAND", "", "Commands:",
      "  parse FILE [--section NAME]", "  import FILE COMPETITION [--section NAME]",
      "  export FILE OUTPUT [--section NAME]", "  investigate [--out PATH]",
      "  cleanup [--plan PATH]", "  validate-contacts CSV [--execute]", "  backup [--out PATH]"]

/-- Carries out the words of a command line. -/
def Workspace.perform {m : Type → Type} [Monad m] (w : Workspace m) (words : List String) :
    m Outcome := do
  match Arguments.read words with
  | .ok invocation =>
    match ← (w.run invocation).run with
    | .ok () => pure .done
    | .error failure => pure (.failed failure)
  | .error refusal =>
    match refusal with
    | .version => w.print (versionText ++ "\n")
    | .help => w.print (helpText ++ "\n")
    | .usage => pure ()
    pure (.refused refusal)

end SkaterLedger
