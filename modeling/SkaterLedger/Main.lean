import SkaterLedger.Command.Run
import SkaterLedger.Digest
import SkaterLedger.Store.File
import Std.Time.Zoned

/-!
# The program

The command line on real files, with the time of the clock and ids from random bytes.
-/

namespace SkaterLedger.Console

/-- Runs an action that may fail, and tells whether it did. -/
def succeeds (action : IO Unit) : IO Bool := do
  try
    action
    pure true
  catch _ => pure false

/-- Whether something stands under a path. -/
def contains (path : String) : IO Bool := succeeds do discard (IO.FS.realPath path)

/-- Reads a file. -/
def contents (path : String) : IO (Option (List UInt8)) := do
  try
    pure (some (← IO.FS.readBinFile path).toList)
  catch _ => pure none

/-- Writes a file. -/
def writeFile (path text : String) : IO Bool := succeeds (IO.FS.writeFile path text)

/-- The present instant. -/
def now : IO Instant := do
  let t ← Std.Time.Timestamp.now
  pure ⟨t.val.second.val, t.val.nano.val.toNat⟩

/-- The time on the clock of the place. -/
def clock : IO CivilTime := do
  let t ← Std.Time.PlainDateTime.now
  pure {
    date := ⟨t.date.year, t.date.month.val.toNat, t.date.day.val.toNat⟩
    hour := t.time.hour.val.toNat
    minute := t.time.minute.val.toNat
    second := t.time.second.val.toNat }

/-- The bits that mark an identifier as a random one. -/
def marked (n : Nat) : Nat :=
  let bits (start count : Nat) : Nat := n >>> start % (1 <<< count)
  (bits 80 48 <<< 80) + (4 <<< 76) + (bits 64 12 <<< 64) + (2 <<< 62) + bits 0 62

/-- The identifiers that random bytes give: the digest of the bytes, a letter and a number. -/
def identifier (seed : ByteArray) (kind : Char) (n : Nat) : Uuid :=
  let digest := Digest.sha256 (seed.toList ++ Text.encode (kind :: Text.decimal n))
  .ofNat (marked ((Text.numberOfHex? (digest.toList.take 32)).getD 0))

/-- The present moment with new identifiers. The clock is read twice: for the step and for what it
tells the audit trail. -/
def moment : IO Moment := do
  let seed ← IO.getRandomBytes 32
  let time ← now
  let told ← now
  pure ⟨time, identifier seed 'r', identifier seed 'l', identifier seed 'a', fun _ => told⟩

/-- Whether a directory stands under a path. -/
def isDirectory (path : String) : IO Bool := do
  try
    (← IO.FS.realPath path).isDir
  catch _ => pure false

/-- Looks at the file of a store. -/
def findStore (path : String) : IO StoreFile := do
  if !(← contains path) then return .missing
  match ← contents path with
  | none => return .unusable
  | some bytes =>
    match KeptStore.ofFile? bytes with
    | some kept => return .kept kept
    | none => return .damaged

/-- The workspace of the process. -/
def workspace : Workspace IO where
  print text := do (← IO.getStdout).putStr text
  environment name := IO.getEnv name
  contains := contains
  isDirectory := isDirectory
  contents := contents
  writeFile := writeFile
  findStore := findStore
  saveStore path kept := writeFile path kept.toFileText
  moment _ := moment
  clock := clock

end SkaterLedger.Console

/-- Carries out the command line. -/
def main (words : List String) : IO UInt32 := do
  let outcome ← SkaterLedger.Console.workspace.perform words
  match outcome with
  | .failed failure => IO.eprintln ("Error: " ++ failure.message)
  | .refused .usage => IO.eprintln SkaterLedger.helpText
  | _ => pure ()
  pure (.ofNat outcome.exitCode)
