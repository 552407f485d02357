import SkaterLedger.Store.Audit
import SkaterLedger.Store.Ids
import SkaterLedger.Store.Transaction

/-!
# Imports

Storing the entries of a requests document for one competition. Competitions, skaters and events are
added or brought up to date by their ids; every event of every entry becomes a new relation. It is
one transaction.
-/

namespace SkaterLedger

/-- Brings the first row that a test accepts up to date, or adds a new row at the end. -/
def upsert (accepts : ρ → Bool) (update : ρ → ρ) (new : ρ) : List ρ → List ρ
  | [] => [new]
  | r :: rows => if accepts r then update r :: rows else r :: upsert accepts update new rows

/-- What an import did. -/
structure ImportSummary where
  /-- The competition's id. -/
  competitionId : String
  /-- The number of skaters in the document. -/
  skaters : Nat
  /-- The number of events in the document. -/
  events : Nat
  /-- The number of relations added. -/
  relations : Nat
deriving DecidableEq, Repr

namespace ImportSummary

/-- The summary of importing entries for a competition. -/
def ofEntries (competition : String) (entries : List Entry) : ImportSummary where
  competitionId := SkaterLedger.competitionId competition
  skaters := (entries.map Entry.skaterId).eraseDups.length
  events :=
    (entries.flatMap fun e => e.events.map (eventId competition)).eraseDups.length
  relations := (entries.flatMap (·.events)).length

/-- The summary in the audit trail. -/
def toJson (summary : ImportSummary) : Json :=
  .obj [("competition_id", .str summary.competitionId), ("events", .int summary.events),
    ("relations", .int summary.relations), ("skaters", .int summary.skaters)]

end ImportSummary

/-- Who imports. -/
def importActor : String := "requests_importer"

/-- The event of the audit trail that tells of an import. -/
def ImportSummary.event (m : Moment) (summary : ImportSummary) : AuditEvent :=
  ⟨m.auditId 0, m.auditTime 0, "entries_imported", "competition", summary.competitionId,
    summary.toJson, importActor⟩

namespace Store

/-- Stores a competition by its id. -/
def upsertCompetition (m : Moment) (name : String) (s : Store) : Except Failure Store := do
  let rows ← need .competitions s.competitions
  let id := Cell.text (competitionId name)
  let new : CompetitionRow := ⟨id, .text name, .text "", .null, .null, .text m.createdAt⟩
  .ok { s with
    competitions := some (upsert (·.id == id) (fun r => { r with name := .text name }) new rows) }

/-- A skater's row with the names of an entry, and its address if it has one. -/
def updateSkater (e : Entry) (r : SkaterRow) : SkaterRow :=
  { r with
    firstName := .text e.firstName
    lastName := .text e.lastName
    email := match e.email with
      | some email => .text email
      | none => r.email }

/-- Stores the skater of an entry by its id. -/
def upsertSkater (m : Moment) (e : Entry) (s : Store) : Except Failure Store := do
  let rows ← (need .skaters s.skaters).mapError fun _ => .upsertSkater e.skaterId
  let id := Cell.text e.skaterId
  let new : SkaterRow :=
    ⟨id, .text e.firstName, .text e.lastName, .ofText? e.email, .text m.createdAt⟩
  .ok { s with skaters := some (upsert (·.id == id) (updateSkater e) new rows) }

/-- Stores an event of a competition by its id. -/
def upsertEvent (m : Moment) (competition : String) (number : Nat) (s : Store) :
    Except Failure Store := do
  let rows ← (need .events s.events).mapError fun _ => .upsertEvent (eventId competition number)
  let id := Cell.text (eventId competition number)
  let new : EventRow :=
    ⟨id, .text (competitionId competition), .integer number, .null, .null, .text m.createdAt⟩
  .ok { s with
    events := some (upsert (·.id == id) (fun r => { r with eventNumber := .integer number }) new
      rows) }

/-- The amount paid: the net amount, unless it is zero. -/
def purchaseAmount (e : Entry) : Option Binary64 := e.netAmount.filter fun x => !x.isZero

/-- The relation that an entry has with one of its events. -/
def relationRow (m : Moment) (competition : String) (e : Entry) (n number : Nat) : RelationRow where
  id := .text (m.relationId n)
  inId := .text e.skaterId
  outId := .text (eventId competition number)
  skateOrder := .null
  requestStatus := .text e.requestStatus
  galleryStatus := .text e.status.word
  grossAmount := .ofReal? e.grossAmount
  netAmount := .ofReal? e.netAmount
  purchaseAmount := .ofReal? (purchaseAmount e)
  purchaseDate := if e.status = .purchased then .text m.createdAt else .null
  notes := if e.notes.isEmpty then .null else .text ("; ".intercalate e.notes)
  galleryUrl := .null
  createdAt := .text m.createdAt

/-- Adds a relation, whose id has to be new. -/
def addRelation (r : RelationRow) (s : Store) : Except Failure Store := do
  let rows ← need .competedIn s.competedIn
  if rows.any fun other => other.id == r.id then
    .error (.store (.notUnique .competedIn ["id"]))
  else .ok { s with competedIn := some (rows ++ [r]) }

/-- Stores one event of an entry and its relation, after `n` relations of the same import. -/
def importEvent (m : Moment) (competition : String) (e : Entry) (s : Store) (n number : Nat) :
    Except Stop Store := do
  let s ← s.execute (upsertEvent m competition number)
  s.execute fun s => (s.addRelation (relationRow m competition e n number)).mapError fun _ =>
    .relate e.skaterId (eventId competition number)

/-- Stores the events of an entry, after `n` relations of the same import. -/
def importEvents (m : Moment) (competition : String) (e : Entry) (s : Store) (n : Nat) :
    List Nat → Except Stop Store
  | [] => .ok s
  | number :: numbers => do
    let s ← importEvent m competition e s n number
    importEvents m competition e s (n + 1) numbers

/-- Stores entries, after `n` relations of the same import. -/
def importAll (m : Moment) (competition : String) (s : Store) (n : Nat) :
    List Entry → Except Stop Store
  | [] => .ok s
  | e :: entries => do
    let s ← s.execute (upsertSkater m e)
    let s ← importEvents m competition e s n e.events
    importAll m competition s (n + e.events.length) entries

/-- The statements of an import. -/
def importStatements (m : Moment) (competition : String) (entries : List Entry) (s : Store) :
    Except Stop (ImportSummary × Store) := do
  let s ← s.execute (upsertCompetition m competition)
  let s ← importAll m competition s 0 entries
  let summary := ImportSummary.ofEntries competition entries
  let s ← s.execute (insertAudit (summary.event m))
  .ok (summary, s)

/-- An import and the store that it leaves, whether it succeeds or not. -/
def importRun (m : Moment) (competition : String) (entries : List Entry) (s : Store) :
    Except Failure ImportSummary × Store :=
  s.transaction (importStatements m competition entries)

/-- Imports entries for a competition. Their amounts are numbers: an amount is read from digits, so
that it is never NaN, which `Binary64` does not have. -/
def importEntries (m : Moment) (competition : String) (entries : List Entry) (s : Store) :
    Except Failure (ImportSummary × Store) :=
  settled (s.importRun m competition entries)

end Store

end SkaterLedger
