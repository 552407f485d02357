import SkaterLedger.Store.Cleanup
import SkaterLedger.Store.File
import SkaterLedger.Store.Households
import SkaterLedger.Store.Import
import SkaterLedger.Store.Location

/-!
# Opened stores

Opening a store makes the tables that are missing, and a file that has a log can only be used by those
who share it. On a store that may only be read, each step fails at the first thing it would write.
-/

namespace SkaterLedger

/-- What a location makes of the store that is kept there. -/
def Location.accept (l : Location) (kept : KeptStore) : Except StoreFault KeptStore :=
  if kept.logged && l.guarded == .alone then .error .notUsable
  else
    let next : KeptStore := ⟨kept.store.setup, kept.logged || l.guarded == .shared⟩
    if l.writable || next = kept then .ok next else .error .readOnly

/-- A store that was opened. -/
structure OpenStore where
  /-- The store. -/
  store : Store
  /-- The time, and ids for new rows. -/
  moment : Moment
  /-- Whether the store may be changed. -/
  writable : Bool

/-- What deleting the relations of a plan comes to if nothing may be written. -/
def Store.cleanupRefused (items : List PlanItem) (s : Store) : Except Failure CleanupReport := do
  let n ← s.countRelations
  .ok ⟨n, n, 0, items.length, items.map fun item => (item.id, .deletion .readOnly)⟩

/-- The first thing that fails of a contact report if nothing may be written. -/
def Store.contactsRefused (report : ContactReport) (s : Store) : Failure :=
  match report.familyGroups, report.emailUpdates with
  | g :: _, _ => .upsertFamily (familyId g.lastName)
  | [], u :: _ =>
    match s.firstFamily? u.skaterId with
    | .error failure => failure
    | .ok (some _) => .store .readOnly
    | .ok none => .upsertFamily (familyId u.lastName)
  | [], [] => .store .readOnly

namespace OpenStore

/-- Imports entries for a competition. -/
def importEntries (competition : String) (entries : List Entry) (o : OpenStore) :
    Except Failure (ImportSummary × Store) :=
  if o.writable then o.store.importEntries o.moment competition entries
  else .error (.store .readOnly)

/-- Carries out the items of a plan. -/
def cleanup (items : List PlanItem) (o : OpenStore) : Except Failure (CleanupReport × Store) :=
  if o.writable then o.store.cleanup o.moment items
  else (o.store.cleanupRefused items).map fun report => (report, o.store)

/-- Writes a contact report. -/
def applyContacts (report : ContactReport) (o : OpenStore) :
    Except Failure (ContactSummary × Store) :=
  if o.writable then o.store.applyContacts o.moment report
  else .error (o.store.contactsRefused report)

end OpenStore

end SkaterLedger
