import SkaterLedger.Relations.Plan
import SkaterLedger.Store.Audit
import SkaterLedger.Store.Transaction

/-!
# Cleanup

Carrying out a deletion plan, one relation at a time: to delete it and to tell the audit trail of it
is one transaction. A failure is reported and the run goes on.
-/

namespace SkaterLedger

/-- What a cleanup did. -/
structure CleanupReport where
  /-- The number of relations before. -/
  before : Nat
  /-- The number of relations afterwards. -/
  after : Nat
  /-- The number of items carried out. -/
  deleted : Nat
  /-- The number of items of the plan. -/
  planned : Nat
  /-- The ids of the items that failed, and why. -/
  failed : List (String × Failure)
deriving DecidableEq, Repr

/-- Whether every item was carried out. -/
def CleanupReport.allDeleted (r : CleanupReport) : Bool :=
  r.deleted == r.planned && r.failed.isEmpty

/-- What the items of a plan have come to so far. -/
structure CleanupProgress where
  /-- The store. -/
  store : Store
  /-- The number of events that were made for the audit trail, each with an id and a time. -/
  drawn : Nat
  /-- The number of items carried out. -/
  deleted : Nat
  /-- The ids of the items that failed, and why. -/
  failed : List (String × Failure)

/-- Who cleans up. -/
def cleanupActor : String := "duplicate_cleanup"

/-- An item in the audit trail. -/
def PlanItem.toAuditJson (item : PlanItem) : Json :=
  .obj [("reason", .str item.reason), ("subject", .str item.subject), ("target", .str item.target)]

/-- The event of the audit trail that tells of an item, after `n` others. -/
def PlanItem.deletion (m : Moment) (n : Nat) (item : PlanItem) : AuditEvent :=
  ⟨m.auditId n, m.auditTime n, "relation_deleted", "competed_in", item.id, item.toAuditJson,
    cleanupActor⟩

namespace Store

/-- Deletes the relation of an id. -/
def deleteRelation (id : String) (s : Store) : Except Failure Store := do
  let rows ← need .competedIn s.competedIn
  if rows.any fun r => r.id == .text id then
    .ok { s with competedIn := some (rows.filter fun r => r.id != .text id) }
  else .error (.recordNotFound id)

/-- The statements that carry out an item, after `n` events: they delete its relation and tell the
audit trail. -/
def deletionStatements (m : Moment) (n : Nat) (item : PlanItem) (s : Store) :
    Except Stop (Unit × Store) := do
  let s ← s.execute (deleteRelation item.id)
  .ok ((), ← s.execute (insertAudit (item.deletion m n)))

/-- Carries out an item, after `n` events. Also returns the store that this leaves. -/
def deleteItem (m : Moment) (n : Nat) (item : PlanItem) (s : Store) :
    Except Failure Unit × Store :=
  s.transaction (deletionStatements m n item)

/-- Whether an event is made for an item: its relation is deleted, even if the trail then refuses the
event. -/
def draws (item : PlanItem) (s : Store) : Bool := (s.deleteRelation item.id).isOk

/-- The progress after one more item. -/
def advance (m : Moment) (p : CleanupProgress) (item : PlanItem) : CleanupProgress :=
  let drawn := if p.store.draws item then p.drawn + 1 else p.drawn
  match p.store.deleteItem m p.drawn item with
  | (.ok (), s) => ⟨s, drawn, p.deleted + 1, p.failed⟩
  | (.error failure, s) => ⟨s, drawn, p.deleted, p.failed ++ [(item.id, failure)]⟩

/-- Carrying out the items of a plan, and the store that this leaves. -/
def cleanupRun (m : Moment) (items : List PlanItem) (s : Store) :
    Except Failure CleanupReport × Store :=
  match s.countRelations with
  | .error failure => (.error failure, s)
  | .ok before =>
    let p := items.foldl (advance m) ⟨s, 0, 0, []⟩
    (p.store.countRelations.map fun after =>
      ⟨before, after, p.deleted, items.length, p.failed⟩, p.store)

/-- Carries out the items of a plan. -/
def cleanup (m : Moment) (items : List PlanItem) (s : Store) :
    Except Failure (CleanupReport × Store) :=
  settled (s.cleanupRun m items)

end Store

end SkaterLedger
