import SkaterLedger.Contacts.Report
import SkaterLedger.Relations.Plan
import SkaterLedger.Store.Basic

/-!
# Queries

Reading skaters, relations and their labels from the store, and planning over what it holds.
-/

namespace SkaterLedger.Store

/-- The relation of a row. -/
def relationOfRow (r : RelationRow) : Except Failure Relation := do
  .ok {
    id := ← r.id.getText 0 "id"
    subject := ← r.inId.getText 1 "in_id"
    target := ← r.outId.getText 2 "out_id"
    requestStatus := ← r.requestStatus.getText? 3 "request_status"
    galleryStatus := ← r.galleryStatus.getText? 4 "gallery_status"
    purchaseAmount := ← r.purchaseAmount.getReal? 5 "purchase_amount"
    purchaseDate := ← r.purchaseDate.getText? 6 "purchase_date"
    notes := ← r.notes.getText? 7 "notes"
    galleryUrl := ← r.galleryUrl.getText? 8 "gallery_url"
    createdAt := ← r.createdAt.getText? 9 "created_at" }

/-- The relations, in the order in which they were added. -/
def relations (s : Store) : Except Failure (List Relation) := do
  (← need .competedIn s.competedIn).mapM relationOfRow

/-- The skater of a row. -/
def skaterOfRow (r : SkaterRow) : Except Failure StoredSkater := do
  .ok {
    id := ← r.id.getText 0 "id"
    firstName := ← r.firstName.getText 1 "first_name"
    lastName := ← r.lastName.getText 2 "last_name"
    email := ← r.email.getText? 3 "email" }

/-- The skaters, in the order in which they were added. -/
def storedSkaters (s : Store) : Except Failure (List StoredSkater) := do
  (← need .skaters s.skaters).mapM skaterOfRow

/-- The label of a skater's row: last and first name. -/
def subjectLabel (r : SkaterRow) : Except Failure (String × String) := do
  let id ← r.id.getText 0 "id"
  let first ← r.firstName.getText 1 "first_name"
  let last ← r.lastName.getText 2 "last_name"
  .ok (id, last ++ ", " ++ first)

/-- The name of the competition of an event that has no stored competition. -/
def unknownCompetition : String := "Unknown Competition"

/-- The label of an event's row: the name of the competition and the number of the event. -/
def targetLabel (competitions : List CompetitionRow) (r : EventRow) :
    Except Failure (String × String) := do
  let id ← r.id.getText 0 "id"
  let number ← r.eventNumber.getInteger 1 "event_number"
  let name ←
    match competitions.find? fun c => c.id.sameValue r.competition with
    | some c => c.name.getText? 2 "name"
    | none => .ok none
  .ok (id, name.getD unknownCompetition ++ " #" ++ toString number)

/-- The labels of all skaters and events. -/
def labels (s : Store) : Except Failure Labels := do
  let subjects ← (← need .skaters s.skaters).mapM subjectLabel
  let events ← need .events s.events
  let competitions ← need .competitions s.competitions
  .ok ⟨subjects, ← events.mapM (targetLabel competitions)⟩

/-- The deletion plan of the stored relations. -/
def plan (s : Store) : Except Failure DeletionPlan := do
  let relations ← s.relations
  DeletionPlan.make (← s.labels) relations

/-- The number of pairs of skater and event with more than one relation. -/
def remainingDuplicates (s : Store) : Except Failure Nat := do
  .ok (Relation.duplicateCount (← s.relations))

end SkaterLedger.Store
