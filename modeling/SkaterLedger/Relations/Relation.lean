import SkaterLedger.Json.Reading
import SkaterLedger.Relations.RecordId

/-!
# Relations

A relation says that a skater takes part in an event. Imports append relations without looking for
older ones, so the same pair of skater and event may have several; the score tells which of them
knows most.
-/

namespace SkaterLedger

/-- A stored relation of a skater and an event. -/
structure Relation where
  /-- The relation's own id. -/
  id : String
  /-- The skater's id. -/
  subject : String
  /-- The event's id. -/
  target : String
  /-- Whether the skater was on the list of requests. -/
  requestStatus : Option String
  /-- The state of the gallery. -/
  galleryStatus : Option String
  /-- The amount paid. -/
  purchaseAmount : Option Binary64
  /-- When it was paid. -/
  purchaseDate : Option String
  /-- Notes. -/
  notes : Option String
  /-- Where the gallery is. -/
  galleryUrl : Option String
  /-- When the relation was made, as a timestamp that sorts as text. -/
  createdAt : Option String
deriving DecidableEq, Repr

namespace Relation

/-- Skater and event. -/
def pair (r : Relation) : String × String := (r.subject, r.target)

/-- The weight of an amount paid. -/
def purchaseAmountWeight : Nat := 3

/-- The weight of notes. -/
def notesWeight : Nat := 2

/-- The weight of a gallery's address. -/
def galleryUrlWeight : Nat := 2

/-- The weight of a purchase date. -/
def purchaseDateWeight : Nat := 1

/-- The highest score. -/
def maxScore : Nat :=
  purchaseAmountWeight + notesWeight + galleryUrlWeight + purchaseDateWeight

/-- Whether a text says something: it is neither empty nor `NONE`. -/
def isPresent : Option String → Bool
  | none => false
  | some s => !s.isEmpty && s != "NONE"

/-- How complete a relation is: the weights of the fields that say something. -/
def score (r : Relation) : Nat :=
  (if r.purchaseAmount.isSome then purchaseAmountWeight else 0) +
    (if isPresent r.notes then notesWeight else 0) +
    (if isPresent r.galleryUrl then galleryUrlWeight else 0) +
    (if isPresent r.purchaseDate then purchaseDateWeight else 0)

/-- When the relation was made, empty if that is not known. -/
def createdKey (r : Relation) : String := r.createdAt.getD ""

/-- Checks the ids of a relation: its own, the skater's, the event's. -/
def checkIds (r : Relation) : Except Failure Unit := do
  let _ ← RecordId.parse .id r.id
  let _ ← RecordId.parse .subject r.subject
  let _ ← RecordId.parse .target r.target

/-- The names of the fields in documents, in order. -/
def fieldNames : List String :=
  ["id", "in", "out", "request_status", "gallery_status", "purchase_amount", "purchase_date",
    "notes", "gallery_url", "created_at"]

/-- The relation that a document holds. -/
def ofTree? (tree : Json.Tree) : Option Relation := do
  let fields ← tree.record? fieldNames
  let text? (name : String) := Json.Tree.optional Json.Tree.string? (fields.lookup name)
  some {
    id := ← (← fields.lookup "id").string?
    subject := ← (← fields.lookup "in").string?
    target := ← (← fields.lookup "out").string?
    requestStatus := ← text? "request_status"
    galleryStatus := ← text? "gallery_status"
    purchaseAmount := ← Json.Tree.optional Json.Tree.real? (fields.lookup "purchase_amount")
    purchaseDate := ← text? "purchase_date"
    notes := ← text? "notes"
    galleryUrl := ← text? "gallery_url"
    createdAt := ← text? "created_at" }

/-- The relation that a text holds. -/
def ofText? (text : String) : Option Relation := do
  ofTree? (← Json.Tree.ofText? text.toList)

end Relation

end SkaterLedger
