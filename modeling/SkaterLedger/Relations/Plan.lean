import SkaterLedger.Relations.Relation

/-!
# Deletion plans

Of the relations of one skater and one event a plan keeps the most complete one, the oldest of
equally complete ones, and names the others for deletion. Pairs come in the order of their ids.
-/

namespace SkaterLedger

/-- Readable names for the ids of skaters and events. -/
structure Labels where
  /-- The names of skaters by id; the last entry of an id counts. -/
  subjects : List (String × String)
  /-- The names of events by id; the last entry of an id counts. -/
  targets : List (String × String)
deriving DecidableEq, Repr

namespace Labels

/-- No names. -/
def empty : Labels := ⟨[], []⟩

/-- The name of an id, the id itself if it has none. -/
def find (names : List (String × String)) (id : String) : String :=
  (names.reverse.lookup id).getD id

/-- The name of a skater. -/
def subject (labels : Labels) (id : String) : String := find labels.subjects id

/-- The name of an event. -/
def target (labels : Labels) (id : String) : String := find labels.targets id

end Labels

/-- What a plan tells about a relation. -/
structure ScoredRelation where
  /-- The relation's id. -/
  id : String
  /-- How complete the relation is. -/
  score : Nat
  /-- When the relation was made. -/
  createdAt : Option String
deriving DecidableEq, Repr

namespace ScoredRelation

/-- What a plan tells about a relation. -/
def ofRelation (r : Relation) : ScoredRelation := ⟨r.id, r.score, r.createdAt⟩

/-- When the relation was made, empty if that is not known. -/
def createdKey (r : ScoredRelation) : String := r.createdAt.getD ""

end ScoredRelation

/-- Why a relation is deleted and another one kept. -/
inductive DeletionReason where
  /-- It is less complete. -/
  | lowerScore (deleted kept : Nat)
  /-- It is as complete and younger. -/
  | createdLater (score : Nat)
  /-- It is as complete and as old, and comes later in the input. -/
  | inputOrder (score : Nat)
deriving DecidableEq, Repr

namespace DeletionReason

/-- The reason for keeping one relation instead of another. -/
def between (deleted kept : ScoredRelation) : DeletionReason :=
  if deleted.score < kept.score then lowerScore deleted.score kept.score
  else if kept.createdKey < deleted.createdKey then createdLater deleted.score
  else inputOrder deleted.score

/-- A score with the highest possible one. -/
def outOf (score : Nat) : String := toString score ++ "/" ++ toString Relation.maxScore

/-- How a reason is given in a plan. -/
def text : DeletionReason → String
  | lowerScore deleted kept =>
    "Lower data completeness score (" ++ outOf deleted ++ " vs " ++ outOf kept ++ ")"
  | createdLater score =>
    "Equal data completeness score (" ++ outOf score ++ "), created after kept record"
  | inputOrder score =>
    "Equal data completeness score (" ++ outOf score ++
      "), identical score and timestamp, input order"

end DeletionReason

/-- The decision about one pair of skater and event. -/
structure PairDecision where
  /-- The skater's id. -/
  subject : String
  /-- The event's id. -/
  target : String
  /-- The skater's name. -/
  subjectLabel : String
  /-- The event's name. -/
  targetLabel : String
  /-- The relation that is kept. -/
  keep : ScoredRelation
  /-- The relations to delete, the best first. -/
  delete : List ScoredRelation
deriving DecidableEq, Repr

/-- One relation to delete, as handed from planning to cleanup. -/
structure PlanItem where
  /-- The relation's id. -/
  id : String
  /-- The skater's name. -/
  subject : String
  /-- The event's name. -/
  target : String
  /-- Why it is deleted. -/
  reason : String
deriving DecidableEq, Repr

/-- A deletion plan. -/
structure DeletionPlan where
  /-- The decisions about the pairs with more than one relation. -/
  groups : List PairDecision
  /-- The relations to delete. -/
  items : List PlanItem
deriving DecidableEq, Repr

namespace Relation

/-- Whether one pair of ids comes before another or is the same: by skater, then by event. -/
def pairLe (a b : String × String) : Bool := a.1 < b.1 || (a.1 == b.1 && !(b.2 < a.2))

/-- Whether a relation may stand before another one of its pair: it is more complete, or as complete
and not younger. -/
def ranksBefore (a b : Relation) : Bool :=
  b.score < a.score || (a.score == b.score && !(b.createdKey < a.createdKey))

/-- The pairs of some relations, each once and in order. -/
def pairs (relations : List Relation) : List (String × String) :=
  (relations.map pair).eraseDups.mergeSort pairLe

/-- The relations of a pair, in input order. -/
def ofPair (relations : List Relation) (p : String × String) : List Relation :=
  relations.filter fun r => r.pair == p

/-- The pairs that have more than one relation, in order, with their relations. -/
def duplicates (relations : List Relation) : List ((String × String) × List Relation) :=
  ((pairs relations).map fun p => (p, ofPair relations p)).filter fun g => 1 < g.2.length

/-- The number of pairs that have more than one relation. -/
def duplicateCount (relations : List Relation) : Nat := (duplicates relations).length

end Relation

namespace PairDecision

/-- The decision about a pair, given its relations from the best on; a pair without relations needs
none. -/
def ofRanked? (labels : Labels) (p : String × String) : List Relation → Option PairDecision
  | [] => none
  | best :: rest =>
    some ⟨p.1, p.2, labels.subject p.1, labels.target p.2, .ofRelation best,
      rest.map .ofRelation⟩

/-- The decision about a pair and its relations. -/
def decide? (labels : Labels) (g : (String × String) × List Relation) : Option PairDecision :=
  ofRanked? labels g.1 (g.2.mergeSort Relation.ranksBefore)

/-- The item of a relation that a decision deletes. -/
def item (d : PairDecision) (deleted : ScoredRelation) : PlanItem :=
  ⟨deleted.id, d.subjectLabel, d.targetLabel, (DeletionReason.between deleted d.keep).text⟩

/-- The items of a decision. -/
def items (d : PairDecision) : List PlanItem := d.delete.map d.item

end PairDecision

namespace DeletionPlan

/-- The plan of some relations whose ids are in order. -/
def build (labels : Labels) (relations : List Relation) : DeletionPlan :=
  let groups := (Relation.duplicates relations).filterMap (PairDecision.decide? labels)
  ⟨groups, groups.flatMap PairDecision.items⟩

/-- The plan of some relations. Since it leads to deletions, no id may be malformed. -/
def make (labels : Labels) (relations : List Relation) : Except Failure DeletionPlan := do
  relations.forM Relation.checkIds
  .ok (build labels relations)

/-- Whether there is nothing to delete. -/
def isEmpty (p : DeletionPlan) : Bool := p.items.isEmpty

/-- The plan in one line. -/
def summary (p : DeletionPlan) : String :=
  "Duplicate pairs: " ++ toString p.groups.length ++ ", records to delete: " ++
    toString p.items.length ++ ", records to keep: " ++ toString p.groups.length

end DeletionPlan

end SkaterLedger
