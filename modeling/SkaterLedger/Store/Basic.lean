import SkaterLedger.Calendar.Instant
import SkaterLedger.Store.Rows
import SkaterLedger.Uuid

/-!
# The store

Seven tables, each of which may be missing. Rows stand in the order in which they were added, except
that the audit trail is in the order of its row numbers.
-/

namespace SkaterLedger

/-- The audit trail. -/
structure AuditLog where
  /-- The rows, in the order of their numbers. -/
  rows : List AuditRow
  /-- The largest number that a row ever had, at least 0. -/
  lastId : Int
deriving DecidableEq, Repr

/-- The tables of the store; `none` stands for a table that does not exist. -/
structure Store where
  /-- The competitions. -/
  competitions : Option (List CompetitionRow)
  /-- The events. -/
  events : Option (List EventRow)
  /-- The skaters. -/
  skaters : Option (List SkaterRow)
  /-- The families. -/
  families : Option (List FamilyRow)
  /-- Which skater takes part in which event. -/
  competedIn : Option (List RelationRow)
  /-- Which skater belongs to which family. -/
  belongsTo : Option (List LinkRow)
  /-- The audit trail. -/
  auditLog : Option AuditLog
deriving DecidableEq, Repr

/-- What a step takes from outside: the time, ids for its new rows, numbered from 0 in each table, and
the time of each audit row, for which the clock is read again. -/
structure Moment where
  /-- The time of the step. -/
  time : Instant
  /-- The ids of new relations. -/
  relation : Nat → Uuid
  /-- The ids of new links. -/
  link : Nat → Uuid
  /-- The ids of new audit rows. -/
  audit : Nat → Uuid
  /-- The times of new audit rows. -/
  auditTime : Nat → Instant := fun _ => time

namespace Moment

/-- What new rows hold as the time they were made. -/
def createdAt (m : Moment) : String := m.time.timestamp

/-- The id of a new relation. -/
def relationId (m : Moment) (n : Nat) : String := "competed_in:" ++ (m.relation n).simple

/-- The id of a new link. -/
def linkId (m : Moment) (n : Nat) : String := "belongs_to:" ++ (m.link n).simple

/-- The id of a new audit row. -/
def auditId (m : Moment) (n : Nat) : String := (m.audit n).hyphenated

end Moment

namespace AuditLog

/-- The audit trail without rows. -/
def empty : AuditLog := ⟨[], 0⟩

/-- Puts a row at the place of its number. -/
def place (r : AuditRow) : List AuditRow → List AuditRow
  | [] => [r]
  | s :: rest => if r.id < s.id then r :: s :: rest else s :: place r rest

/-- The largest number that a row can have. -/
def maxId : Int := 0x7FFFFFFFFFFFFFFF

/-- The number of the next row. After the largest one there is none. -/
def nextId (log : AuditLog) : Except StoreFault Int :=
  if log.lastId < maxId then .ok (log.lastId + 1) else .error .full

/-- Adds the row of some values; without a number it gets the next one. -/
def insert (values : List (String × Cell)) (log : AuditLog) : Except StoreFault AuditLog := do
  Shape.auditLog.checkColumns values
  let number ←
    match ((values.lookup "id").getD .null).store .integer with
    | .null => log.nextId
    | .integer n => .ok n
    | _ => .error .notARowNumber
  let r := Shape.auditLog.rowOf (("id", .integer number) :: values)
  Shape.auditLog.check r log.rows
  .ok ⟨place r log.rows, max log.lastId number⟩

end AuditLog

namespace Store

/-- The store without tables. -/
def empty : Store := ⟨none, none, none, none, none, none, none⟩

/-- The store with the tables that were missing, without rows. -/
def setup (s : Store) : Store where
  competitions := some (s.competitions.getD [])
  events := some (s.events.getD [])
  skaters := some (s.skaters.getD [])
  families := some (s.families.getD [])
  competedIn := some (s.competedIn.getD [])
  belongsTo := some (s.belongsTo.getD [])
  auditLog := some (s.auditLog.getD .empty)

/-- A new store: all tables, no rows. -/
def fresh : Store := empty.setup

/-- A table's contents, a failure if the table does not exist. -/
def need (table : Table) : Option α → Except Failure α
  | some a => .ok a
  | none => .error (.store (.noSuchTable table))

/-- Whether a table exists. -/
def has (s : Store) : Table → Bool
  | .competitions => s.competitions.isSome
  | .events => s.events.isSome
  | .skaters => s.skaters.isSome
  | .families => s.families.isSome
  | .competedIn => s.competedIn.isSome
  | .belongsTo => s.belongsTo.isSome
  | .auditLog => s.auditLog.isSome

/-- The store without a table. -/
def without (s : Store) : Table → Store
  | .competitions => { s with competitions := none }
  | .events => { s with events := none }
  | .skaters => { s with skaters := none }
  | .families => { s with families := none }
  | .competedIn => { s with competedIn := none }
  | .belongsTo => { s with belongsTo := none }
  | .auditLog => { s with auditLog := none }

/-- Drops a table. -/
def drop (s : Store) (table : Table) : Except Failure Store :=
  if s.has table then .ok (s.without table) else .error (.store (.noSuchTable table))

/-- The rows of a table that has a shape, with the names of the columns. -/
def namedRows (shape : Shape ρ) (rows : Option (List ρ)) :
    Except Failure (List (List (String × Cell))) := do
  .ok ((← need shape.table rows).map shape.named)

/-- The rows of a table, with the names of the columns. -/
def rows (s : Store) : Table → Except Failure (List (List (String × Cell)))
  | .competitions => namedRows .competitions s.competitions
  | .events => namedRows .events s.events
  | .skaters => namedRows .skaters s.skaters
  | .families => namedRows .families s.families
  | .competedIn => namedRows .competedIn s.competedIn
  | .belongsTo => namedRows .belongsTo s.belongsTo
  | .auditLog => namedRows .auditLog (s.auditLog.map (·.rows))

/-- Adds the row of some values to a table's rows. -/
def insertInto (shape : Shape ρ) (values : List (String × Cell)) (rows : Option (List ρ)) :
    Except Failure (List ρ) := do
  (shape.insert values (← need shape.table rows)).mapError .store

/-- Adds the row of some values to a table. -/
def insert (s : Store) (table : Table) (values : List (String × Cell)) : Except Failure Store := do
  match table with
  | .competitions =>
    .ok { s with competitions := some (← insertInto .competitions values s.competitions) }
  | .events => .ok { s with events := some (← insertInto .events values s.events) }
  | .skaters => .ok { s with skaters := some (← insertInto .skaters values s.skaters) }
  | .families => .ok { s with families := some (← insertInto .families values s.families) }
  | .competedIn => .ok { s with competedIn := some (← insertInto .competedIn values s.competedIn) }
  | .belongsTo => .ok { s with belongsTo := some (← insertInto .belongsTo values s.belongsTo) }
  | .auditLog =>
    let log ← need .auditLog s.auditLog
    .ok { s with auditLog := some (← (log.insert values).mapError .store) }

/-- The number of rows of a table. -/
def count (s : Store) (table : Table) : Except Failure Nat := do .ok (← s.rows table).length

/-- The number of rows of the table of a name. -/
def countNamed (s : Store) (name : String) : Except Failure Nat :=
  match Table.ofName? name with
  | some table => s.count table
  | none => .error (.unknownTable name)

/-- The number of relations. -/
def countRelations (s : Store) : Except Failure Nat := do
  .ok (← need .competedIn s.competedIn).length

end Store

end SkaterLedger
