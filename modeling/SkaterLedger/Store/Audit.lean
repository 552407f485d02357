import SkaterLedger.Calendar.Rfc3339
import SkaterLedger.Json.Reading
import SkaterLedger.Store.Basic

/-!
# The audit trail

Every change of the store leaves an event in the audit trail, together with the change or not at
all.
-/

namespace SkaterLedger

/-- An event of the audit trail. -/
structure AuditEvent where
  /-- The event's id. -/
  eventId : String
  /-- When it happened. -/
  timestamp : Instant
  /-- What happened. -/
  eventType : String
  /-- The kind of thing that it happened to. -/
  entityType : String
  /-- The id of the thing. -/
  entityId : String
  /-- Details. -/
  data : Json
  /-- Who did it. -/
  actor : String

namespace AuditLog

/-- The row of an event. -/
def rowOf (number : Int) (e : AuditEvent) : AuditRow where
  id := number
  eventId := .text e.eventId
  timestamp := .text e.timestamp.timestamp
  eventType := .text e.eventType
  entityType := .text e.entityType
  entityId := .text e.entityId
  data := .text e.data.toCompact
  actor := .text e.actor

/-- Adds an event under the next number; its id has to be new. -/
def append (e : AuditEvent) (log : AuditLog) : Except StoreFault AuditLog := do
  let number ← log.nextId
  if log.rows.any fun r => r.eventId == .text e.eventId then
    .error (.notUnique .auditLog ["event_id"])
  else .ok ⟨log.rows ++ [rowOf number e], number⟩

end AuditLog

/-- The texts of an audit row. -/
structure AuditTexts where
  /-- The event's id. -/
  eventId : String
  /-- When it happened. -/
  timestamp : String
  /-- What happened. -/
  eventType : String
  /-- The kind of thing that it happened to. -/
  entityType : String
  /-- The id of the thing. -/
  entityId : String
  /-- Details. -/
  data : String
  /-- Who did it. -/
  actor : String
deriving DecidableEq, Repr

namespace AuditTexts

/-- Reads the texts of a row. -/
def ofRow (r : AuditRow) : Except Failure AuditTexts := do
  .ok {
    eventId := ← r.eventId.getText 0 "event_id"
    timestamp := ← r.timestamp.getText 1 "timestamp"
    eventType := ← r.eventType.getText 2 "event_type"
    entityType := ← r.entityType.getText 3 "entity_type"
    entityId := ← r.entityId.getText 4 "entity_id"
    data := ← r.data.getText 5 "data"
    actor := ← r.actor.getText 6 "actor" }

/-- The event of the texts of a row. -/
def toEvent (t : AuditTexts) : Except Failure AuditEvent :=
  match Rfc3339.strict? t.timestamp, Json.parse? t.data.toList with
  | none, _ => .error (.auditTimestamp t.timestamp)
  | _, none => .error .auditPayload
  | some time, some data =>
    .ok ⟨t.eventId, time, t.eventType, t.entityType, t.entityId, data, t.actor⟩

end AuditTexts

namespace Store

/-- Adds an event to the audit trail. -/
def insertAudit (e : AuditEvent) (s : Store) : Except Failure Store := do
  let log ← need .auditLog s.auditLog
  .ok { s with auditLog := some (← (log.append e).mapError .store) }

/-- The events of one thing, in the order of their rows. -/
def auditOf (s : Store) (entityType entityId : String) : Except Failure (List AuditEvent) := do
  let log ← need .auditLog s.auditLog
  let rows := log.rows.filter fun r =>
    r.entityType == .text entityType && r.entityId == .text entityId
  (← rows.mapM AuditTexts.ofRow).mapM AuditTexts.toEvent

end Store

end SkaterLedger
