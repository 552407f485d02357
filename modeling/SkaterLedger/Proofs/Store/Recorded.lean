import SkaterLedger.Proofs.Calendar.Stored
import SkaterLedger.Proofs.Json.Nesting
import SkaterLedger.Proofs.Store.Trail

/-!
# The audit trail gives back what it was given

Every event that the audit trail takes becomes a row at its end (`Store.recordAll_fresh`), and the
rows of one thing are read back one by one, in their order. A row that cannot be read makes the
whole reading fail. The row of an event can be read, and gives the event, if its instant is one of
whole microseconds and the reader of the details does not give up on their nesting
(`AuditTexts.toEvent_ofEvent`). So after any events of this kind the audit trail has for each thing
the events that happened to it (`Store.auditOf_recordAll`).
-/

namespace SkaterLedger

/-! ## One event -/

namespace AuditEvent

/-- The instant and the details of an event have a notation that tells them. -/
structure Recordable (e : AuditEvent) : Prop where
  /-- Four digits write the year. -/
  year : e.timestamp.HasPlainYear
  /-- The instant does not lie in a leap second. -/
  clock : e.timestamp.isLeapSecond = false
  /-- It is one of whole microseconds. -/
  whole : e.timestamp.nanos % 1000 = 0
  /-- The details have no numbers but integers, and they are nested at most 127 deep. -/
  details : e.data.Plain 127

/-- Whether an event happened to a certain thing. -/
def Concerns (entityType entityId : String) (e : AuditEvent) : Bool :=
  e.entityType == entityType && e.entityId == entityId

variable {e : AuditEvent}

/-- An instant of a year of four digits is one of the calendar, unless it is a leap second. -/
theorem Recordable.valid (he : e.Recordable) : e.timestamp.Valid where
  year := by
    obtain ⟨hlow, hhigh⟩ := he.year
    unfold Rfc3339.yearInRange Rfc3339.firstYear Rfc3339.lastYear
    rw [Bool.and_eq_true, decide_eq_true_eq, decide_eq_true_eq]
    omega
  nanos := by
    have hclock := he.clock
    unfold Instant.isLeapSecond at hclock
    rw [decide_eq_false_iff_not] at hclock
    omega
  leap := by simp [he.clock]

end AuditEvent

namespace AuditTexts

/-- The texts of an event. -/
def ofEvent (e : AuditEvent) : AuditTexts :=
  ⟨e.eventId, e.timestamp.timestamp, e.eventType, e.entityType, e.entityId, e.data.toCompact,
    e.actor⟩

variable {e : AuditEvent}

/-- The row of an event is read as its texts. -/
theorem ofRow_rowOf (number : ℤ) (e : AuditEvent) :
    ofRow (AuditLog.rowOf number e) = .ok (ofEvent e) := rfl

/-- The texts of an event tell it. -/
theorem toEvent_ofEvent (he : e.Recordable) : (ofEvent e).toEvent = .ok e := by
  have htime := Rfc3339.strict?_timestamp he.valid he.year he.whole
  have hdata : Json.parse? e.data.toCompact.toList = some e.data := by
    rw [Json.toCompact, String.toList_ofList]
    exact he.details.parse?_compact (by decide)
  simp only [toEvent, ofEvent, htime, hdata]

end AuditTexts

/-! ## The trail -/

namespace AuditLog

/-- The rows of a trail are those of some events, in their order. -/
def Holds (log : AuditLog) (events : List AuditEvent) : Prop :=
  List.Forall₂ (fun r e => ∃ number, r = rowOf number e) log.rows events

variable {log : AuditLog} {events recorded : List AuditEvent}

/-- A trail that takes more events holds these as well. -/
theorem Holds.extendAll (h : log.Holds recorded) :
    (log.extendAll events).Holds (recorded ++ events) := by
  induction events generalizing log recorded with
  | nil => simpa [AuditLog.extendAll] using h
  | cons e events ih =>
    have hone : (log.extend e).Holds (recorded ++ [e]) :=
      List.rel_append h (.cons ⟨log.lastId + 1, rfl⟩ .nil)
    have hcons : log.extendAll (e :: events) = (log.extend e).extendAll events := rfl
    rw [hcons]
    simpa using ih hone

end AuditLog

namespace Store

variable {s : Store} {log : AuditLog} {e : AuditEvent} {events : List AuditEvent}
  {entityType entityId : String}

/-- A trail that holds events gives back those of each thing, in their order. -/
theorem auditOf_of_holds (hlog : s.auditLog = some log) (hholds : log.Holds events)
    (hevents : ∀ e ∈ events, e.Recordable) :
    s.auditOf entityType entityId = .ok (events.filter (·.Concerns entityType entityId)) := by
  have hrows : List.Forall₂ (fun r e => AuditTexts.ofRow r = .ok (.ofEvent e))
      (log.rows.filter fun r => r.entityType == .text entityType && r.entityId == .text entityId)
      (events.filter (·.Concerns entityType entityId)) := by
    refine List.Forall₂.imp ?_ (List.rel_filter ?_ hholds)
    · rintro r e ⟨number, rfl⟩
      exact AuditTexts.ofRow_rowOf number e
    · rintro r e ⟨number, rfl⟩
      simp [AuditLog.rowOf, AuditEvent.Concerns]
  have htexts : List.Forall₂ (fun e e' => AuditTexts.toEvent (.ofEvent e) = .ok e')
      (events.filter (·.Concerns entityType entityId))
      (events.filter (·.Concerns entityType entityId)) :=
    List.forall₂_same.mpr fun e he =>
      AuditTexts.toEvent_ofEvent (hevents e (List.mem_of_mem_filter he))
  refine bind_eq_ok_iff.mpr ⟨log, need_eq_ok_iff.mpr hlog, bind_eq_ok_iff.mpr
    ⟨(events.filter (·.Concerns entityType entityId)).map .ofEvent, mapM_eq_ok_iff.mpr ?_,
      mapM_eq_ok_iff.mpr ?_⟩⟩
  · exact List.forall₂_map_right_iff.mpr hrows
  · exact List.forall₂_map_left_iff.mpr htexts

/-! ## Events one after another -/

/-- The store after some events were given to it one after another, and those of them that it took.
An event that it does not take leaves it as it is. -/
def recordAll (s : Store) : List AuditEvent → Store × List AuditEvent
  | [] => (s, [])
  | e :: events =>
    match s.insertAudit e with
    | .ok s' => ((s'.recordAll events).1, e :: (s'.recordAll events).2)
    | .error _ => s.recordAll events

/-- What is recorded of events and of more events behind them. -/
theorem recordAll_append (s : Store) (events events' : List AuditEvent) :
    s.recordAll (events ++ events') =
      (((s.recordAll events).1.recordAll events').1,
        (s.recordAll events).2 ++ ((s.recordAll events).1.recordAll events').2) := by
  induction events generalizing s with
  | nil => rfl
  | cons e events ih =>
    rw [List.cons_append, recordAll, recordAll]
    cases s.insertAudit e with
    | ok s' => simp only [ih s', List.cons_append]
    | error failure => exact ih s

/-- Events that the trail admits are recorded, all of them. -/
theorem recordAll_of_admits (hlog : s.auditLog = some log) (h : log.Admits events) :
    s.recordAll events = ({ s with auditLog := some (log.extendAll events) }, events) := by
  induction events generalizing s log with
  | nil => simp [recordAll, AuditLog.extendAll, ← hlog]
  | cons e events ih =>
    obtain ⟨hfirst, hrest⟩ := AuditLog.admits_cons_iff.mp h
    have hinsert : s.insertAudit e = .ok { s with auditLog := some (log.extend e) } :=
      insertAudit_eq_ok_iff.mpr ⟨log, hlog, hfirst, rfl⟩
    have hlog' : ({ s with auditLog := some (log.extend e) } : Store).auditLog =
        some (log.extend e) := rfl
    rw [recordAll, hinsert]
    simp only [ih hlog' hrest]
    rfl

/-- A trail without numbers for more rows takes no event. -/
theorem recordAll_of_full (hlog : s.auditLog = some log) (hfull : AuditLog.maxId ≤ log.lastId)
    (events : List AuditEvent) : s.recordAll events = (s, []) := by
  induction events with
  | nil => rfl
  | cons e events ih =>
    cases hinsert : s.insertAudit e with
    | ok s' =>
      obtain ⟨log', hlog', hadmits, -⟩ := insertAudit_eq_ok_iff.mp hinsert
      obtain rfl := Option.some.inj (hlog.symm.trans hlog')
      exact absurd (AuditLog.admits_singleton_iff.mp hadmits).1 (not_lt.mpr hfull)
    | error failure =>
      rw [recordAll, hinsert]
      exact ih

/-- A new store records events of different ids as long as there are numbers for their rows. -/
theorem recordAll_fresh (hdistinct : (events.map AuditEvent.eventId).Nodup) :
    fresh.recordAll events =
      ({ fresh with
          auditLog := some (AuditLog.empty.extendAll (events.take AuditLog.maxId.toNat)) },
        events.take AuditLog.maxId.toNat) := by
  have hpositive : 0 ≤ AuditLog.maxId := by decide
  have hadmits : AuditLog.empty.Admits (events.take AuditLog.maxId.toNat) := by
    refine ⟨fun _ => ?_, by simp [AuditLog.empty], ?_⟩
    · have hlength := List.length_take_le AuditLog.maxId.toNat events
      simp only [AuditLog.empty]
      omega
    · exact hdistinct.sublist ((List.take_sublist _ _).map _)
  have hfresh : fresh.auditLog = some .empty := rfl
  have hrecorded := recordAll_of_admits hfresh hadmits
  rcases Nat.lt_or_ge AuditLog.maxId.toNat events.length with hlt | hle
  · -- Behind the events with the first numbers the trail is full.
    have hfull : AuditLog.maxId ≤
        (AuditLog.empty.extendAll (events.take AuditLog.maxId.toNat)).lastId := by
      rw [AuditLog.extendAll_eq, List.length_take_of_le hlt.le]
      simp only [AuditLog.empty]
      omega
    conv_lhs => rw [← List.take_append_drop AuditLog.maxId.toNat events]
    rw [recordAll_append, hrecorded, recordAll_of_full rfl hfull, List.append_nil]
  · rwa [List.take_of_length_le hle] at hrecorded ⊢

/-- After any events of different ids a new store has taken all of them, as far as there are numbers
for their rows, and it gives back for each thing the events that happened to it, in the order in
which they were recorded. -/
theorem auditOf_recordAll (hdistinct : (events.map AuditEvent.eventId).Nodup)
    (hevents : ∀ e ∈ events, e.Recordable) :
    (fresh.recordAll events).2 = events.take AuditLog.maxId.toNat ∧
      ∀ entityType entityId, (fresh.recordAll events).1.auditOf entityType entityId =
        .ok ((fresh.recordAll events).2.filter (·.Concerns entityType entityId)) := by
  have hempty : AuditLog.empty.Holds [] := .nil
  rw [recordAll_fresh hdistinct]
  exact ⟨rfl, fun entityType entityId => auditOf_of_holds rfl hempty.extendAll fun e he =>
    hevents e (List.mem_of_mem_take he)⟩

/-- The trail of a competition, with an event of a skater in between. -/
theorem auditOf_recordAll_competition :
    let time : Instant := ⟨1761853826, 123456000⟩
    let details : Json := .obj [("added", .arr [.int 3, .null]), ("done", .bool true)]
    let first : AuditEvent :=
      ⟨"1", time, "import", "competition", "competition:spring", details, "cli"⟩
    let second : AuditEvent := ⟨"2", time, "link", "skater", "skater:ann", .str "Bea", "cli"⟩
    let third : AuditEvent := ⟨"3", time, "import", "competition", "competition:spring", .null, ""⟩
    let events := [first, second, third]
    (events.map AuditEvent.eventId).Nodup ∧ (∀ e ∈ events, e.Recordable) ∧
      (fresh.recordAll events).2 = events ∧
      (fresh.recordAll events).1.auditOf "competition" "competition:spring" =
        .ok [first, third] := by
  intro time details first second third events
  have hdistinct : (events.map AuditEvent.eventId).Nodup := by decide
  have hdetails : details.Plain 127 := by
    refine .obj (by decide) (List.forall_mem_cons.mpr ⟨.arr ?_, List.forall_mem_singleton.mpr ?_⟩)
    · exact List.forall_mem_cons.mpr
        ⟨.int (by decide), List.forall_mem_singleton.mpr .null⟩
    · exact .bool true
  have hevents : ∀ e ∈ events, e.Recordable := by
    simp only [events, List.forall_mem_cons]
    exact ⟨⟨by decide, by decide, by decide, hdetails⟩, ⟨by decide, by decide, by decide, .str _⟩,
      ⟨by decide, by decide, by decide, .null⟩, List.forall_mem_nil _⟩
  obtain ⟨hrecorded, htrail⟩ := auditOf_recordAll hdistinct hevents
  have hall : events.take AuditLog.maxId.toNat = events := List.take_of_length_le (by decide)
  rw [hall] at hrecorded
  refine ⟨hdistinct, hevents, hrecorded, ?_⟩
  rw [htrail, hrecorded]
  rfl

end Store

end SkaterLedger
