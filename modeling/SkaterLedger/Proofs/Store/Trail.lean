import Mathlib.Data.List.Basic
import Mathlib.Tactic.Ring
import SkaterLedger.Proofs.Outcome
import SkaterLedger.Proofs.Store.Reading
import SkaterLedger.Store.Audit

/-!
# The audit trail as it grows

Adding an event to the audit trail puts a row at its end, under the next number, and fails if there
is no next number or the event's id is taken. `Admits` says of a list of events that all of them can
be added one after another, and `extendAll` is the trail with them. In a store nothing else changes
then (`insertAudit_eq_ok_iff`).
-/

namespace SkaterLedger

namespace AuditLog

/-- The trail with one more event. -/
def extend (log : AuditLog) (e : AuditEvent) : AuditLog :=
  ⟨log.rows ++ [rowOf (log.lastId + 1) e], log.lastId + 1⟩

/-- The trail with more events, in their order. -/
def extendAll (log : AuditLog) (events : List AuditEvent) : AuditLog :=
  events.foldl extend log

/-- The events can be added to the trail one after another: there are numbers for all of them, and
their ids are new and different from each other. -/
structure Admits (log : AuditLog) (events : List AuditEvent) : Prop where
  /-- Every event gets a number. -/
  room : events ≠ [] → log.lastId + events.length ≤ maxId
  /-- No row has the id of one of the events. -/
  unused : ∀ e ∈ events, ∀ r ∈ log.rows, r.eventId ≠ .text e.eventId
  /-- No two of the events have the same id. -/
  distinct : (events.map AuditEvent.eventId).Nodup

variable {log log' : AuditLog} {e : AuditEvent} {events : List AuditEvent}

/-- The next number is the one after the last, as long as that is a number. -/
theorem nextId_eq_ok_iff {number : Int} :
    log.nextId = .ok number ↔ log.lastId < maxId ∧ log.lastId + 1 = number := by
  unfold nextId
  split <;> simp_all

/-- One event is admitted exactly when there is a number for it and no row has its id. -/
theorem admits_singleton_iff :
    log.Admits [e] ↔ log.lastId < maxId ∧ ∀ r ∈ log.rows, r.eventId ≠ .text e.eventId := by
  constructor
  · rintro ⟨hroom, hunused, -⟩
    exact ⟨hroom (by simp), hunused e List.mem_cons_self⟩
  · rintro ⟨hroom, hunused⟩
    exact ⟨fun _ => hroom, by simpa using hunused, by simp⟩

/-- An event is added exactly when the trail admits it, and then at the end. -/
theorem append_eq_ok_iff : log.append e = .ok log' ↔ log.Admits [e] ∧ log.extend e = log' := by
  simp only [append, bind_eq_ok_iff, nextId_eq_ok_iff, admits_singleton_iff]
  constructor
  · rintro ⟨number, ⟨hroom, rfl⟩, h⟩
    split at h
    · cases h
    · rename_i htaken
      exact ⟨⟨hroom, by simpa using htaken⟩, Except.ok.inj h⟩
  · rintro ⟨⟨hroom, hunused⟩, rfl⟩
    refine ⟨_, ⟨hroom, rfl⟩, ?_⟩
    have htaken : (log.rows.any fun r => r.eventId == .text e.eventId) = false := by
      simpa using hunused
    simp [htaken, extend]

/-- Several events are admitted exactly when the first one is and then the others. -/
theorem admits_cons_iff :
    log.Admits (e :: events) ↔ log.Admits [e] ∧ (log.extend e).Admits events := by
  constructor
  · rintro ⟨hroom, hunused, hdistinct⟩
    have hroom' := hroom (by simp)
    rw [List.length_cons] at hroom'
    rw [List.map_cons, List.nodup_cons] at hdistinct
    -- The rows of the longer trail are the old ones and the first event's.
    refine ⟨⟨fun _ => ?_, ?_, by simp⟩, ⟨fun _ => ?_, ?_, hdistinct.2⟩⟩
    · rw [List.length_singleton]
      omega
    · simpa using hunused e List.mem_cons_self
    · simp only [extend]
      omega
    · intro e' he' r hr
      rcases List.mem_append.mp hr with hr | hr
      · exact hunused e' (List.mem_cons_of_mem _ he') r hr
      · obtain rfl := List.mem_singleton.mp hr
        simp only [rowOf, ne_eq, Cell.text.injEq]
        intro heq
        exact hdistinct.1 (heq ▸ List.mem_map_of_mem he')
  · rintro ⟨⟨hroom, hunused, -⟩, hroom', hunused', hdistinct'⟩
    refine ⟨fun _ => ?_, ?_, ?_⟩
    · cases events with
      | nil => simpa using hroom (by simp)
      | cons e' events =>
        have := hroom' (by simp)
        simp only [extend, List.length_cons] at this ⊢
        omega
    · intro e' he' r hr
      rcases List.mem_cons.mp he' with rfl | he'
      · exact hunused e' List.mem_cons_self r hr
      · exact hunused' e' he' r (List.mem_append_left _ hr)
    · rw [List.map_cons, List.nodup_cons]
      refine ⟨fun hmem => ?_, hdistinct'⟩
      obtain ⟨e', he', heq⟩ := List.mem_map.mp hmem
      exact hunused' e' he' (rowOf (log.lastId + 1) e) (by simp [extend]) (by simp [rowOf, heq])

/-- Adding events puts their rows at the end of the trail, numbered on from its last number. -/
theorem extendAll_eq (log : AuditLog) (events : List AuditEvent) :
    log.extendAll events =
      ⟨log.rows ++ events.mapIdx fun n e => rowOf (log.lastId + n + 1) e,
        log.lastId + events.length⟩ := by
  induction events generalizing log with
  | nil => simp [extendAll]
  | cons e events ih =>
    have hcons : log.extendAll (e :: events) = (log.extend e).extendAll events := rfl
    rw [hcons, ih, extend, List.mapIdx_cons, List.append_assoc, List.singleton_append,
      List.length_cons]
    have hlast : log.lastId + 1 + (events.length : Int) =
        log.lastId + ((events.length + 1 : ℕ) : Int) := by
      push_cast
      ring
    have hrows : (fun (n : ℕ) e => rowOf (log.lastId + 1 + n + 1) e) =
        fun (n : ℕ) e => rowOf (log.lastId + ((n + 1 : ℕ) : Int) + 1) e := by
      funext n e
      congr 1
      push_cast
      ring
    simp only [hlast, hrows, Nat.cast_zero, add_zero]

end AuditLog

namespace Store

variable {s s' : Store} {e : AuditEvent}

/-- The audit trail takes an event exactly when it admits it. -/
theorem insertAudit_eq_ok_iff :
    s.insertAudit e = .ok s' ↔
      ∃ log, s.auditLog = some log ∧ log.Admits [e] ∧
        { s with auditLog := some (log.extend e) } = s' := by
  simp only [insertAudit, bind_eq_ok_iff, need_eq_ok_iff, mapError_eq_ok_iff,
    AuditLog.append_eq_ok_iff, Except.ok.injEq]
  constructor
  · rintro ⟨log, hlog, _, ⟨hadmits, rfl⟩, rfl⟩
    exact ⟨log, hlog, hadmits, rfl⟩
  · rintro ⟨log, hlog, hadmits, rfl⟩
    exact ⟨log, hlog, _, ⟨hadmits, rfl⟩, rfl⟩

/-- Why an event is refused depends on the audit trail only. -/
theorem insertAudit_eq_error_of_auditLog_eq {failure : Failure} (h : s'.auditLog = s.auditLog)
    (hrefusal : s.insertAudit e = .error failure) : s'.insertAudit e = .error failure := by
  unfold insertAudit at hrefusal ⊢
  rw [h]
  cases hneed : need .auditLog s.auditLog with
  | error failure' =>
    rw [hneed] at hrefusal
    exact congrArg Except.error (Except.error.inj hrefusal)
  | ok log =>
    rw [hneed] at hrefusal
    simp only [bind, Except.bind] at hrefusal ⊢
    cases happend : (log.append e).mapError Failure.store with
    | error failure' =>
      rw [happend] at hrefusal
      exact congrArg Except.error (Except.error.inj hrefusal)
    | ok log' =>
      rw [happend] at hrefusal
      cases hrefusal

/-- Adding to the audit trail leaves the relations alone. -/
theorem insertAudit_competedIn (h : s.insertAudit e = .ok s') :
    s'.competedIn = s.competedIn := by
  obtain ⟨_, _, _, rfl⟩ := insertAudit_eq_ok_iff.mp h
  rfl

end Store

end SkaterLedger
