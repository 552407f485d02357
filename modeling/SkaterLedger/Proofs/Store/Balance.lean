import SkaterLedger.Proofs.Json.Values
import SkaterLedger.Proofs.Store.Accounting
import SkaterLedger.Proofs.Store.ImportAccount
import SkaterLedger.Proofs.Store.Tables

/-!
# The audit trail accounts for the relations

An import tells the audit trail how many relations it adds, and a cleanup tells it the id of each
one that it deletes. Read back, the trail therefore accounts for all relations: those that were ever
added are those that are there and those of which the trail tells that they were deleted, and there
are as many as the imports have told of. `Balanced` says so of the rows and of a trail. The events of
the trail are of three kinds, and each kind keeps the balance together with what it does to the rows.
Nothing is ever taken out of the trail.
-/

namespace SkaterLedger

/-! ## Reading the trail -/

namespace Json

/-- The number that is written with nothing but digits. -/
def Numeral.natural? : Numeral → Option ℕ
  | ⟨false, whole, none, none⟩ => some (Text.numberOfDigits whole)
  | _ => none

/-- The number that an object has under a key, if it is written with nothing but digits. -/
def Tree.naturalAt? (key : String) : Tree → Option ℕ
  | .object members => do
    match (← keyed? members).lookup key with
    | some (.number n) => n.natural?
    | _ => none
  | _ => none

/-- A number of any size is read from its digits. -/
theorem Numeral.natural?_ofInt (n : ℕ) : (Numeral.ofInt n).natural? = some n := by
  have hsign : decide ((n : ℤ) < 0) = false := by simp
  unfold Numeral.ofInt Numeral.natural?
  rw [hsign, Int.natAbs_natCast]
  exact congrArg some (Text.numberOfDigits_decimal n)

end Json

/-- The number of relations that a row of the audit trail tells of. -/
def AuditRow.relationsTold? (r : AuditRow) : Option ℕ :=
  match r.data with
  | .text data => (Json.Tree.ofText? data.toList).bind (Json.Tree.naturalAt? "relations")
  | _ => none

/-- The row of an import tells of the relations in its summary. -/
theorem AuditRow.relationsTold?_import (m : Moment) (summary : ImportSummary) (number : ℤ) :
    (AuditLog.rowOf number (summary.event m)).relationsTold? = some summary.relations := by
  have hdata : (AuditLog.rowOf number (summary.event m)).data = .text summary.toJson.toCompact :=
    rfl
  unfold relationsTold?
  simp only [hdata, Json.toCompact, String.toList_ofList, Json.ofText?_compact, Option.bind_some]
  rw [ImportSummary.toJson, Json.Tree.ofValue, Json.Tree.naturalAt?, Json.keyed?_ofMembers]
  exact Json.Numeral.natural?_ofInt summary.relations

namespace AuditLog

/-- The rows of one kind of event. -/
def ofType (kind : String) (log : AuditLog) : List AuditRow :=
  log.rows.filter fun r => r.eventType == .text kind

/-- The ids of the relations of which the trail tells that they were deleted. -/
def deletedIds (log : AuditLog) : List Cell := (log.ofType "relation_deleted").map AuditRow.entityId

/-- The numbers of relations that the imports have told of. -/
def importedCounts? (log : AuditLog) : Option (List ℕ) :=
  (log.ofType "entries_imported").mapM AuditRow.relationsTold?

variable {log : AuditLog} {e : AuditEvent} {kind : String}

/-- An event of a kind is the last one of its kind. -/
theorem ofType_extend_of_eq (h : e.eventType = kind) :
    (log.extend e).ofType kind = log.ofType kind ++ [rowOf (log.lastId + 1) e] := by
  unfold ofType extend
  rw [List.filter_append, List.filter_singleton]
  simp [rowOf, h]

/-- An event of another kind is not one of the kind. -/
theorem ofType_extend_of_ne (h : e.eventType ≠ kind) :
    (log.extend e).ofType kind = log.ofType kind := by
  have hkind : (Cell.text e.eventType == Cell.text kind) = false := by simpa using h
  unfold ofType extend
  rw [List.filter_append, List.filter_singleton]
  simp [rowOf, hkind]

/-- The rows of a trail stay in front when it grows. -/
theorem rows_prefix_extend : log.rows <+: (log.extend e).rows := List.prefix_append _ _

end AuditLog

/-! ## The balance -/

/-- The relations that were ever added are those that are there and those that the trail tells to be
deleted, and the imports have told of as many as were added. -/
structure Balanced (added rows : List RelationRow) (log : AuditLog) : Prop where
  /-- Every id that was added is there or told to be deleted, as often as it was added. -/
  ids : (added.map RelationRow.id).Perm (rows.map RelationRow.id ++ log.deletedIds)
  /-- The numbers that the imports have told come to the number that was added. -/
  told : ∃ counts, log.importedCounts? = some counts ∧ counts.sum = added.length

namespace Balanced

variable {added rows before after : List RelationRow} {row : RelationRow} {log : AuditLog}
  {m : Moment} {competition : String} {entries : List Entry} {n : ℕ} {item : PlanItem}
  {report : ContactReport}

/-- Nothing was added and nothing is there. -/
theorem nil : Balanced [] [] .empty := ⟨.refl _, [], rfl, rfl⟩

/-- An event that tells neither of an import nor of a deletion leaves the balance. -/
theorem noted (h : Balanced added rows log) {e : AuditEvent}
    (himport : e.eventType ≠ "entries_imported") (hdeletion : e.eventType ≠ "relation_deleted") :
    Balanced added rows (log.extend e) := by
  constructor
  · unfold AuditLog.deletedIds
    rw [AuditLog.ofType_extend_of_ne hdeletion]
    exact h.ids
  · unfold AuditLog.importedCounts?
    rw [AuditLog.ofType_extend_of_ne himport]
    exact h.told

/-- What an import adds and what it tells are in balance. -/
theorem imported (h : Balanced added rows log) :
    Balanced (added ++ Store.importedRows m competition 0 entries)
      (rows ++ Store.importedRows m competition 0 entries)
      (log.extend ((ImportSummary.ofEntries competition entries).event m)) := by
  set summary := ImportSummary.ofEntries competition entries with hsummary
  set new := Store.importedRows m competition 0 entries with hnew
  have hkind : (summary.event m).eventType = "entries_imported" := rfl
  constructor
  · unfold AuditLog.deletedIds
    rw [AuditLog.ofType_extend_of_ne (by rw [hkind]; decide), List.map_append, List.map_append]
    -- The new ids come after all others on one side and between them on the other.
    calc List.Perm (added.map RelationRow.id ++ new.map RelationRow.id)
          (rows.map RelationRow.id ++ log.deletedIds ++ new.map RelationRow.id) :=
        h.ids.append_right _
      List.Perm _ (rows.map RelationRow.id ++ (new.map RelationRow.id ++ log.deletedIds)) := by
        rw [List.append_assoc]
        exact List.perm_append_comm.append_left _
      List.Perm _ (rows.map RelationRow.id ++ new.map RelationRow.id ++ log.deletedIds) := by
        rw [List.append_assoc]
  · -- What the import tells is read back from its row, and it is the number of the new relations.
    obtain ⟨counts, hcounts, hsum⟩ := h.told
    have hlength : summary.relations = new.length := by
      rw [hnew, length_importedRows, hsummary, ImportSummary.ofEntries]
    refine ⟨counts ++ [summary.relations], ?_, ?_⟩
    · unfold AuditLog.importedCounts? at hcounts ⊢
      rw [AuditLog.ofType_extend_of_eq hkind, List.mapM_append, hcounts, List.mapM_cons,
        AuditRow.relationsTold?_import]
      rfl
    · rw [List.sum_append, List.sum_singleton, hsum, hlength, List.length_append]

/-- A relation that is deleted and the event that tells of it are in balance. -/
theorem deleted (h : Balanced added (before ++ row :: after) log) (hid : row.id = .text item.id) :
    Balanced added (before ++ after) (log.extend (item.deletion m n)) := by
  have hkind : (item.deletion m n).eventType = "relation_deleted" := rfl
  constructor
  · unfold AuditLog.deletedIds
    rw [AuditLog.ofType_extend_of_eq hkind, List.map_append, List.map_append]
    have hentity : (AuditLog.rowOf (log.lastId + 1) (item.deletion m n)).entityId = row.id :=
      hid.symm
    rw [List.map_singleton, hentity]
    -- The id of the relation goes from among the rows to the end of the trail.
    calc List.Perm (added.map RelationRow.id)
          ((before ++ row :: after).map RelationRow.id ++ log.deletedIds) := h.ids
      List.Perm _ (row.id :: (before.map RelationRow.id ++ after.map RelationRow.id ++
          log.deletedIds)) := by
        rw [List.map_append, List.map_cons]
        exact List.perm_middle.append_right _
      List.Perm _ (before.map RelationRow.id ++ after.map RelationRow.id ++
          (log.deletedIds ++ [row.id])) := by
        rw [← List.append_assoc]
        exact (List.perm_append_singleton _ _).symm
  · unfold AuditLog.importedCounts?
    rw [AuditLog.ofType_extend_of_ne (by rw [hkind]; decide)]
    exact h.told

/-- Whatever becomes of the items of a cleanup, the balance is kept, and the trail only grows. -/
theorem account (h : Balanced added rows log) {s s' : Store} {outcomes : List ItemOutcome}
    (haccount : Store.Account m n s outcomes s') (hrows : s.competedIn = some rows)
    (hlog : s.auditLog = some log) :
    ∃ rows' log', s'.competedIn = some rows' ∧ s'.auditLog = some log' ∧
      Balanced added rows' log' ∧ log.rows <+: log'.rows := by
  -- Only an item that is carried out changes anything, in both tables at once.
  induction haccount generalizing rows log with
  | done n s => exact ⟨rows, log, hrows, hlog, h, List.prefix_rfl⟩
  | @deleted n s s' item outcomes before after row log' htable hid _ htrail _ _ ih =>
    obtain rfl : rows = before ++ row :: after := Option.some.inj (hrows.symm.trans htable)
    obtain rfl : log = log' := Option.some.inj (hlog.symm.trans htrail)
    obtain ⟨rows', log', hrows', hlog', hbalanced, hgrown⟩ := ih (h.deleted hid) rfl rfl
    exact ⟨rows', log', hrows', hlog', hbalanced, AuditLog.rows_prefix_extend.trans hgrown⟩
  | absent _ _ _ ih => exact ih h hrows hlog
  | refused _ _ _ _ ih => exact ih h hrows hlog

end Balanced

/-! ## Runs -/

namespace Usage

variable {u : Usage} {a : Action} {allowed : Usage → Action → Prop} {rows rows' : List RelationRow}
  {log log' : AuditLog} {history : List Relation}

/-- The trail of a store accounts for its relations, and the trails of its earlier states are the
beginnings of it. -/
structure Accounted (u : Usage) (rows : List RelationRow) (log : AuditLog) : Prop where
  /-- The store holds the rows. -/
  table : u.store.competedIn = some rows
  /-- It has the trail. -/
  trail : u.store.auditLog = some log
  /-- The trail accounts for the rows. -/
  balanced : Balanced u.added rows log
  /-- Earlier trails are in front. -/
  past : ∀ s ∈ u.past, ∃ before, s.auditLog = some before ∧ before.rows <+: log.rows

/-- A store that was just set up. -/
theorem fresh_accounted : fresh.Accounted [] .empty :=
  ⟨rfl, rfl, .nil, by simp [fresh]⟩

/-- An action that succeeds and keeps the balance, on a trail that only grows, is accounted for. -/
theorem Accounted.step_of_ok (hu : u.Accounted rows log) {s : Store} (h : a.perform u.store = .ok s)
    (hrows : s.competedIn = some rows') (hlog : s.auditLog = some log')
    (hbalanced : Balanced (u.step a).added rows' log') (hgrown : log.rows <+: log'.rows) :
    (u.step a).Accounted rows' log' := by
  refine ⟨?_, ?_, hbalanced, ?_⟩
  · rw [step_store_of_ok h]
    exact hrows
  · rw [step_store_of_ok h]
    exact hlog
  · rw [step_past_of_ok h, List.forall_mem_cons]
    refine ⟨⟨log, hu.trail, hgrown⟩, fun s' hs' => ?_⟩
    obtain ⟨before, hbefore, hprefix⟩ := hu.past s' hs'
    exact ⟨before, hbefore, hprefix.trans hgrown⟩

/-- Whatever is done, the trail goes on to account for the relations. -/
theorem Accounted.step (hu : u.Accounted rows log) (hconsistent : u.Consistent rows history)
    (a : Action) : ∃ rows' log', (u.step a).Accounted rows' log' := by
  cases h : a.perform u.store with
  | error failure =>
    rw [step_of_error h]
    exact ⟨rows, log, hu⟩
  | ok s =>
    cases a with
    | importEntries m competition entries =>
      have hadded := hconsistent.added_import h
      obtain ⟨⟨summary, s₁⟩, himport, rfl⟩ := map_eq_ok_iff.mp h
      obtain ⟨hrows, -⟩ := Store.importEntries_competedIn hu.table hconsistent.keys himport
      obtain ⟨log₁, hlog₁, hlog⟩ := Store.importEntries_trail himport
      obtain rfl : log = log₁ := Option.some.inj (hu.trail.symm.trans hlog₁)
      exact ⟨_, _, hu.step_of_ok h hrows hlog (hadded ▸ hu.balanced.imported)
        AuditLog.rows_prefix_extend⟩
    | cleanup m items =>
      have hadded := hconsistent.added_cleanup m items
      obtain ⟨⟨report, s₁⟩, hcleanup, rfl⟩ := map_eq_ok_iff.mp h
      obtain ⟨outcomes, -, haccount⟩ :=
        Store.exists_account_of_cleanup hu.table hconsistent.keys hcleanup
      obtain ⟨rows', log', hrows, hlog, hbalanced, hgrown⟩ :=
        hu.balanced.account haccount hu.table hu.trail
      exact ⟨rows', log', hu.step_of_ok h hrows hlog (hadded ▸ hbalanced) hgrown⟩
    | applyContacts m report =>
      have hadded := hconsistent.added_applyContacts m report
      obtain ⟨⟨summary, s₁⟩, hcontacts, rfl⟩ := map_eq_ok_iff.mp h
      have hrows := (Store.applyContacts_sameSchedule hcontacts).competedIn.trans hu.table
      obtain ⟨log₁, hlog₁, hlog⟩ := Store.applyContacts_trail hcontacts
      obtain rfl : log = log₁ := Option.some.inj (hu.trail.symm.trans hlog₁)
      have hkind : (Store.contactsEvent m report).eventType = "contacts_applied" := rfl
      refine ⟨_, _, hu.step_of_ok h hrows hlog ?_ AuditLog.rows_prefix_extend⟩
      rw [hadded]
      exact hu.balanced.noted (by rw [hkind]; decide) (by rw [hkind]; decide)

/-- Whatever a store has been through, its trail accounts for its relations. -/
theorem Reachable.accounted (hu : Reachable allowed u) : ∃ rows log, u.Accounted rows log := by
  induction hu with
  | fresh => exact ⟨[], .empty, fresh_accounted⟩
  | @step u a hu _ ih =>
    obtain ⟨rows, log, haccounted⟩ := ih
    obtain ⟨rows₁, history, hconsistent⟩ := hu.consistent
    obtain rfl : rows = rows₁ :=
      Option.some.inj (haccounted.table.symm.trans hconsistent.table)
    exact haccounted.step hconsistent a

/-- Whatever a store has been through: the ids that imports have ever added are those of the
relations that are there and those of the deletions that the audit trail tells of. As long as no id
was given twice, no id is in both or twice in one of them. The number of relations is the sum of what
the imports have told, less the number of deletions, and the trail of every earlier state is the
beginning of the trail. -/
theorem relations_accounted (hu : Reachable allowed u) :
    ∃ rows log counts n, u.store.competedIn = some rows ∧ u.store.auditLog = some log ∧
      (u.added.map RelationRow.id).Perm (rows.map RelationRow.id ++ log.deletedIds) ∧
      ((u.added.map RelationRow.id).Nodup →
        (rows.map RelationRow.id).Disjoint log.deletedIds ∧ log.deletedIds.Nodup) ∧
      log.importedCounts? = some counts ∧ u.store.countRelations = .ok n ∧
      (n : ℤ) = (counts.sum : ℤ) - ((log.ofType "relation_deleted").length : ℤ) ∧
      ∀ s ∈ u.past, ∃ before, s.auditLog = some before ∧ before.rows <+: log.rows := by
  obtain ⟨rows, log, htable, htrail, ⟨hids, counts, hcounts, hsum⟩, hpast⟩ := hu.accounted
  refine ⟨rows, log, counts, rows.length, htable, htrail, hids, ?_, hcounts, ?_, ?_, hpast⟩
  · intro hnodup
    obtain ⟨-, hdeleted, hdisjoint⟩ := List.nodup_append'.mp (hids.nodup_iff.mp hnodup)
    exact ⟨hdisjoint, hdeleted⟩
  · unfold Store.countRelations
    rw [htable]
    rfl
  · -- There are as many ids on both sides, and as many deletions as rows that tell of one.
    have hlength := hids.length_eq
    have hdeleted : log.deletedIds.length = (log.ofType "relation_deleted").length :=
      List.length_map _
    rw [List.length_map, List.length_append, List.length_map, hdeleted] at hlength
    rw [hsum, hlength]
    push_cast
    ring

/-- A relation is imported and deleted, once more listed and not there any more, an import fails for
its id is taken, and a contact report is written. -/
theorem relations_accounted_repeated :
    let e : Entry := ⟨"Kei", "Ito", [3, 4], none, .sent, none, none, [], none⟩
    let m (k : ℕ) : Moment := ⟨⟨k, 0⟩, fun n => .ofNat (10 * k + n), fun n => .ofNat (10 * k + n),
      fun n => .ofNat (10 * k + n), fun n => ⟨k, n + 1⟩⟩
    let item : PlanItem := ⟨"competed_in:0000000000000000000000000000000a", "", "", ""⟩
    let report : ContactReport := ⟨[], [], [⟨"skater:ito_kei", "Ito", "Kei", "kei@example.org"⟩],
      []⟩
    let imported := fresh.step (.importEntries (m 1) "Pony" [e])
    let cleaned := imported.step (.cleanup (m 2) [item, item])
    let u := (cleaned.step (.importEntries (m 1) "Pony" [e])).step (.applyContacts (m 3) report)
    Reachable (fun _ _ => True) u ∧ (u.added.map RelationRow.id).Nodup ∧
      ∃ rows log counts n, u.store.competedIn = some rows ∧ u.store.auditLog = some log ∧
        (u.added.map RelationRow.id).Perm (rows.map RelationRow.id ++ log.deletedIds) ∧
        (rows.map RelationRow.id).Disjoint log.deletedIds ∧ log.deletedIds.Nodup ∧
        log.importedCounts? = some counts ∧ u.store.countRelations = .ok n ∧
        (n : ℤ) = (counts.sum : ℤ) - ((log.ofType "relation_deleted").length : ℤ) ∧
        ∀ s ∈ u.past, ∃ before, s.auditLog = some before ∧ before.rows <+: log.rows := by
  intro e m item report imported cleaned u
  have himported : Reachable (fun _ _ => True) imported := .step .fresh trivial
  have hcleaned : Reachable (fun _ _ => True) cleaned := himported.step trivial
  have hu : Reachable (fun _ _ => True) u := (hcleaned.step trivial).step trivial
  have hfails : ∃ failure, (Action.importEntries (m 1) "Pony" [e]).perform cleaned.store =
      .error failure := by
    dsimp only [cleaned, imported, item, m, e]
    exact ⟨_, rfl⟩
  obtain ⟨failure, hfails⟩ := hfails
  have hids : (u.added.map RelationRow.id).Nodup := by
    have hsame : cleaned.step (.importEntries (m 1) "Pony" [e]) = cleaned := step_of_error hfails
    obtain ⟨_, _, hconsistent⟩ := hcleaned.consistent
    obtain ⟨_, _, hconsistent'⟩ := himported.consistent
    have hadded : u.added = imported.added := by
      dsimp only [u]
      rw [hsame, hconsistent.added_applyContacts, hconsistent'.added_cleanup]
    rw [hadded]
    dsimp only [imported, e, m]
    decide
  obtain ⟨rows, log, counts, n, htable, htrail, hperm, hnodup, hcounts, hcount, hsum, hpast⟩ :=
    relations_accounted hu
  obtain ⟨hdisjoint, hdeleted⟩ := hnodup hids
  exact ⟨hu, hids, rows, log, counts, n, htable, htrail, hperm, hdisjoint, hdeleted, hcounts,
    hcount, hsum, hpast⟩

end Usage

end SkaterLedger
