import Mathlib.Data.List.Basic
import Mathlib.Data.List.Range
import SkaterLedger.Proofs.Store.Cleanup

/-!
# The account of a cleanup

A cleanup is given a list of items and goes through all of it, whatever the items are: some may be
listed twice, some may name relations that are not there, and the audit trail may refuse an event or
be missing. `Account` is the account of this, item by item. Each item either takes its relation away
and leaves its event in the trail, or it fails and changes nothing, and which of these happens is
decided by the store at that moment. `cleanup_account` shows that every cleanup has such an account
and that its report is the sum of it.
-/

namespace SkaterLedger

/-- An item of a list and how it came out. -/
structure ItemOutcome where
  /-- The item. -/
  item : PlanItem
  /-- Why the item failed, `none` if it was carried out. -/
  failure : Option Failure

namespace ItemOutcome

/-- Whether the item was carried out. -/
def isCarriedOut (o : ItemOutcome) : Bool := o.failure.isNone

/-- The entry of a report for the item: its id and why it failed, if it did. -/
def failed? (o : ItemOutcome) : Option (String × Failure) :=
  o.failure.map fun failure => (o.item.id, failure)

/-- The number of items that were carried out. -/
def carriedOut (outcomes : List ItemOutcome) : ℕ := outcomes.countP isCarriedOut

/-- The entries of a report for some items. -/
def failures (outcomes : List ItemOutcome) : List (String × Failure) := outcomes.filterMap failed?

/-- The first item counts if it was carried out. -/
theorem carriedOut_cons (o : ItemOutcome) (outcomes : List ItemOutcome) :
    carriedOut (o :: outcomes) = carriedOut [o] + carriedOut outcomes := by
  unfold carriedOut
  rw [← List.countP_append, List.singleton_append]

/-- The first item is reported first, if it failed. -/
theorem failures_cons (o : ItemOutcome) (outcomes : List ItemOutcome) :
    failures (o :: outcomes) = failures [o] ++ failures outcomes := by
  unfold failures
  rw [← List.filterMap_append, List.singleton_append]

end ItemOutcome

namespace AuditLog

end AuditLog

namespace PlanItem

variable {m : Moment} {n : ℕ} {item : PlanItem} {items : List PlanItem}

/-- The ids of the events of some items are told by their number. -/
theorem map_eventId_deletions (m : Moment) (n : ℕ) (items : List PlanItem) :
    (deletions m n items).map AuditEvent.eventId =
      (List.range items.length).map fun i => m.auditId (n + i) := by
  unfold deletions
  apply List.ext_getElem
  · simp
  · intro i _ _
    simp [deletion]

end PlanItem

namespace Store

variable {s s' : Store} {m : Moment} {n : ℕ} {item : PlanItem} {items : List PlanItem}
  {rows : List RelationRow} {log : AuditLog}

/-- The account of some items that are dealt with one after another, from one store to another,
after `n` events that were made for the audit trail. -/
inductive Account (m : Moment) : ℕ → Store → List ItemOutcome → Store → Prop
  /-- Nothing is left to be done. -/
  | done (n : ℕ) (s : Store) : Account m n s [] s
  /-- A relation has the item's id, and the trail takes its event: this relation goes, the others
  stay, and the trail has one more row. -/
  | deleted {n : ℕ} {s s' : Store} {item : PlanItem} {outcomes : List ItemOutcome}
      {before after : List RelationRow} {row : RelationRow} {log : AuditLog}
      (table : s.competedIn = some (before ++ row :: after))
      (named : row.id = .text item.id)
      (others : ∀ other ∈ before ++ after, other.id ≠ .text item.id)
      (trail : s.auditLog = some log)
      (admits : log.Admits [item.deletion m n])
      (rest : Account m (n + 1)
        { s with
          competedIn := some (before ++ after)
          auditLog := some (log.extend (item.deletion m n)) } outcomes s') :
      Account m n s (⟨item, none⟩ :: outcomes) s'
  /-- No relation has the item's id: it fails for that reason. -/
  | absent {n : ℕ} {s s' : Store} {item : PlanItem} {outcomes : List ItemOutcome}
      {rows : List RelationRow}
      (table : s.competedIn = some rows)
      (unnamed : ∀ row ∈ rows, row.id ≠ .text item.id)
      (rest : Account m n s outcomes s') :
      Account m n s (⟨item, some (.recordNotFound item.id)⟩ :: outcomes) s'
  /-- A relation has the item's id, but the trail does not take its event: it fails for the reason
  that the trail gives, the relation stays, and the id of the event is not used again. -/
  | refused {n : ℕ} {s s' : Store} {item : PlanItem} {outcomes : List ItemOutcome}
      {rows : List RelationRow} {failure : Failure}
      (table : s.competedIn = some rows)
      (named : ∃ row ∈ rows, row.id = .text item.id)
      (refusal : s.insertAudit (item.deletion m n) = .error failure)
      (rest : Account m (n + 1) s outcomes s') :
      Account m n s (⟨item, some failure⟩ :: outcomes) s'

/-! ## One item -/

/-- Where the key of relations holds, no other relation has the id of one of them. -/
theorem others_of_keysHold {before after : List RelationRow} {row : RelationRow}
    (hkeys : Shape.competedIn.KeysHold (before ++ row :: after)) (hid : row.id = .text item.id) :
    ∀ other ∈ before ++ after, other.id ≠ .text item.id := by
  have hkeys' : (row :: (before ++ after)).Pairwise fun a b => a.id ≠ .null → a.id ≠ b.id := by
    refine (List.perm_middle.pairwise_iff ?_).mp (Shape.competedIn_keysHold_iff.mp hkeys)
    intro a b hab hne heq
    exact hab (by rwa [← heq]) heq.symm
  intro other hother heq
  refine List.rel_of_pairwise_cons hkeys' hother ?_ (hid.trans heq.symm)
  simp [hid]

/-- Taking away the rows of an id that one row has takes away this row. -/
theorem unnamed_singleton_middle {before after : List RelationRow} {row : RelationRow}
    (hid : row.id = .text item.id) (hothers : ∀ other ∈ before ++ after, other.id ≠ .text item.id) :
    unnamed [item] (before ++ row :: after) = before ++ after := by
  have hkeep : ((before ++ after).filter fun row => row.id != .text item.id) = before ++ after := by
    rw [List.filter_eq_self]
    simpa using hothers
  rw [unnamed_singleton, List.filter_append, List.filter_cons_of_neg (by simp [hid]),
    ← List.filter_append, hkeep]

/-- Dealing with one item has an outcome that the account of the others can begin with, and it
leaves relations whose key holds. -/
theorem exists_outcome (m : Moment) (n k : ℕ) (item : PlanItem) (hrows : s.competedIn = some rows)
    (hkeys : Shape.competedIn.KeysHold rows) (failed : List (String × Failure)) :
    ∃ o n₁ s₁ rows₁, o.item = item ∧ s₁.competedIn = some rows₁ ∧
      Shape.competedIn.KeysHold rows₁ ∧
      (∀ outcomes s', Account m n₁ s₁ outcomes s' → Account m n s (o :: outcomes) s') ∧
      advance m ⟨s, n, k, failed⟩ item =
        ⟨s₁, n₁, k + ItemOutcome.carriedOut [o], failed ++ ItemOutcome.failures [o]⟩ := by
  by_cases hpresent : ∃ row ∈ rows, row.id = .text item.id
  · cases htrail : s.insertAudit (item.deletion m n) with
    | error failure =>
      -- The relation is there, so it is the trail that refuses.
      exact ⟨⟨item, some failure⟩, n + 1, s, rows, rfl, hrows, hkeys,
        fun _ _ hrest => .refused hrows hpresent htrail hrest,
        advance_refused hrows hpresent htrail⟩
    | ok told =>
      obtain ⟨log, hlog, hadmits, -⟩ := insertAudit_eq_ok_iff.mp htrail
      have hadvance : advance m ⟨s, n, k, failed⟩ item =
          ⟨s.afterDeletions m n [item] rows log, n + 1, k + 1, failed⟩ :=
        advance_present hrows hlog hpresent hadmits
      -- All rows of the id go, but the key of relations leaves only one that has it.
      obtain ⟨row, hrow, hid⟩ := hpresent
      obtain ⟨before, after, rfl⟩ := List.append_of_mem hrow
      have hothers := others_of_keysHold hkeys hid
      have hkeys' : Shape.competedIn.KeysHold (before ++ after) :=
        hkeys.sublist ((List.Sublist.refl before).append (List.sublist_cons_self row after))
      unfold afterDeletions at hadvance
      rw [unnamed_singleton_middle hid hothers] at hadvance
      refine ⟨⟨item, none⟩, n + 1, _, before ++ after, rfl, rfl, hkeys',
        fun _ _ hrest => .deleted hrows hid hothers hlog hadmits hrest, ?_⟩
      rw [show ItemOutcome.failures [⟨item, none⟩] = [] from rfl, List.append_nil]
      exact hadvance
  · have habsent : ∀ row ∈ rows, row.id ≠ .text item.id := by simpa using hpresent
    exact ⟨⟨item, some (.recordNotFound item.id)⟩, n, s, rows, rfl, hrows, hkeys,
      fun _ _ hrest => .absent hrows habsent hrest, advance_absent hrows habsent⟩

/-! ## All items -/

/-- Whatever the items are, dealing with them one after another has an account, of which the report
is the sum. -/
theorem exists_account (m : Moment) (n k : ℕ) (items : List PlanItem)
    (hrows : s.competedIn = some rows) (hkeys : Shape.competedIn.KeysHold rows)
    (failed : List (String × Failure)) :
    ∃ outcomes n' s', outcomes.map ItemOutcome.item = items ∧ Account m n s outcomes s' ∧
      items.foldl (advance m) ⟨s, n, k, failed⟩ =
        ⟨s', n', k + ItemOutcome.carriedOut outcomes, failed ++ ItemOutcome.failures outcomes⟩ := by
  -- Each item is dealt with as the ones before it have left the store and the report.
  induction items generalizing s rows n k failed with
  | nil =>
    exact ⟨[], n, s, rfl, .done n s, by simp [ItemOutcome.carriedOut, ItemOutcome.failures]⟩
  | cons item items ih =>
    obtain ⟨o, n₁, s₁, rows₁, hitem, hrows₁, hkeys₁, hbegin, hadvance⟩ :=
      exists_outcome m n k item hrows hkeys failed
    obtain ⟨outcomes, n', s', hitems, haccount, hrest⟩ := ih n₁ _ hrows₁ hkeys₁ _
    refine ⟨o :: outcomes, n', s', by rw [List.map_cons, hitem, hitems],
      hbegin outcomes s' haccount, ?_⟩
    rw [List.foldl_cons, hadvance, hrest, ItemOutcome.carriedOut_cons o outcomes,
      ItemOutcome.failures_cons o outcomes, Nat.add_assoc, List.append_assoc]

/-- A cleanup has an account of its items. -/
theorem exists_account_of_cleanup (hrows : s.competedIn = some rows)
    (hkeys : Shape.competedIn.KeysHold rows) {report : CleanupReport}
    (h : s.cleanup m items = .ok (report, s')) :
    ∃ outcomes, outcomes.map ItemOutcome.item = items ∧ Account m 0 s outcomes s' := by
  obtain ⟨outcomes, n', s₁, hitems, haccount, hrun⟩ := exists_account m 0 0 items hrows hkeys []
  obtain ⟨_, _, _, rfl, -, -, -, rfl⟩ := cleanup_eq_ok_iff.mp h
  rw [hrun]
  exact ⟨outcomes, hitems, haccount⟩

/-- An account speaks of the relations of the store: as many of them are gone as items were carried
out, none has been added, and no other table but the audit trail is touched. -/
theorem Account.competedIn {outcomes : List ItemOutcome} (h : Account m n s outcomes s')
    (hrows : s.competedIn = some rows) :
    { s' with competedIn := s.competedIn, auditLog := s.auditLog } = s ∧
      ∃ rows', s'.competedIn = some rows' ∧ rows'.Sublist rows ∧
        rows'.length + ItemOutcome.carriedOut outcomes = rows.length := by
  induction h generalizing rows with
  | done n s => exact ⟨rfl, rows, hrows, .refl rows, rfl⟩
  | @deleted n s s' item outcomes before after row log htable _ _ _ _ _ ih =>
    obtain rfl : rows = before ++ row :: after := Option.some.inj (hrows.symm.trans htable)
    obtain ⟨hothers, rows', hrows', hsub, hlength⟩ := ih rfl
    refine ⟨?_, rows', hrows', hsub.trans ?_, ?_⟩
    · exact congrArg
        (fun t : Store => { t with competedIn := s.competedIn, auditLog := s.auditLog }) hothers
    · exact (List.Sublist.refl before).append (List.sublist_cons_self row after)
    · have hcarried : ItemOutcome.carriedOut (⟨item, none⟩ :: outcomes) =
          ItemOutcome.carriedOut outcomes + 1 := List.countP_cons_of_pos rfl
      rw [List.length_append] at hlength
      rw [hcarried, List.length_append, List.length_cons]
      omega
  | absent _ _ _ ih => exact ih hrows
  | refused _ _ _ _ ih => exact ih hrows

end Store

/-- A report tells what a cleanup of some items has done to a store whose relations are some rows,
and what it has left. -/
structure CleanupReport.Tells (report : CleanupReport) (m : Moment) (items : List PlanItem)
    (rows : List RelationRow) (s s' : Store) : Prop where
  /-- The items were dealt with in their order, each as the store had it at that moment, and the
  report counts those that were carried out and lists the others. -/
  account : ∃ outcomes, outcomes.map ItemOutcome.item = items ∧ Store.Account m 0 s outcomes s' ∧
    report.deleted = ItemOutcome.carriedOut outcomes ∧
    report.failed = ItemOutcome.failures outcomes
  /-- All items are counted. -/
  planned : report.planned = items.length
  /-- Every item was carried out or failed. -/
  total : report.deleted + report.failed.length = report.planned
  /-- The relations are counted before and afterwards. -/
  counts : report.before = rows.length ∧
    ∃ rows', s'.competedIn = some rows' ∧ rows'.Sublist rows ∧ report.after = rows'.length
  /-- As many relations are gone as items were carried out. -/
  gone : report.before - report.after = report.deleted ∧ report.after ≤ report.before
  /-- The other tables are untouched. -/
  others : { s' with competedIn := s.competedIn, auditLog := s.auditLog } = s
  /-- As long as the audit trail takes all events, the relations that no item names are left, and
  all items are carried out exactly if no two name the same relation and all name one that is there.
  -/
  working : ∀ log, s.auditLog = some log → log.Admits (PlanItem.deletions m 0 items) →
    s'.competedIn = some (Store.unnamed items rows) ∧
    (report.allDeleted = true ↔
      (items.map PlanItem.id).Nodup ∧ ∀ item ∈ items, ∃ row ∈ rows, row.id = .text item.id)

namespace Store

variable {s : Store} {rows : List RelationRow}

/-- The id of the first event is taken. Its item fails and its relation stays, and the event of the
next item has an id of its own. -/
example :
    let row (id : String) : RelationRow := ⟨.text id, .text "skater:ito_kei", .text "event:pony_3",
      .null, .null, .null, .null, .null, .null, .null, .null, .null, .text "2001-01-02"⟩
    let item (id : String) : PlanItem := ⟨id, "Ito, Kei", "Pony #3", "listed by hand"⟩
    let m : Moment := ⟨⟨0, 0⟩, .ofNat, .ofNat, .ofNat, fun n => ⟨n + 1, 0⟩⟩
    let s : Store := { fresh with
      competedIn := some [row "competed_in:1", row "competed_in:2"]
      auditLog := some (AuditLog.empty.extend ((item "competed_in:0").deletion m 0)) }
    (s.cleanup m [item "competed_in:1", item "competed_in:2"]).map
        (fun r => (r.1, r.2.competedIn)) =
      .ok (⟨2, 1, 1, 2, [("competed_in:1", .store (.notUnique .auditLog ["event_id"]))]⟩,
        some [row "competed_in:1"]) := by
  rfl

end Store

end SkaterLedger
