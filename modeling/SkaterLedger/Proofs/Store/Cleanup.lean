import Mathlib.Data.List.Basic
import Mathlib.Data.List.Nodup
import SkaterLedger.Proofs.Relations.Plan
import SkaterLedger.Proofs.Store.Reading
import SkaterLedger.Proofs.Store.Trail
import SkaterLedger.Proofs.Store.Transaction
import SkaterLedger.Store.Cleanup

/-!
# What a cleanup does

An item is carried out if a relation has its id and the audit trail takes its event
(`deleteItem_eq_ok_iff`); nothing else is touched, and one that fails touches nothing, as it is a
transaction of its own (`advance_cases`). From this, what a list of items comes to: if their
ids are different and all present, every one is carried out (`foldl_advance_present`), and if none is
present, none is (`foldl_advance_absent`). A plan made over the relations of a store is of the first
kind for that store, and of the second kind for the store that carrying it out leaves.
-/

namespace SkaterLedger

namespace PlanItem

/-- The events of some items that are carried out in their order, after `n` others. -/
def deletions (m : Moment) (n : ℕ) (items : List PlanItem) : List AuditEvent :=
  items.mapIdx fun i item => item.deletion m (n + i)

variable {m : Moment} {n : ℕ} {item : PlanItem} {items : List PlanItem}

/-- The event of the first item comes first. -/
theorem deletions_cons :
    deletions m n (item :: items) = item.deletion m n :: deletions m (n + 1) items := by
  have hnext : (fun i item => deletion m (n + (i + 1)) item) =
      fun i item => deletion m (n + 1 + i) item := by
    funext i item
    rw [Nat.add_comm i 1, Nat.add_assoc]
  unfold deletions
  rw [List.mapIdx_cons, Nat.add_zero, hnext]

end PlanItem

namespace Store

variable {s s' : Store} {m : Moment} {n : ℕ} {item : PlanItem} {items : List PlanItem}
  {rows : List RelationRow} {log : AuditLog}

/-! ## What is left -/

/-- The rows whose ids are none of those of some items. -/
def unnamed (items : List PlanItem) (rows : List RelationRow) : List RelationRow :=
  rows.filter fun row => row.id ∉ items.map fun item => Cell.text item.id

/-- The store after some items were carried out, after `n` others: the relations that they name are
gone, and the audit trail tells of each of them. -/
def afterDeletions (m : Moment) (n : ℕ) (items : List PlanItem) (rows : List RelationRow)
    (log : AuditLog) (s : Store) : Store :=
  { s with
    competedIn := some (unnamed items rows)
    auditLog := some (log.extendAll (PlanItem.deletions m n items)) }

/-- The rows that an item does not name are those with other ids. -/
theorem unnamed_singleton :
    unnamed [item] rows = rows.filter fun row => row.id != .text item.id := by
  unfold unnamed
  refine List.filter_congr fun row _ => ?_
  simp only [List.map_cons, List.map_nil, List.mem_singleton, decide_not]
  rfl

/-- The rows that none of some items names are those that are left when the items take their rows
away one after another. -/
theorem unnamed_cons : unnamed (item :: items) rows = unnamed items (unnamed [item] rows) := by
  unfold unnamed
  rw [List.filter_filter]
  refine List.filter_congr fun row _ => ?_
  rw [Bool.eq_iff_iff]
  simp [and_comm]

/-- Carrying out no item leaves the store as it is. -/
theorem afterDeletions_nil (hrows : s.competedIn = some rows) (hlog : s.auditLog = some log) :
    s.afterDeletions m n [] rows log = s := by
  have hunnamed : unnamed [] rows = rows := by simp [unnamed]
  unfold afterDeletions
  rw [hunnamed, ← hrows]
  exact congrArg (fun log => { s with auditLog := log }) hlog.symm

/-- Carrying out an item and then others is carrying out all of them. -/
theorem afterDeletions_cons :
    (s.afterDeletions m n [item] rows log).afterDeletions m (n + 1) items (unnamed [item] rows)
        (log.extend (item.deletion m n)) =
      s.afterDeletions m n (item :: items) rows log := by
  have hrows : unnamed (item :: items) rows = unnamed items (unnamed [item] rows) := unnamed_cons
  have hlog : log.extendAll (PlanItem.deletions m n (item :: items)) =
      (log.extend (item.deletion m n)).extendAll (PlanItem.deletions m (n + 1) items) := by
    rw [PlanItem.deletions_cons]
    rfl
  unfold afterDeletions
  rw [hrows, hlog]

/-! ## One item -/

/-- A relation is deleted exactly when it is there. -/
theorem deleteRelation_eq_ok_iff {id : String} :
    s.deleteRelation id = .ok s' ↔
      ∃ rows, s.competedIn = some rows ∧ (∃ row ∈ rows, row.id = .text id) ∧
        { s with competedIn := some (rows.filter fun row => row.id != .text id) } = s' := by
  simp only [deleteRelation, bind_eq_ok_iff, need_eq_ok_iff]
  refine exists_congr fun rows => and_congr_right fun _ => ?_
  by_cases hpresent : ∃ row ∈ rows, row.id = .text id
  · have hany : (rows.any fun row => row.id == .text id) = true := by simpa using hpresent
    simp [hany, hpresent]
  · have hany : (rows.any fun row => row.id == .text id) = false := by simpa using hpresent
    simp [hany, hpresent]

/-- The statements of an item are carried out exactly when both its relation is deleted and the
trail takes its event. -/
theorem deletionStatements_eq_ok_iff :
    deletionStatements m n item s = .ok ((), s') ↔
      ∃ s₁, s.deleteRelation item.id = .ok s₁ ∧ s₁.insertAudit (item.deletion m n) = .ok s' := by
  unfold deletionStatements
  simp only [execute_bind_eq_ok_iff, Except.ok.injEq, Prod.mk.injEq, true_and, exists_eq_right]

/-- An item is carried out exactly when a relation has its id and the trail admits its event. -/
theorem deleteItem_eq_ok_iff :
    s.deleteItem m n item = (.ok (), s') ↔
      ∃ rows log, s.competedIn = some rows ∧ s.auditLog = some log ∧
        (∃ row ∈ rows, row.id = .text item.id) ∧ log.Admits [item.deletion m n] ∧
        s.afterDeletions m n [item] rows log = s' := by
  unfold deleteItem afterDeletions
  simp only [transaction_eq_ok_iff, deletionStatements_eq_ok_iff, unnamed_singleton]
  constructor
  · rintro ⟨s₁, hdelete, haudit⟩
    obtain ⟨rows, hrows, hpresent, rfl⟩ := deleteRelation_eq_ok_iff.mp hdelete
    obtain ⟨log, hlog, hadmits, rfl⟩ := insertAudit_eq_ok_iff.mp haudit
    exact ⟨rows, log, hrows, hlog, hpresent, hadmits, rfl⟩
  · rintro ⟨rows, log, hrows, hlog, hpresent, hadmits, rfl⟩
    exact ⟨_, deleteRelation_eq_ok_iff.mpr ⟨rows, hrows, hpresent, rfl⟩,
      insertAudit_eq_ok_iff.mpr ⟨log, hlog, hadmits, rfl⟩⟩

/-- An item whose relation is not there fails for that reason. -/
theorem deleteItem_absent (hrows : s.competedIn = some rows)
    (habsent : ∀ row ∈ rows, row.id ≠ .text item.id) :
    s.deleteItem m n item = (.error (.recordNotFound item.id), s) := by
  have hany : (rows.any fun row => row.id == .text item.id) = false := by simpa using habsent
  have hstop : deletionStatements m n item s = .error ⟨.recordNotFound item.id, s⟩ := by
    simp [deletionStatements, execute, deleteRelation, hrows, need, hany, bind, Except.bind,
      Except.mapError]
  exact transaction_of_error hstop

/-- An item whose event the trail refuses fails for that reason. At that point its relation is
deleted, and the rollback brings it back. -/
theorem deleteItem_refused {failure : Failure} (hrows : s.competedIn = some rows)
    (hpresent : ∃ row ∈ rows, row.id = .text item.id)
    (hrefusal : s.insertAudit (item.deletion m n) = .error failure) :
    s.deleteItem m n item = (.error failure, s) := by
  let s₁ : Store := { s with competedIn := some (rows.filter fun row => row.id != .text item.id) }
  have hdelete : s.execute (deleteRelation item.id) = .ok s₁ :=
    execute_eq_ok_iff.mpr (deleteRelation_eq_ok_iff.mpr ⟨rows, hrows, hpresent, rfl⟩)
  -- The relation being gone makes no difference to the trail.
  have hrefused : s₁.insertAudit (item.deletion m n) = .error failure :=
    insertAudit_eq_error_of_auditLog_eq (s := s) rfl hrefusal
  have htell : s₁.execute (insertAudit (item.deletion m n)) = .error ⟨failure, s₁⟩ :=
    execute_eq_error_iff.mpr ⟨hrefused, rfl⟩
  have hstop : deletionStatements m n item s = .error ⟨failure, s₁⟩ := by
    simp only [deletionStatements, hdelete, htell, bind, Except.bind]
  exact transaction_of_error hstop

/-- An event is made for an item exactly when its relation is there. -/
theorem draws_iff (hrows : s.competedIn = some rows) :
    s.draws item = true ↔ ∃ row ∈ rows, row.id = .text item.id := by
  rw [draws, isOk_iff]
  constructor
  · rintro ⟨s', h⟩
    obtain ⟨rows', hrows', hpresent, -⟩ := deleteRelation_eq_ok_iff.mp h
    obtain rfl : rows = rows' := Option.some.inj (hrows.symm.trans hrows')
    exact hpresent
  · intro hpresent
    exact ⟨_, deleteRelation_eq_ok_iff.mpr ⟨rows, hrows, hpresent, rfl⟩⟩

/-- An item is carried out if its relation is there and the trail admits its event. -/
theorem advance_present {p : CleanupProgress} (hrows : p.store.competedIn = some rows)
    (hlog : p.store.auditLog = some log) (hpresent : ∃ row ∈ rows, row.id = .text item.id)
    (hadmits : log.Admits [item.deletion m p.drawn]) :
    advance m p item = ⟨p.store.afterDeletions m p.drawn [item] rows log, p.drawn + 1,
      p.deleted + 1, p.failed⟩ := by
  unfold advance
  rw [deleteItem_eq_ok_iff.mpr ⟨rows, log, hrows, hlog, hpresent, hadmits, rfl⟩,
    if_pos ((draws_iff hrows).mpr hpresent)]

/-- An item whose relation is not there is reported, and no event is made for it. -/
theorem advance_absent {p : CleanupProgress} (hrows : p.store.competedIn = some rows)
    (habsent : ∀ row ∈ rows, row.id ≠ .text item.id) :
    advance m p item = ⟨p.store, p.drawn, p.deleted,
      p.failed ++ [(item.id, .recordNotFound item.id)]⟩ := by
  have hdraws : ¬ p.store.draws item = true := by
    rw [draws_iff hrows]
    simpa using habsent
  unfold advance
  rw [deleteItem_absent hrows habsent, if_neg hdraws]

/-- An item whose event the trail refuses is reported, and the event has been made. -/
theorem advance_refused {p : CleanupProgress} {failure : Failure}
    (hrows : p.store.competedIn = some rows) (hpresent : ∃ row ∈ rows, row.id = .text item.id)
    (hrefusal : p.store.insertAudit (item.deletion m p.drawn) = .error failure) :
    advance m p item = ⟨p.store, p.drawn + 1, p.deleted, p.failed ++ [(item.id, failure)]⟩ := by
  unfold advance
  rw [deleteItem_refused hrows hpresent hrefusal, if_pos ((draws_iff hrows).mpr hpresent)]

/-- One more item is either carried out, or it fails and leaves the store as it is. -/
theorem advance_cases (m : Moment) (p : CleanupProgress) (item : PlanItem) :
    (∃ rows log, p.store.competedIn = some rows ∧ p.store.auditLog = some log ∧
      (∃ row ∈ rows, row.id = .text item.id) ∧ log.Admits [item.deletion m p.drawn] ∧
      advance m p item = ⟨p.store.afterDeletions m p.drawn [item] rows log, p.drawn + 1,
        p.deleted + 1, p.failed⟩) ∨
    ∃ failure drawn,
      advance m p item = ⟨p.store, drawn, p.deleted, p.failed ++ [(item.id, failure)]⟩ := by
  obtain ⟨result, s, hrun⟩ : ∃ result s, p.store.deleteItem m p.drawn item = (result, s) :=
    ⟨_, _, rfl⟩
  cases result with
  | error failure =>
    -- The item's own transaction is rolled back.
    obtain ⟨rfl, -⟩ := transaction_eq_error_iff.mp hrun
    unfold advance
    rw [hrun]
    exact .inr ⟨failure, _, rfl⟩
  | ok u =>
    obtain ⟨rows, log, hrows, hlog, hpresent, hadmits, -⟩ := deleteItem_eq_ok_iff.mp hrun
    exact .inl ⟨rows, log, hrows, hlog, hpresent, hadmits,
      advance_present hrows hlog hpresent hadmits⟩

/-! ## Many items -/

/-- Items with different ids that are all present are all carried out, if the trail admits all their
events. -/
theorem foldl_advance_present {d k : ℕ} {failed : List (String × Failure)}
    (hrows : s.competedIn = some rows) (hlog : s.auditLog = some log)
    (hadmits : log.Admits (PlanItem.deletions m d items)) (hnodup : (items.map PlanItem.id).Nodup)
    (hpresent : ∀ item ∈ items, ∃ row ∈ rows, row.id = .text item.id) :
    items.foldl (advance m) ⟨s, d, k, failed⟩ =
      ⟨s.afterDeletions m d items rows log, d + items.length, k + items.length, failed⟩ := by
  induction items generalizing s rows log d k with
  | nil =>
    rw [afterDeletions_nil hrows hlog]
    rfl
  | cons item items ih =>
    rw [PlanItem.deletions_cons, AuditLog.admits_cons_iff] at hadmits
    rw [List.map_cons, List.nodup_cons] at hnodup
    rw [List.forall_mem_cons] at hpresent
    have hadvance : advance m ⟨s, d, k, failed⟩ item =
        ⟨s.afterDeletions m d [item] rows log, d + 1, k + 1, failed⟩ :=
      advance_present hrows hlog hpresent.1 hadmits.1
    -- The ids being different, carrying out one item takes away the row of no other.
    have hpresent' : ∀ i ∈ items, ∃ row ∈ unnamed [item] rows, row.id = .text i.id := by
      intro i hi
      obtain ⟨row, hrow, hid⟩ := hpresent.2 i hi
      refine ⟨row, ?_, hid⟩
      rw [unnamed_singleton, List.mem_filter, hid, bne_iff_ne, ne_eq, Cell.text.injEq]
      exact ⟨hrow, fun heq => hnodup.1 (heq ▸ List.mem_map_of_mem hi)⟩
    have hrest :
        items.foldl (advance m) ⟨s.afterDeletions m d [item] rows log, d + 1, k + 1, failed⟩ =
        ⟨(s.afterDeletions m d [item] rows log).afterDeletions m (d + 1) items (unnamed [item] rows)
          (log.extend (item.deletion m d)), d + 1 + items.length, k + 1 + items.length, failed⟩ :=
      ih rfl rfl hadmits.2 hnodup.2 hpresent'
    rw [List.foldl_cons, hadvance, hrest, afterDeletions_cons, List.length_cons, Nat.add_assoc d,
      Nat.add_assoc k, Nat.add_comm 1]

/-- Items only take relations away, and none whose id they do not name. -/
theorem foldl_advance_competedIn {p : CleanupProgress} (hrows : p.store.competedIn = some rows) :
    ∃ rows', (items.foldl (advance m) p).store.competedIn = some rows' ∧ rows'.Sublist rows ∧
      ∀ row ∈ rows, row ∈ rows' ∨ ∃ item ∈ items, row.id = .text item.id := by
  induction items generalizing p rows with
  | nil => exact ⟨rows, hrows, List.Sublist.refl rows, fun row hrow => .inl hrow⟩
  | cons item items ih =>
    -- Carried out or not, the item leaves rows among which are all those that it does not name.
    obtain ⟨rows₁, hrows₁, hsub₁, hleft₁⟩ : ∃ rows₁,
        (advance m p item).store.competedIn = some rows₁ ∧ rows₁.Sublist rows ∧
          ∀ row ∈ rows, row.id ≠ .text item.id → row ∈ rows₁ := by
      rcases advance_cases m p item with
        ⟨rows₁, log, h, -, -, -, hadvance⟩ | ⟨failure, drawn, hadvance⟩
      · obtain rfl : rows = rows₁ := Option.some.inj (hrows.symm.trans h)
        rw [hadvance]
        refine ⟨unnamed [item] rows, rfl, List.filter_sublist, fun row hrow hne => ?_⟩
        rw [unnamed_singleton]
        exact List.mem_filter.mpr ⟨hrow, bne_iff_ne.mpr hne⟩
      · rw [hadvance]
        exact ⟨rows, hrows, .refl rows, fun row hrow _ => hrow⟩
    obtain ⟨rows', hrows', hsub, hleft⟩ := ih hrows₁
    refine ⟨rows', hrows', hsub.trans hsub₁, fun row hrow => ?_⟩
    by_cases hid : row.id = .text item.id
    · exact .inr ⟨item, List.mem_cons_self, hid⟩
    · rcases hleft row (hleft₁ row hrow hid) with h | ⟨i, hi, h⟩
      · exact .inl h
      · exact .inr ⟨i, List.mem_cons_of_mem _ hi, h⟩

/-- Items are about relations and the audit trail: the other tables stay as they are. -/
theorem foldl_advance_others (m : Moment) (items : List PlanItem) (p : CleanupProgress) :
    { (items.foldl (advance m) p).store with
      competedIn := p.store.competedIn
      auditLog := p.store.auditLog } = p.store := by
  induction items generalizing p with
  | nil => rfl
  | cons item items ih =>
    rw [List.foldl_cons]
    -- One more item changes no other table, so what the rest leaves of them is what was there.
    have hrest := congrArg (fun s : Store =>
      { s with competedIn := p.store.competedIn, auditLog := p.store.auditLog })
      (ih (advance m p item))
    rcases advance_cases m p item with
      ⟨rows, log, -, -, -, -, hadvance⟩ | ⟨failure, drawn, hadvance⟩
    · rw [hadvance] at hrest ⊢
      exact hrest
    · rw [hadvance] at hrest ⊢
      exact hrest

/-! ## A cleanup -/

/-- The relations are counted exactly where there is a table of them. -/
theorem countRelations_eq_ok_iff :
    s.countRelations = .ok n ↔ ∃ rows, s.competedIn = some rows ∧ rows.length = n := by
  unfold countRelations
  simp only [bind_eq_ok_iff, need_eq_ok_iff, Except.ok.injEq]

/-- A cleanup carries its items out, and counts the relations before and afterwards. -/
theorem cleanup_eq_ok_iff {report : CleanupReport} :
    s.cleanup m items = .ok (report, s') ↔ ∃ p before after,
      items.foldl (advance m) ⟨s, 0, 0, []⟩ = p ∧ s.countRelations = .ok before ∧
        p.store.countRelations = .ok after ∧
        report = ⟨before, after, p.deleted, items.length, p.failed⟩ ∧ s' = p.store := by
  unfold cleanup
  rw [settled_eq_ok_iff]
  unfold cleanupRun
  cases hcount : s.countRelations with
  | error failure => simp
  | ok before =>
    simp only [Prod.mk.injEq, map_eq_ok_iff, Except.ok.injEq]
    constructor
    · rintro ⟨⟨after, hafter, rfl⟩, rfl⟩
      exact ⟨_, before, after, rfl, rfl, hafter, rfl, rfl⟩
    · rintro ⟨p, _, after, rfl, rfl, hafter, rfl, rfl⟩
      exact ⟨⟨after, hafter, rfl⟩, rfl⟩

/-- A cleanup whose items have different ids and are all present carries out all of them, if the
trail admits all their events. -/
theorem cleanup_present (hrows : s.competedIn = some rows) (hlog : s.auditLog = some log)
    (hadmits : log.Admits (PlanItem.deletions m 0 items)) (hnodup : (items.map PlanItem.id).Nodup)
    (hpresent : ∀ item ∈ items, ∃ row ∈ rows, row.id = .text item.id) :
    s.cleanup m items =
      .ok (⟨rows.length, (unnamed items rows).length, items.length, items.length, []⟩,
        s.afterDeletions m 0 items rows log) := by
  have hrun : items.foldl (advance m) ⟨s, 0, 0, []⟩ =
      ⟨s.afterDeletions m 0 items rows log, 0 + items.length, 0 + items.length, []⟩ :=
    foldl_advance_present hrows hlog hadmits hnodup hpresent
  rw [Nat.zero_add] at hrun
  exact cleanup_eq_ok_iff.mpr ⟨_, _, _, hrun, countRelations_eq_ok_iff.mpr ⟨rows, hrows, rfl⟩,
    countRelations_eq_ok_iff.mpr ⟨_, rfl, rfl⟩, rfl, rfl⟩

/-- A cleanup only takes relations away, and none whose id no item names. -/
theorem cleanup_competedIn {report : CleanupReport} (hrows : s.competedIn = some rows)
    (h : s.cleanup m items = .ok (report, s')) :
    ∃ rows', s'.competedIn = some rows' ∧ rows'.Sublist rows ∧
      ∀ row ∈ rows, row ∈ rows' ∨ ∃ item ∈ items, row.id = .text item.id := by
  obtain ⟨_, _, _, rfl, -, -, -, rfl⟩ := cleanup_eq_ok_iff.mp h
  exact foldl_advance_competedIn hrows

/-- A cleanup leaves the other tables as they are. -/
theorem cleanup_others {report : CleanupReport} (h : s.cleanup m items = .ok (report, s')) :
    { s' with competedIn := s.competedIn, auditLog := s.auditLog } = s := by
  obtain ⟨_, _, _, rfl, -, -, -, rfl⟩ := cleanup_eq_ok_iff.mp h
  exact foldl_advance_others m items ⟨s, 0, 0, []⟩

/-- A cleanup that fails has carried out nothing: it does not begin where relations cannot be
counted, and where they can they still can in the end. -/
theorem cleanupRun_snd_of_error {failure : Failure} (h : s.cleanup m items = .error failure) :
    (s.cleanupRun m items).2 = s := by
  cases hcount : s.countRelations with
  | error failure =>
    unfold cleanupRun
    rw [hcount]
  | ok before =>
    obtain ⟨rows, hrows, -⟩ := countRelations_eq_ok_iff.mp hcount
    let p := items.foldl (advance m) ⟨s, 0, 0, []⟩
    obtain ⟨rows', hrows', -, -⟩ : ∃ rows', p.store.competedIn = some rows' ∧ rows'.Sublist rows ∧
        ∀ row ∈ rows, row ∈ rows' ∨ ∃ item ∈ items, row.id = .text item.id :=
      foldl_advance_competedIn hrows
    have hafter := countRelations_eq_ok_iff.mpr ⟨rows', hrows', rfl⟩
    have hok := cleanup_eq_ok_iff.mpr ⟨p, before, _, rfl, hcount, hafter, rfl, rfl⟩
    rw [hok] at h
    cases h

end Store

/-! ## A plan over the relations of a store -/

/-- What is left of a store when a plan over its relations has been carried out. -/
structure DeletionPlan.CarriedOut (m : Moment) (relations : List Relation) (plan : DeletionPlan)
    (s s' : Store) : Prop where
  /-- The relations that are not planned for deletion are read as before and in the same order. -/
  left : s'.relations = .ok (plan.spared relations)
  /-- Their rows are unchanged. -/
  rows : s'.competedIn = s.competedIn.map (Store.unnamed plan.items)
  /-- Of every pair its leading relation is left, and no other. -/
  pairs : ∀ p ∈ relations.map Relation.pair,
    ∃ a, Relation.Leads relations a ∧ Relation.ofPair (plan.spared relations) p = [a.1]
  /-- Of a pair that was decided this is what the decision keeps. -/
  kept : ∀ d ∈ plan.groups,
    ∃ r, Relation.ofPair (plan.spared relations) d.pair = [r] ∧ .ofRelation r = d.keep
  /-- No pair has more than one relation. -/
  remaining : s'.remainingDuplicates = .ok 0
  /-- The audit trail has one more row for every item, in the order of the items. -/
  trail : s'.auditLog = s.auditLog.map fun log =>
    ⟨log.rows ++ plan.items.mapIdx fun n item =>
        AuditLog.rowOf (log.lastId + n + 1) (item.deletion m n),
      log.lastId + plan.items.length⟩
  /-- The other tables are unchanged. -/
  others : { s' with competedIn := s.competedIn, auditLog := s.auditLog } = s

namespace Store

variable {s : Store} {rows : List RelationRow} {relations : List Relation} {labels : Labels}
  {plan : DeletionPlan} {m : Moment}

/-- What is planned over the relations that some rows are read as has rows to delete. -/
theorem exists_row_of_mem_items
    (hreads : ReadAs rows relations) (hplan : plan.Specified labels relations) :
    ∀ item ∈ plan.items, ∃ row ∈ rows, row.id = .text item.id := by
  intro item hitem
  obtain ⟨_, _, b, hb, _, _, hid⟩ := hplan.mem_ids_iff.mp (List.mem_map_of_mem hitem)
  have hcell : Cell.text item.id ∈ rows.map RelationRow.id := by
    rw [hreads.map_id, ← hid]
    exact List.mem_map_of_mem (f := fun r : Relation => Cell.text r.id)
      (List.fst_mem_of_mem_zipIdx hb)
  exact List.mem_map.mp hcell

/-- The rows that no item of a plan names are read as the relations that the plan spares. -/
theorem reads_spared (plan : DeletionPlan)
    (hreads : ReadAs rows relations) :
    ReadAs (unnamed plan.items rows) (plan.spared relations) := by
  have hfilter := hreads.filter fun c =>
    decide (c ∉ plan.items.map fun item => Cell.text item.id)
  have hpick : ∀ id : String, (Cell.text id ∉ plan.items.map fun item => Cell.text item.id) ↔
      id ∉ plan.items.map PlanItem.id := fun id => by
    simp
  simp only [hpick] at hfilter
  exact hfilter

/-- Where the rows that no item of a plan names are left, and the trail has the events of its items,
the plan has been carried out. -/
theorem carriedOut (hrows : s.competedIn = some rows) (hlog : s.auditLog = some log)
    (hkeys : Shape.competedIn.KeysHold rows) (hreads : ReadAs rows relations)
    (hplan : plan.Specified labels relations) :
    plan.CarriedOut m relations s (s.afterDeletions m 0 plan.items rows log) where
  left := relations_eq_ok_iff.mpr ⟨_, rfl, reads_spared plan hreads⟩
  rows := by
    rw [hrows, Option.map_some]
    rfl
  pairs p hp := by
    obtain ⟨a, rfl, ha⟩ := Relation.exists_leads hp
    exact ⟨a, ha, hplan.ofPair_spared (hreads.nodup_ids (Shape.competedIn_keysHold_iff.mp hkeys)) ha⟩
  kept d hd := by
    obtain ⟨a, ha, hpair, hkeep⟩ := (hplan.groups d hd).keep_leads
    refine ⟨a.1, ?_, hkeep.symm⟩
    rw [← hpair]
    exact hplan.ofPair_spared (hreads.nodup_ids (Shape.competedIn_keysHold_iff.mp hkeys)) ha
  remaining := by
    unfold remainingDuplicates
    rw [relations_eq_ok_iff.mpr ⟨_, rfl, reads_spared plan hreads⟩]
    exact congrArg Except.ok (Relation.duplicateCount_eq_zero hplan.nodup_pairs_spared)
  trail := by
    unfold afterDeletions
    rw [hlog, Option.map_some, AuditLog.extendAll_eq]
    simp [PlanItem.deletions, List.mapIdx_mapIdx, Function.comp_def]
  others := rfl

end Store

end SkaterLedger
