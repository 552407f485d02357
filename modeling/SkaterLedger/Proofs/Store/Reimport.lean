import Mathlib.Data.List.Basic
import Mathlib.Data.List.Nodup
import SkaterLedger.Proofs.Relations.Plan
import SkaterLedger.Proofs.Relations.WellFormed
import SkaterLedger.Proofs.Store.Accounting
import SkaterLedger.Proofs.Store.Cleanup
import SkaterLedger.Proofs.Store.Imported
import SkaterLedger.Proofs.Text.ByteOrder

/-!
# A cleanup undoes a second import

Importing the same entries twice leaves every relation of them twice. A cleanup takes away the
second copies, and what is left is the store after the first import, row for row
(`Contents.cleanup_reimport`).

Two things are behind this. The second import finds all competitions, skaters and events as it would
write them, so that it only adds relations and tells the audit trail (`Contents.imported_again`).
And a copy knows as much as what it is a copy of: only its times are others, and a time of an import
is never missing. So the first of the two is not younger and stands before the other, and a plan
deletes the copies and nothing else (`Relation.outclassed_copies_iff`).
-/

namespace SkaterLedger

/-! ## Copies -/

namespace Relation

variable {kept copies : List Relation} {id : String}

/-- Where no two relations are of the same pair, and each of those that are added stands behind one
of them, it is the added ones that are outclassed. -/
theorem outclassed_copies_iff (hkept : (kept.map pair).Nodup)
    (hcopies : ∀ c ∈ copies, ∃ r ∈ kept, r.pair = c.pair ∧ ranksBefore r c = true) :
    Outclassed (kept ++ copies) id ↔ id ∈ copies.map Relation.id := by
  have hmem (a : Relation × ℕ) : a ∈ (kept ++ copies).zipIdx ↔
      a ∈ kept.zipIdx ∨ a ∈ copies.zipIdx kept.length := by
    rw [List.zipIdx_append, List.mem_append, Nat.zero_add]
  have hplaced {l : List Relation} {r : Relation} (n : ℕ) (hr : r ∈ l) :
      ∃ i, (r, i) ∈ l.zipIdx n := by
    rw [← List.zipIdx_map_fst n l] at hr
    obtain ⟨⟨r, i⟩, hri, rfl⟩ := List.mem_map.mp hr
    exact ⟨i, hri⟩
  -- A relation at a position of its own in front of a copy outranks the copy.
  have hfront {a b : Relation × ℕ} (ha : a ∈ kept.zipIdx) (hb : b ∈ copies.zipIdx kept.length)
      (hrank : ranksBefore a.1 b.1 = true) : Outranks a b := by
    refine outranks_iff.mpr ⟨hrank, fun _ => ?_⟩
    have hlt := List.snd_lt_of_mem_zipIdx ha
    have hle := List.le_snd_of_mem_zipIdx hb
    omega
  -- The one that a copy is behind is the only one of its pair.
  have hbehind {a b : Relation × ℕ} (ha : a ∈ kept.zipIdx) (hb : b ∈ copies.zipIdx kept.length)
      (hpair : a.1.pair = b.1.pair) : Outranks a b := by
    obtain ⟨r, hr, hsame, hrank⟩ := hcopies b.1 (List.fst_mem_of_mem_zipIdx hb)
    obtain ⟨i, hi⟩ := hplaced 0 hr
    obtain rfl : (r, i) = a := eq_of_map_eq hkept hi ha (hsame.trans hpair.symm)
    exact hfront hi hb hrank
  constructor
  · rintro ⟨a, ha, b, hb, hpair, hout, rfl⟩
    rcases (hmem b).mp hb with hb | hb
    · rcases (hmem a).mp ha with ha | ha
      · obtain rfl := eq_of_map_eq hkept ha hb hpair
        exact (hout.asymm hout).elim
      · exact (hout.asymm (hbehind hb ha hpair.symm)).elim
    · exact List.mem_map_of_mem (List.fst_mem_of_mem_zipIdx hb)
  · intro hid
    obtain ⟨c, hc, rfl⟩ := List.mem_map.mp hid
    obtain ⟨r, hr, hsame, hrank⟩ := hcopies c hc
    obtain ⟨i, hi⟩ := hplaced 0 hr
    obtain ⟨j, hj⟩ := hplaced kept.length hc
    exact ⟨(r, i), (hmem _).mpr (.inl hi), (c, j), (hmem _).mpr (.inr hj), hsame,
      hfront hi hj hrank, rfl⟩

end Relation

/-! ## A second import -/

section Again

variable {m m₁ m₂ m₃ : Moment} {competition : String} {entries : List Entry} {c : Contents}
  {e : Entry} {n k number : ℕ}

/-- A second import of the same entries only adds relations and tells the audit trail. -/
theorem Contents.imported_again (hcompetitions : Shape.competitions.KeysHold c.competitions)
    (hevents : Shape.events.KeysHold c.events) (hskaters : Shape.skaters.KeysHold c.skaters) :
    (c.imported m₁ competition entries).imported m₂ competition entries =
      { c.imported m₁ competition entries with
        relations := (c.relations ++ Store.importedRows m₁ competition 0 entries) ++
          Store.importedRows m₂ competition 0 entries
        log := (c.log.extend ((ImportSummary.ofEntries competition entries).event m₁)).extend
          ((ImportSummary.ofEntries competition entries).event m₂) } := by
  have hcompetitions' : (competitionWriting m₁).Apart c.competitions :=
    (Shape.keysHold_iff_of_id rfl fun _ => rfl).mp hcompetitions
  have hevents' : (eventWriting m₁ competition).Apart c.events :=
    (Shape.keysHold_iff_of_id rfl fun _ => rfl).mp hevents
  have hskaters' : (skaterWriting m₁).Apart c.skaters :=
    (Shape.keysHold_iff_of_id rfl fun _ => rfl).mp hskaters
  have hcompetition : (competitionWriting m₂).writeAll [competition]
      ((competitionWriting m₁).writeAll [competition] c.competitions) = _ :=
    RowWriting.writeAll_again rfl rfl hcompetitions' fun r => by
      rw [competitionWriting_after, competitionWriting_after, CompetitionRow.after_after]
  have hevent : (eventWriting m₂ competition).writeAll ((Entry.appearances entries).map Prod.snd)
      ((eventWriting m₁ competition).writeAll ((Entry.appearances entries).map Prod.snd)
        c.events) = _ :=
    RowWriting.writeAll_again rfl rfl hevents' fun r => by
      rw [eventWriting_after, eventWriting_after, EventRow.after_after]
  have hskater : (skaterWriting m₂).writeAll entries
      ((skaterWriting m₁).writeAll entries c.skaters) = _ :=
    RowWriting.writeAll_again rfl rfl hskaters' fun r => by
      rw [skaterWriting_after, skaterWriting_after, SkaterRow.after_after]
  change Contents.mk ((competitionWriting m₂).writeAll [competition]
    ((competitionWriting m₁).writeAll [competition] c.competitions)) _ _ _ _ _ _ = _
  unfold Contents.imported
  rw [hcompetition]
  simp only [hevent, hskater]
  rfl

/-! ## What the relations of an import know -/

/-- The time of an import says something. -/
theorem isPresent_timestamp (t : Instant) : Relation.isPresent (some t.timestamp) = true := by
  have hmark : 'Z' ∈ t.timestamp.toList := by simp [Instant.timestamp, Instant.write]
  have hne : t.timestamp ≠ "" := by
    intro h
    simp [h] at hmark
  have hnone : t.timestamp ≠ "NONE" := by
    intro h
    simp [h] at hmark
  simp [Relation.isPresent, hne, hnone]

/-- A relation of an import knows as much as one of another import for the same entry. -/
theorem score_importedRelation (n k : ℕ) :
    (Store.importedRelation m₁ competition e n number).score =
      (Store.importedRelation m₂ competition e k number).score := by
  have hdate (m : Moment) : Relation.isPresent (if e.status = .purchased then some m.createdAt
      else none) = decide (e.status = .purchased) := by
    split
    · rename_i h
      rw [decide_eq_true h]
      exact isPresent_timestamp m.time
    · rename_i h
      rw [decide_eq_false h]
      rfl
  unfold Relation.score Store.importedRelation
  simp only [hdate]

/-- Relations of a second import each stand behind one of the first import, which is not younger. -/
theorem importedRelations_behind (htime : ¬ Text.Precedes m₂.createdAt m₁.createdAt) :
    ∀ r₂ ∈ Store.importedRelations m₂ competition 0 entries,
      ∃ r₁ ∈ Store.importedRelations m₁ competition 0 entries,
        r₁.pair = r₂.pair ∧ Relation.ranksBefore r₁ r₂ = true := by
  intro r₂ hr₂
  obtain ⟨i, hi, rfl⟩ := List.mem_iff_getElem.mp hr₂
  have hi' : i < (Store.importedRelations m₁ competition 0 entries).length := by
    simpa [Store.importedRelations] using hi
  refine ⟨_, List.getElem_mem hi', ?_⟩
  simp only [Store.importedRelations, List.getElem_mapIdx, Nat.zero_add]
  refine ⟨rfl, Relation.ranksBefore_iff.mpr (.inr ⟨score_importedRelation i i, ?_⟩)⟩
  exact fun h => htime (Text.precedes_iff_lt.mpr h)

/-- The relations of an import have well-formed ids. -/
theorem wellFormed_of_mem_importedRelations :
    ∀ r ∈ Store.importedRelations m competition n entries, r.WellFormed := by
  intro r hr
  obtain ⟨i, hi, rfl⟩ := List.mem_iff_getElem.mp hr
  simp only [Store.importedRelations, List.getElem_mapIdx]
  exact ⟨m.relationId_wellFormed _, skaterIdOf_wellFormed _ _, eventId_wellFormed _ _⟩

/-- The relations of an import are those of its entries and their events. -/
theorem map_pair_importedRelations :
    (Store.importedRelations m competition n entries).map Relation.pair =
      (Entry.appearances entries).map fun a => (a.1.skaterId, eventId competition a.2) := by
  refine List.ext_getElem (by simp [Store.importedRelations]) fun i hi hi' => ?_
  simp [Store.importedRelations, Store.importedRelation, Relation.pair]

end Again

/-! ## The cleanup -/

section Cleanup

variable {m₁ m₂ m₃ : Moment} {competition : String} {entries : List Entry} {c : Contents}
  {rows new : List RelationRow} {relations added : List Relation} {labels : Labels}
  {plan : DeletionPlan} {m : Moment} {s : Store} {log : AuditLog}

/-- New relations leave the keys in force. -/
theorem RelationRow.Fresh.keysHold (hfresh : RelationRow.Fresh rows new)
    (h : Shape.competedIn.KeysHold rows) : Shape.competedIn.KeysHold (rows ++ new) := by
  rw [Shape.competedIn_keysHold_iff] at *
  refine List.pairwise_append.mpr ⟨h, hfresh.2.imp ?_, fun a ha b hb _ => hfresh.1 a ha b hb⟩
  exact fun {a b} hne _ => hne

/-- If a plan names exactly the relations that new rows are read as, the rows that it does not name
are those that were there before. -/
theorem unnamed_append_of_mem_ids_iff (hfresh : RelationRow.Fresh rows new)
    (hread : Store.ReadAs new added)
    (hids : ∀ id, id ∈ plan.items.map PlanItem.id ↔ id ∈ added.map Relation.id) :
    Store.unnamed plan.items (rows ++ new) = rows := by
  have hnamed (row : RelationRow) : row.id ∈ plan.items.map (fun item => Cell.text item.id) ↔
      row.id ∈ new.map RelationRow.id := by
    rw [hread.map_id]
    have htexts (ids : List String) (cell : Cell) : cell ∈ ids.map Cell.text ↔
        ∃ id ∈ ids, .text id = cell := List.mem_map
    have hitems : plan.items.map (fun item => Cell.text item.id) =
        (plan.items.map PlanItem.id).map Cell.text := by simp
    have hadded : added.map (fun r => Cell.text r.id) = (added.map Relation.id).map Cell.text := by
      simp
    rw [hitems, hadded, htexts, htexts]
    simp only [hids]
  have hrows : rows.filter (fun row => row.id ∉ plan.items.map fun item => Cell.text item.id) =
      rows := by
    refine List.filter_eq_self.mpr fun row hrow => decide_eq_true fun hmem => ?_
    obtain ⟨other, hother, hid⟩ := List.mem_map.mp ((hnamed row).mp hmem)
    exact hfresh.1 row hrow other hother hid.symm
  have hnew : new.filter (fun row => row.id ∉ plan.items.map fun item => Cell.text item.id) =
      [] := by
    refine List.filter_eq_nil_iff.mpr fun row hrow => ?_
    simpa using (hnamed row).mpr (List.mem_map_of_mem hrow)
  unfold Store.unnamed
  rw [List.filter_append, hrows, hnew, List.append_nil]

/-- Take relations of different pairs and behind them others each of which is a copy of one of them,
not more complete and not older. Carrying out a plan over all of them takes away the copies. -/
theorem Store.cleanup_copies (hrows : s.competedIn = some (rows ++ new))
    (hlog : s.auditLog = some log) (hkeys : Shape.competedIn.KeysHold rows)
    (hfresh : RelationRow.Fresh rows new) (hread : ReadAs rows relations)
    (hadded : ReadAs new added)
    (hsingle : (relations.map Relation.pair).Nodup)
    (hcopies : ∀ c ∈ added, ∃ r ∈ relations, r.pair = c.pair ∧ Relation.ranksBefore r c = true)
    (hadmits : ∀ items, items.length = added.length → log.Admits (PlanItem.deletions m 0 items))
    (hplan : DeletionPlan.make labels (relations ++ added) = .ok plan) :
    ∃ report, report.failed = [] ∧ s.cleanup m plan.items = .ok (report,
      { s with
        competedIn := some rows
        auditLog := some (log.extendAll (PlanItem.deletions m 0 plan.items)) }) := by
  have hspec := DeletionPlan.specified_of_make hplan
  have hreads := hread.append hadded
  have hids (id : String) : id ∈ plan.items.map PlanItem.id ↔ id ∈ added.map Relation.id :=
    hspec.mem_ids_iff.trans (Relation.outclassed_copies_iff hsingle hcopies)
  have hnodup := hreads.nodup_ids (Shape.competedIn_keysHold_iff.mp (hfresh.keysHold hkeys))
  have hitems := hspec.nodup_ids hnodup
  -- The items are as many as the copies, so the audit trail has room for them.
  have hadded' : (added.map Relation.id).Nodup :=
    hnodup.sublist ((List.sublist_append_right _ _).map _)
  have hlength : plan.items.length = added.length := by
    simpa using ((List.perm_ext_iff_of_nodup hitems hadded').mpr hids).length_eq
  have hcleanup := cleanup_present hrows hlog (hadmits _ hlength) hitems
    (exists_row_of_mem_items hreads hspec)
  unfold afterDeletions at hcleanup
  rw [unnamed_append_of_mem_ids_iff hfresh hadded hids] at hcleanup
  exact ⟨_, rfl, hcleanup⟩

/-- Some entries are imported, imported again, and cleaned up after: both imports succeed, and a
plan over the relations that are there then can be made and carried out. Everything is then as it
was after the first import, except that the audit trail also tells of the second import and of what
the plan deleted. -/
def Contents.ReimportUndone (c : Contents) (m₁ m₂ m₃ : Moment) (competition : String)
    (entries : List Entry) : Prop :=
  ∃ summary s₁ s₂ relations,
    c.toStore.importEntries m₁ competition entries = .ok (summary, s₁) ∧
    s₁.families = some c.families ∧ s₁.belongsTo = some c.links ∧
    s₁.importEntries m₂ competition entries = .ok (summary, s₂) ∧
    s₂.relations = .ok relations ∧
    ∀ labels, ∃ plan report,
      DeletionPlan.make labels relations = .ok plan ∧ report.failed = [] ∧
      s₂.cleanup m₃ plan.items = .ok (report,
        { s₁ with auditLog := s₁.auditLog.map fun log =>
          log.extendAll (summary.event m₂ :: PlanItem.deletions m₃ 0 plan.items) })

/-- Take a store in which no two relations are of the same pair, and entries each of whose pairs of
a skater and an event is new and there once. Importing the entries, importing them again at a time
that is not earlier, and carrying out the plan over the relations leaves everything as it was after
the first import, except that the audit trail tells of what was done since. -/
theorem Contents.cleanup_reimport (hcompetitions : Shape.competitions.KeysHold c.competitions)
    (hevents : Shape.events.KeysHold c.events) (hskaters : Shape.skaters.KeysHold c.skaters)
    (hrelations : Shape.competedIn.KeysHold c.relations)
    (hread : c.toStore.relations = .ok relations) (hwellFormed : ∀ r ∈ relations, r.WellFormed)
    (hsingle : (relations.map Relation.pair).Nodup)
    (hdistinct : ((Entry.appearances entries).map fun a =>
      (a.1.skaterId, eventId competition a.2)).Nodup)
    (hnew : ∀ a ∈ Entry.appearances entries,
      (a.1.skaterId, eventId competition a.2) ∉ relations.map Relation.pair)
    (hfresh : RelationRow.Fresh c.relations (Store.importedRows m₁ competition 0 entries ++
      Store.importedRows m₂ competition 0 entries))
    (hadmits : ∀ items : List PlanItem, items.length = (Entry.appearances entries).length →
      c.log.Admits ((ImportSummary.ofEntries competition entries).event m₁ ::
        (ImportSummary.ofEntries competition entries).event m₂ :: PlanItem.deletions m₃ 0 items))
    (htime : ¬ Text.Precedes m₂.createdAt m₁.createdAt) :
    c.ReimportUndone m₁ m₂ m₃ competition entries := by
  obtain ⟨rows, hrows, hreads⟩ := Store.relations_eq_ok_iff.mp hread
  obtain rfl : c.relations = rows := Option.some.inj hrows
  obtain ⟨hfresh₁, hfresh₂⟩ := RelationRow.fresh_append_iff.mp hfresh
  let c₂ : Contents := { c.imported m₁ competition entries with
    relations := (c.relations ++ Store.importedRows m₁ competition 0 entries) ++
      Store.importedRows m₂ competition 0 entries
    log := (c.log.extend ((ImportSummary.ofEntries competition entries).event m₁)).extend
      ((ImportSummary.ofEntries competition entries).event m₂) }
  -- Both imports succeed, and what is in the store then is known.
  obtain ⟨hadmits₁, hadmits₂⟩ := AuditLog.admits_cons_iff.mp
    (hadmits (List.replicate _ ⟨"", "", "", ""⟩) List.length_replicate)
  have hfirst := Store.importEntries_toStore_iff.mpr ⟨hfresh₁, hadmits₁, rfl, rfl⟩
  have hsecond := (Store.importEntries_toStore_iff (c := c.imported m₁ competition entries)).mpr
    ⟨hfresh₂, (AuditLog.admits_cons_iff.mp hadmits₂).1, rfl, rfl⟩
  have hagain : (c.imported m₁ competition entries).imported m₂ competition entries = c₂ :=
    Contents.imported_again hcompetitions hevents hskaters
  rw [hagain] at hsecond
  -- All relations can be read and planned over, and those of the second import are copies.
  have hfirst' := hreads.append (Store.reads_importedRows m₁ competition 0 entries)
  have hsecond' := Store.reads_importedRows m₂ competition 0 entries
  have hsingle' : ((relations ++ Store.importedRelations m₁ competition 0 entries).map
      Relation.pair).Nodup := by
    rw [List.map_append, map_pair_importedRelations]
    refine List.nodup_append.mpr ⟨hsingle, hdistinct, fun p hp q hq heq => ?_⟩
    obtain ⟨a, ha, rfl⟩ := List.mem_map.mp hq
    exact hnew a ha (heq ▸ hp)
  have hcopies : ∀ r₂ ∈ Store.importedRelations m₂ competition 0 entries,
      ∃ r₁ ∈ relations ++ Store.importedRelations m₁ competition 0 entries,
        r₁.pair = r₂.pair ∧ Relation.ranksBefore r₁ r₂ = true := by
    intro r₂ hr₂
    obtain ⟨r₁, hr₁, hbehind⟩ := importedRelations_behind htime r₂ hr₂
    exact ⟨r₁, List.mem_append_right _ hr₁, hbehind⟩
  have hwellFormed' : ∀ r ∈ (relations ++ Store.importedRelations m₁ competition 0 entries) ++
      Store.importedRelations m₂ competition 0 entries, r.WellFormed := by
    intro r hr
    rcases List.mem_append.mp hr with hr | hr
    · rcases List.mem_append.mp hr with hr | hr
      · exact hwellFormed r hr
      · exact wellFormed_of_mem_importedRelations r hr
    · exact wellFormed_of_mem_importedRelations r hr
  have hlength : (Store.importedRelations m₂ competition 0 entries).length =
      (Entry.appearances entries).length := by
    simp [Store.importedRelations]
  refine ⟨_, _, _, _, hfirst, rfl, rfl, hsecond,
    Store.relations_eq_ok_iff.mpr ⟨_, rfl, hfirst'.append hsecond'⟩, fun labels => ?_⟩
  have hplan : DeletionPlan.make labels _ = .ok _ :=
    DeletionPlan.make_eq_ok_iff.mpr ⟨hwellFormed', rfl⟩
  have hadmits₃ (items : List PlanItem)
      (hitems : items.length = (Store.importedRelations m₂ competition 0 entries).length) :
      c₂.log.Admits (PlanItem.deletions m₃ 0 items) := by
    obtain ⟨-, hrest⟩ := AuditLog.admits_cons_iff.mp (hadmits items (hitems.trans hlength))
    exact (AuditLog.admits_cons_iff.mp hrest).2
  obtain ⟨report, hreport, hcleanup⟩ := Store.cleanup_copies (s := c₂.toStore) rfl rfl
    (hfresh₁.keysHold hrelations) hfresh₂ hfirst' hsecond' hsingle' hcopies hadmits₃ hplan
  exact ⟨_, report, hplan, hreport, hcleanup⟩

/-- A skater has been at another event; what is imported twice, both times at the same time, has a
net amount of zero and notes that say nothing. -/
theorem Contents.cleanup_reimport_sameTime :
    let m (k : ℕ) : Moment := ⟨⟨9, 0⟩, fun n => .ofNat (10 * k + n), fun n => .ofNat (10 * k + n),
      fun n => .ofNat (10 * k + n), fun n => ⟨k, n + 1⟩⟩
    let e : Entry := ⟨"Kei", "Ito", [3, 4], some "ito@example.org", .purchased, none,
      some (.ofNat 0), ["NONE"], none⟩
    let c : Contents :=
      { competitions := [⟨.text "competition:pony", .text "Pony", .text "", .null, .null, .text ""⟩]
        events := [⟨.text "event:pony_5", .text "competition:pony", .integer 5, .null, .null,
          .text ""⟩]
        skaters := [⟨.text "skater:ito_kei", .text "Kei", .text "Ito", .null, .text ""⟩]
        families := []
        relations := [⟨.text "competed_in:1", .text "skater:ito_kei", .text "event:pony_5", .null,
          .null, .null, .null, .null, .null, .null, .null, .null, .null⟩]
        links := []
        log := .empty }
    c.ReimportUndone (m 1) (m 2) (m 3) "Pony" [e] := by
  intro m e c
  have hfresh : RelationRow.Fresh c.relations (Store.importedRows (m 1) "Pony" 0 [e] ++
      Store.importedRows (m 2) "Pony" 0 [e]) := by
    dsimp only [c, m, e]
    exact ⟨by decide, by decide⟩
  have hadmits : ∀ items : List PlanItem, items.length = (Entry.appearances [e]).length →
      c.log.Admits ((ImportSummary.ofEntries "Pony" [e]).event (m 1) ::
        (ImportSummary.ofEntries "Pony" [e]).event (m 2) :: PlanItem.deletions (m 3) 0 items) := by
    intro items hitems
    refine ⟨fun _ => ?_, by simp [c, AuditLog.empty], ?_⟩
    · simp only [List.length_cons, PlanItem.deletions, List.length_mapIdx, hitems]
      decide
    · rw [List.map_cons, List.map_cons, PlanItem.map_eventId_deletions, hitems]
      dsimp only [m, ImportSummary.event, Entry.appearances, e]
      decide
  exact Contents.cleanup_reimport (List.pairwise_singleton _ _) (List.pairwise_singleton _ _)
    (List.pairwise_singleton _ _) (List.pairwise_singleton _ _) rfl
    (Relation.forM_checkIds_eq_ok_iff.mp (by rfl)) (List.nodup_singleton _) (by decide) (by decide)
    hfresh hadmits fun h => lt_irrefl (m 1).createdAt (Text.precedes_iff_lt.mp h)

end Cleanup

end SkaterLedger
