import SkaterLedger.Proofs.Store.Labelled

/-!
# Competitions do not interfere

The id of an event is a key with a number behind it, and a key may end in a number itself. Still two
competitions share an event's id only if they have the same key. In whatever way a store has been
used, the rows of a competition are therefore those whose ids are made of its key
(`Placed.competition_iff`). An import for another key leaves all of them (`ofCompetition_imported`),
and a plan never puts relations of both into one group.
-/

namespace SkaterLedger

/-- The rows of one competition. -/
structure CompetitionRows where
  /-- The competition. -/
  competitions : List CompetitionRow
  /-- Its events. -/
  events : List EventRow
  /-- Who takes part in them. -/
  relations : List RelationRow
deriving DecidableEq, Repr

/-- What a store holds of a competition: the row of its id, the events that lead to this id, and the
relations that lead to these events. -/
def Store.ofCompetition (s : Store) (name : String) : CompetitionRows :=
  let events := (s.events.getD []).filter fun r => r.competition == .text (competitionId name)
  { competitions := (s.competitions.getD []).filter fun r => r.id == .text (competitionId name)
    events := events
    relations := (s.competedIn.getD []).filter fun r => events.any fun e => e.id == r.outId }

/-- A group of a plan holds the relation of a row: it is the one that is kept or one of those to
delete. -/
def PairDecision.Holds (d : PairDecision) (row : RelationRow) : Prop :=
  ∃ r ∈ d.keep :: d.delete, row.id = .text r.id

/-- A cell has the id of an event of a competition. -/
def Cell.IsEventOf (name : String) (c : Cell) : Prop := ∃ n, c = .text (eventId name n)

variable {a b : String} {c : Contents} {m : Moment} {entries : List Entry}

/-- A cell has no event's id of two competitions with different keys. -/
theorem Cell.IsEventOf.key_eq {cell : Cell} (ha : cell.IsEventOf a) (hb : cell.IsEventOf b) :
    competitionKey a = competitionKey b := by
  obtain ⟨n, rfl⟩ := ha
  obtain ⟨k, hk⟩ := hb
  exact (eventId_eq_iff.mp (Cell.text.inj hk)).1

/-- An event whose competition is stored leads to a competition exactly if its id is made of the
competition's key. -/
theorem EventRow.Placed.competition_iff {competitions : List CompetitionRow} {r : EventRow}
    (hr : r.Placed competitions) (hcompetitions : ∀ c ∈ competitions, c.Named) :
    r.competition = .text (competitionId a) ↔ r.id.IsEventOf a := by
  obtain ⟨c, hc, hcompetition, name, number, hname, -, hid⟩ := hr
  obtain ⟨name', hname', hcid⟩ := hcompetitions c hc
  obtain rfl : name = name' := Cell.text.inj (hname.symm.trans hname')
  rw [hcompetition, hcid, hid, Cell.text.injEq, competitionId_eq_iff]
  constructor
  · intro hkey
    exact ⟨number, by rw [eventId_eq_iff.mpr ⟨hkey, rfl⟩]⟩
  · rintro ⟨n, hn⟩
    exact (eventId_eq_iff.mp (Cell.text.inj hn)).1

namespace Contents

/-! ## The rows of a competition -/

/-- The events of a competition are those whose ids are made of its key. -/
theorem Coherent.isEventOf_iff (hc : c.schedule.Coherent) {r : EventRow} (hr : r ∈ c.events) :
    (r.competition == .text (competitionId a)) = true ↔ r.id.IsEventOf a := by
  rw [beq_iff_eq]
  exact (hc.events.each r hr).competition_iff hc.competitions.each

/-- A relation of a competition leads to an event's id that is made of the competition's key. -/
theorem Coherent.isEventOf_outId (hc : c.schedule.Coherent) {row : RelationRow}
    (hrow : row ∈ (c.toStore.ofCompetition a).relations) :
    row ∈ c.relations ∧ row.outId.IsEventOf a := by
  obtain ⟨hrow, hevent⟩ := List.mem_filter.mp hrow
  obtain ⟨e, he, hid⟩ := List.any_eq_true.mp hevent
  obtain ⟨he, hcompetition⟩ := List.mem_filter.mp he
  exact ⟨hrow, eq_of_beq hid ▸ (hc.isEventOf_iff he).mp hcompetition⟩

open Classical in
/-- An import leaves the events of a competition with another key. -/
theorem Coherent.events_imported (hc : c.schedule.Coherent)
    (hc' : (c.imported m b entries).schedule.Coherent) (hkey : competitionKey a ≠ competitionKey b) :
    ((c.imported m b entries).events.filter fun r => r.competition == .text (competitionId a)) =
      c.events.filter fun r => r.competition == .text (competitionId a) := by
  -- Before and after the import the events are told by their ids, which an import writes by.
  have hpick {c : Contents} (hc : c.schedule.Coherent) :
      (c.events.filter fun r => r.competition == .text (competitionId a)) =
        c.events.filter fun r => decide (r.id.IsEventOf a) := by
    refine List.filter_congr fun r hr => Bool.eq_iff_iff.mpr ?_
    rw [hc.isEventOf_iff hr, decide_eq_true_eq]
  have hother (n : ℕ) : decide ((Cell.text (eventId b n)).IsEventOf a) = false :=
    decide_eq_false fun ha => hkey (ha.key_eq ⟨n, rfl⟩)
  rw [hpick hc, hpick hc']
  exact (eventWriting m b).filter_writeAll (p := fun id => decide (id.IsEventOf a))
    (fun n _ => hother n) c.events

/-- An import leaves all rows of a competition with another key, and adds none to them. -/
theorem Coherent.ofCompetition_imported (hc : c.schedule.Coherent)
    (hc' : (c.imported m b entries).schedule.Coherent) (hkey : competitionKey a ≠ competitionKey b) :
    (c.imported m b entries).toStore.ofCompetition a = c.toStore.ofCompetition a := by
  have hcompetitions : ((c.imported m b entries).competitions.filter
      fun r => r.id == .text (competitionId a)) =
        c.competitions.filter fun r => r.id == .text (competitionId a) := by
    refine (competitionWriting m).filter_write (p := fun id => id == .text (competitionId a)) ?_ _
    exact beq_eq_false_iff_ne.mpr fun h => hkey (competitionId_eq_iff.mp (Cell.text.inj h)).symm
  have hevents := hc.events_imported hc' hkey
  -- The new relations lead to events of the other key.
  have hnew : ((Store.importedRows m b 0 entries).filter fun row =>
      (c.events.filter fun r => r.competition == .text (competitionId a)).any
        fun e => e.id == row.outId) = [] := by
    rw [List.filter_eq_nil_iff]
    intro row hrow hany
    obtain ⟨e, he, hid⟩ := List.any_eq_true.mp hany
    obtain ⟨he, hcompetition⟩ := List.mem_filter.mp he
    obtain ⟨i, hi, rfl⟩ := List.mem_mapIdx.mp hrow
    have heventId : e.id.IsEventOf b := ⟨_, eq_of_beq hid⟩
    exact hkey (((hc.isEventOf_iff he).mp hcompetition).key_eq heventId)
  unfold Store.ofCompetition toStore
  dsimp only [Option.getD_some]
  rw [hcompetitions, hevents]
  congr 1
  exact (List.filter_append _ _).trans (by rw [hnew, List.append_nil])

/-! ## Groups of a plan -/

/-- The relations that a group of a plan holds lead from the skater to the event of the group. -/
theorem Coherent.pair_of_holds (hc : c.schedule.Coherent) {relations : List Relation}
    (hrelations : c.toStore.relations = .ok relations) {labels : Labels} {d : PairDecision}
    (hd : d.Specified labels relations) {row : RelationRow} (hrow : row ∈ c.relations)
    (hholds : d.Holds row) : row.inId = .text d.subject ∧ row.outId = .text d.target := by
  obtain ⟨scored, hscored, hid⟩ := hholds
  obtain ⟨r, hr, hrid⟩ := List.mem_map.mp (hd.ids_perm.mem_iff.mp (List.mem_map_of_mem hscored))
  obtain ⟨hr, hpair⟩ : r ∈ relations ∧ r.pair = d.pair := by
    simpa [Relation.ofPair] using hr
  -- The relation of the group was read from a row, which is the only one of its id.
  obtain ⟨rows, hrows, hreads⟩ := Store.relations_eq_ok_iff.mp hrelations
  obtain rfl : c.relations = rows := Option.some.inj hrows
  obtain ⟨row', hrow', hread⟩ := exists_of_mem_mapM (Store.readAs_iff.mp hreads) hr
  obtain ⟨hid', hsubject, htarget⟩ := Store.ids_of_relationOfRow hread
  have hsame : row = row' :=
    List.inj_on_of_nodup_map hc.relations.distinct hrow hrow' (by rw [hid, hid', hrid])
  rw [hsame, hsubject, htarget]
  exact ⟨congrArg (fun p => Cell.text p.1) hpair, congrArg (fun p => Cell.text p.2) hpair⟩

/-- No group of a plan holds relations of two competitions with different keys. -/
theorem Coherent.not_holds (hc : c.schedule.Coherent) (hkey : competitionKey a ≠ competitionKey b)
    {relations : List Relation} (hrelations : c.toStore.relations = .ok relations)
    {labels : Labels} {d : PairDecision} (hd : d.Specified labels relations)
    {row row' : RelationRow} (hrow : row ∈ (c.toStore.ofCompetition a).relations)
    (hrow' : row' ∈ (c.toStore.ofCompetition b).relations) (hholds : d.Holds row) :
    ¬ d.Holds row' := by
  intro hholds'
  obtain ⟨hrow, hevent⟩ := hc.isEventOf_outId hrow
  obtain ⟨hrow', hevent'⟩ := hc.isEventOf_outId hrow'
  rw [(hc.pair_of_holds hrelations hd hrow hholds).2] at hevent
  rw [(hc.pair_of_holds hrelations hd hrow' hholds').2] at hevent'
  exact hkey (hevent.key_eq hevent')

end Contents

namespace Usage

/-- Competitions do not interfere. Events share an id exactly if they have the same number and their
competitions have the same key. Whatever a store has been through, importing entries for a competition
leaves the rows of every competition with another key, whether the import succeeds or not; and
however the relations of the store are planned over, no group of the plan holds relations of two
competitions with different keys. -/
theorem competitions_apart :
    (∀ a b n k, eventId a n = eventId b k ↔ n = k ∧ competitionKey a = competitionKey b) ∧
      ∀ {allowed : Usage → Action → Prop} {u : Usage}, Reachable allowed u →
        ∀ a b, competitionKey a ≠ competitionKey b →
          (∀ m entries, (u.step (.importEntries m b entries)).store.ofCompetition a =
              u.store.ofCompetition a) ∧
            ∃ relations, u.store.relations = .ok relations ∧
              ∀ labels, ∃ plan, DeletionPlan.make labels relations = .ok plan ∧
                ∀ d ∈ plan.groups, ∀ row ∈ (u.store.ofCompetition a).relations,
                  ∀ row' ∈ (u.store.ofCompetition b).relations, d.Holds row → ¬ d.Holds row' := by
  refine ⟨fun a b n k => eventId_eq_iff.trans and_comm, ?_⟩
  intro allowed u hu a b hkey
  obtain ⟨c, hstore, hc⟩ := hu.schedule
  constructor
  · intro m entries
    cases h : Action.perform u.store (.importEntries m b entries) with
    | error failure => rw [step_of_error h]
    | ok s =>
      rw [step_store_of_ok h]
      obtain ⟨⟨summary, s₁⟩, himport, rfl⟩ := map_eq_ok_iff.mp h
      rw [← hstore] at himport ⊢
      obtain ⟨c', hs, hc'⟩ := hc.schedule_importEntries himport
      obtain ⟨-, -, -, rfl⟩ := Store.importEntries_toStore_iff.mp himport
      obtain rfl : c' = c.imported m b entries := by
        cases c'
        simpa [Contents.toStore, Contents.imported] using hs
      exact hc.ofCompetition_imported hc' hkey
  · obtain ⟨relations, hrelations, hwellFormed⟩ := hu.exists_relations
    rw [← hstore] at hrelations ⊢
    refine ⟨relations, hrelations, fun labels => ?_⟩
    have hmake : DeletionPlan.make labels relations = .ok (.build labels relations) :=
      DeletionPlan.make_eq_ok_iff.mpr ⟨hwellFormed, rfl⟩
    refine ⟨_, hmake, fun d hd row hrow row' hrow' hholds => ?_⟩
    have hd := (DeletionPlan.specified_of_make hmake).groups d hd
    exact hc.not_holds hkey hrelations hd hrow hrow' hholds

/-- Two competitions of which one is called like the other with a number behind it: event 2 of the one
and event 12 of the other differ in one underscore. Both are imported twice, so that both have
duplicates, and then the second one once more. -/
theorem competitions_apart_numbered :
    let e (number : ℕ) : Entry := ⟨"Kei", "Ito", [number], none, .sent, none, none, [], none⟩
    let m (k : ℕ) : Moment := ⟨⟨k, 0⟩, fun n => .ofNat (10 * k + n), fun n => .ofNat (10 * k + n),
      fun n => .ofNat (10 * k + n), fun n => ⟨k, n + 1⟩⟩
    let first := (fresh.step (.importEntries (m 1) "Pony 1" [e 2])).step
      (.importEntries (m 2) "Pony 1" [e 2])
    let u := (first.step (.importEntries (m 3) "Pony" [e 12])).step
      (.importEntries (m 4) "Pony" [e 12])
    let one := u.store.ofCompetition "Pony 1"
    let other := u.store.ofCompetition "Pony"
    Reachable (fun _ _ => True) u ∧ competitionKey "Pony 1" ≠ competitionKey "Pony" ∧
      eventId "Pony 1" 2 = "event:pony_1_2" ∧ eventId "Pony" 12 = "event:pony_12" ∧
      one.relations.length = 2 ∧ other.relations.length = 2 ∧
      (u.step (.importEntries (m 5) "Pony" [e 12])).store.ofCompetition "Pony 1" = one ∧
      ∃ relations, u.store.relations = .ok relations ∧
        ∃ plan, DeletionPlan.make .empty relations = .ok plan ∧
          ∀ d ∈ plan.groups, ∀ row ∈ one.relations, ∀ row' ∈ other.relations,
            d.Holds row → ¬ d.Holds row' := by
  intro e m first u one other
  have hu : Reachable (fun _ _ => True) u :=
    .step (.step (.step (.step .fresh trivial) trivial) trivial) trivial
  have hkey : competitionKey "Pony 1" ≠ competitionKey "Pony" := by decide
  obtain ⟨himport, relations, hrelations, hplan⟩ :=
    competitions_apart.2 hu "Pony 1" "Pony" hkey
  obtain ⟨plan, hmake, hgroups⟩ := hplan .empty
  exact ⟨hu, hkey, by decide, by decide, by decide, by decide, himport (m 5) [e 12], relations,
    hrelations, plan, hmake, hgroups⟩

end Usage

end SkaterLedger
