import Mathlib.Data.List.Basic
import SkaterLedger.Proofs.Outcome
import SkaterLedger.Proofs.Store.Coherence
import SkaterLedger.Proofs.Store.Ids
import SkaterLedger.Proofs.Store.Import
import SkaterLedger.Proofs.Store.Keys
import SkaterLedger.Proofs.Store.Trail
import SkaterLedger.Proofs.Store.Upserts

/-!
# What is in the store after an import

An import goes back and forth between the tables, but what it writes into one of them does not
depend on the others. So each table is written on its own: skaters, events and competitions by their
ids (`skaterWriting`, `eventWriting`, `competitionWriting`), relations and the audit trail at their
ends. `importEntries_toStore_iff` says that this is all, and that only a relation's id that is taken
or an audit trail that does not admit the import's event can make an import fail.

The last entry of a skater decides about its names, and the last one with an address about its
address (`skaterWriting_after`).
-/

namespace SkaterLedger

/-! ## Rows after an import -/

/-- The last of some entries that is of the skater of an id. -/
def Entry.last? (entries : List Entry) (id : Cell) : Option Entry :=
  (entries.filter fun e => .text e.skaterId == id).getLast?

/-- The last address that some entries have of the skater of an id. -/
def Entry.lastEmail? (entries : List Entry) (id : Cell) : Option String :=
  ((entries.filter fun e => .text e.skaterId == id).filterMap Entry.email).getLast?

/-- A skater's row after some entries: the names are those of the last entry that is of this skater,
the address is the last one that such an entry has. -/
def SkaterRow.after (entries : List Entry) (r : SkaterRow) : SkaterRow :=
  match Entry.last? entries r.id with
  | none => r
  | some e =>
    { r with
      firstName := .text e.firstName
      lastName := .text e.lastName
      email := match Entry.lastEmail? entries r.id with
        | some email => .text email
        | none => r.email }

/-- An event's row after some events of a competition: the number is the one that its id is made
of. -/
def EventRow.after (competition : String) (numbers : List ℕ) (r : EventRow) : EventRow :=
  match numbers.find? fun n => .text (eventId competition n) == r.id with
  | none => r
  | some n => { r with eventNumber := .integer n }

/-- A competition's row after a competition of some name: if it is this one it has the name. -/
def CompetitionRow.after (name : String) (r : CompetitionRow) : CompetitionRow :=
  if r.id = .text (competitionId name) then { r with name := .text name } else r

/-! ## Writing rows by their ids -/

/-- How the skaters of entries are written. -/
def skaterWriting (m : Moment) : RowWriting Entry SkaterRow where
  id := SkaterRow.id
  key := Entry.skaterId
  update := Store.updateSkater
  blank i := ⟨.text i, .null, .null, .null, .text m.createdAt⟩
  id_update _ _ := rfl
  id_blank _ := rfl

/-- How the events of a competition are written. -/
def eventWriting (m : Moment) (competition : String) : RowWriting ℕ EventRow where
  id := EventRow.id
  key := eventId competition
  update n r := { r with eventNumber := .integer n }
  blank i :=
    ⟨.text i, .text (competitionId competition), .null, .null, .null, .text m.createdAt⟩
  id_update _ _ := rfl
  id_blank _ := rfl

/-- How competitions are written. -/
def competitionWriting (m : Moment) : RowWriting String CompetitionRow where
  id := CompetitionRow.id
  key := competitionId
  update name r := { r with name := .text name }
  blank i := ⟨.text i, .null, .text "", .null, .null, .text m.createdAt⟩
  id_update _ _ := rfl
  id_blank _ := rfl

section Writing

variable {m : Moment} {competition : String} {e : Entry} {entries : List Entry} {numbers : List ℕ}

/-- The names that a row ends up with are those of the last entry that is written, and the address
is the last one that one of the entries has. -/
theorem foldl_updateSkater (entries : List Entry) (r : SkaterRow) :
    entries.foldl (fun r e => Store.updateSkater e r) r =
      match entries.getLast? with
      | none => r
      | some e =>
        { r with
          firstName := .text e.firstName
          lastName := .text e.lastName
          email := match (entries.filterMap Entry.email).getLast? with
            | some email => .text email
            | none => r.email } := by
  induction entries using List.reverseRecOn with
  | nil => rfl
  | append_singleton entries e ih =>
    rw [List.foldl_append, ih]
    -- The row had other names before, or none of the entries was written yet.
    cases hlast : entries.getLast? with
    | none =>
      obtain rfl := List.getLast?_eq_none_iff.mp hlast
      cases hemail : e.email <;> simp [Store.updateSkater, hemail]
    | some e' => cases hemail : e.email <;> simp [Store.updateSkater, hemail]

/-- Skaters after some entries are as the last of them say. -/
theorem skaterWriting_after (r : SkaterRow) :
    (skaterWriting m).after entries r = SkaterRow.after entries r :=
  foldl_updateSkater _ r

/-- Events after some events of a competition have the numbers that their ids are made of. -/
theorem eventWriting_after (r : EventRow) :
    (eventWriting m competition).after numbers r = EventRow.after competition numbers r := by
  unfold RowWriting.after EventRow.after
  rw [← List.head?_filter]
  -- All that is written about the row is one number, since its id tells the number.
  have hsame : ∀ n ∈ numbers.filter (fun n => .text (eventId competition n) == r.id),
      ∀ k ∈ numbers.filter (fun n => .text (eventId competition n) == r.id), n = k := by
    intro n hn k hk
    have hn' := eq_of_beq (List.mem_filter.mp hn).2
    have hk' := eq_of_beq (List.mem_filter.mp hk).2
    exact (eventId_eq_iff.mp (Cell.text.inj (hn'.trans hk'.symm))).2
  change (numbers.filter fun n => .text (eventId competition n) == r.id).foldl
    (fun r n => { r with eventNumber := .integer n }) r = _
  generalize numbers.filter _ = given at hsame ⊢
  induction given generalizing r with
  | nil => rfl
  | cons n given ih =>
    have hrest := ih { r with eventNumber := .integer n } fun a ha b hb =>
      hsame a (List.mem_cons_of_mem _ ha) b (List.mem_cons_of_mem _ hb)
    rw [List.foldl_cons, hrest, List.head?_cons]
    cases given with
    | nil => rfl
    | cons k given =>
      rw [hsame n List.mem_cons_self k (List.mem_cons_of_mem _ List.mem_cons_self)]
      rfl

/-- A competition after a competition of some name. -/
theorem competitionWriting_after (r : CompetitionRow) :
    (competitionWriting m).after [competition] r = CompetitionRow.after competition r := by
  unfold RowWriting.after CompetitionRow.after
  by_cases hid : r.id = .text (competitionId competition)
  · simp [competitionWriting, hid]
  · have hother : Cell.text (competitionId competition) ≠ r.id := fun h => hid h.symm
    simp [competitionWriting, hid, hother]

/-- What the last entries say of a skater is the same once it is written. -/
theorem SkaterRow.after_after (r : SkaterRow) :
    SkaterRow.after entries (SkaterRow.after entries r) = SkaterRow.after entries r := by
  cases hlast : Entry.last? entries r.id with
  | none => simp [SkaterRow.after, hlast]
  | some e => cases hemail : Entry.lastEmail? entries r.id <;> simp [SkaterRow.after, hlast, hemail]

/-- The number of an event is the same once it is written. -/
theorem EventRow.after_after (r : EventRow) :
    EventRow.after competition numbers (EventRow.after competition numbers r) =
      EventRow.after competition numbers r := by
  cases hfind : numbers.find? fun n => .text (eventId competition n) == r.id <;>
    simp [EventRow.after, hfind]

/-- The name of a competition is the same once it is written. -/
theorem CompetitionRow.after_after (r : CompetitionRow) :
    CompetitionRow.after competition (CompetitionRow.after competition r) =
      CompetitionRow.after competition r := by
  by_cases hid : r.id = .text (competitionId competition) <;> simp [CompetitionRow.after, hid]

end Writing

/-! ## The store after an import -/

/-- No two relations of some rows with new ones behind them share an id, as far as the new ones are
concerned. -/
def RelationRow.Fresh (rows new : List RelationRow) : Prop :=
  (∀ a ∈ rows, ∀ b ∈ new, a.id ≠ b.id) ∧ new.Pairwise fun a b => a.id ≠ b.id

namespace Contents

/-- What is in the store after an import. -/
def imported (c : Contents) (m : Moment) (competition : String) (entries : List Entry) :
    Contents where
  competitions := (competitionWriting m).write competition c.competitions
  events :=
    (eventWriting m competition).writeAll ((Entry.appearances entries).map Prod.snd) c.events
  skaters := (skaterWriting m).writeAll entries c.skaters
  families := c.families
  relations := c.relations ++ Store.importedRows m competition 0 entries
  links := c.links
  log := c.log.extend ((ImportSummary.ofEntries competition entries).event m)

end Contents

section Import

variable {m : Moment} {competition : String} {e : Entry} {entries : List Entry} {n number : ℕ}
  {numbers : List ℕ} {c : Contents} {s : Store} {summary : ImportSummary}

/-- New relations are the first of them and then the others. -/
theorem RelationRow.fresh_append_iff {rows new new' : List RelationRow} :
    Fresh rows (new ++ new') ↔ Fresh rows new ∧ Fresh (rows ++ new) new' := by
  simp only [Fresh, List.pairwise_append, List.mem_append]
  constructor
  · rintro ⟨hrows, hnew, hnew', hboth⟩
    exact ⟨⟨fun a ha b hb => hrows a ha b (.inl hb), hnew⟩,
      fun a ha b hb => ha.elim (fun ha => hrows a ha b (.inr hb)) fun ha => hboth a ha b hb, hnew'⟩
  · rintro ⟨⟨hrows, hnew⟩, hrows', hnew'⟩
    exact ⟨fun a ha b hb => hb.elim (hrows a ha b) (hrows' a (.inl ha) b), hnew, hnew',
      fun a ha b hb => hrows' a (.inr ha) b hb⟩

/-- One new relation has an id that no other has. -/
theorem RelationRow.fresh_singleton_iff {rows : List RelationRow} {r : RelationRow} :
    Fresh rows [r] ↔ ∀ a ∈ rows, a.id ≠ r.id := by
  simp [Fresh]

/-- New relations are the first one and then the others. -/
theorem RelationRow.fresh_cons_iff {rows new : List RelationRow} {r : RelationRow} :
    Fresh rows (r :: new) ↔ Fresh rows [r] ∧ Fresh (rows ++ [r]) new :=
  @fresh_append_iff rows [r] new

namespace Store

/-- Storing the skater of an entry writes its row. -/
theorem upsertSkater_toStore : c.toStore.upsertSkater m e =
    .ok { c with skaters := (skaterWriting m).write e c.skaters }.toStore := by
  have hnew : (⟨.text e.skaterId, .text e.firstName, .text e.lastName, .ofText? e.email,
      .text m.createdAt⟩ : SkaterRow) = (skaterWriting m).new e := by
    cases hemail : e.email <;>
      simp [RowWriting.new, skaterWriting, updateSkater, hemail, Cell.ofText?]
  have hrows : upsert (SkaterRow.id · == .text e.skaterId) (updateSkater e) ⟨.text e.skaterId,
      .text e.firstName, .text e.lastName, .ofText? e.email, .text m.createdAt⟩ c.skaters =
      (skaterWriting m).write e c.skaters := by
    rw [hnew]
    rfl
  rw [← hrows]
  rfl

/-- Storing an event of an entry writes its row and adds the relation, if the id of that is new. -/
theorem importEvent_toStore_iff :
    importEvent m competition e c.toStore n number = .ok s ↔
      RelationRow.Fresh c.relations [relationRow m competition e n number] ∧
        { c with
          events := (eventWriting m competition).write number c.events
          relations := c.relations ++ [relationRow m competition e n number] }.toStore = s := by
  have hevent : c.toStore.upsertEvent m competition number =
      .ok { c with events := (eventWriting m competition).write number c.events }.toStore := rfl
  rw [RelationRow.fresh_singleton_iff]
  simp only [importEvent_eq_ok_iff, hevent, addRelation_eq_ok_iff, Except.ok.injEq,
    exists_eq_left']
  constructor
  · rintro ⟨rows, hrows, hfree, rfl⟩
    obtain rfl : c.relations = rows := Option.some.inj hrows
    exact ⟨hfree, rfl⟩
  · rintro ⟨hfree, rfl⟩
    exact ⟨c.relations, rfl, hfree, rfl⟩

/-- Storing the events of an entry writes their rows and adds their relations. -/
theorem importEvents_toStore_iff :
    importEvents m competition e c.toStore n numbers = .ok s ↔
      RelationRow.Fresh c.relations
          (numbers.mapIdx fun i number => relationRow m competition e (n + i) number) ∧
        { c with
          events := (eventWriting m competition).writeAll numbers c.events
          relations := c.relations ++
            numbers.mapIdx fun i number => relationRow m competition e (n + i) number }.toStore =
          s := by
  induction numbers generalizing c n with
  | nil => simp [importEvents, RelationRow.Fresh, RowWriting.writeAll]
  | cons number numbers ih =>
    rw [mapIdx_relationRow_cons, List.append_cons, RelationRow.fresh_cons_iff]
    simp only [importEvents_cons_eq_ok_iff, importEvent_toStore_iff]
    constructor
    · rintro ⟨_, ⟨hfirst, rfl⟩, hrest⟩
      obtain ⟨hfresh, rfl⟩ := ih.mp hrest
      exact ⟨⟨hfirst, hfresh⟩, rfl⟩
    · rintro ⟨⟨hfirst, hfresh⟩, rfl⟩
      exact ⟨_, ⟨hfirst, rfl⟩, ih.mpr ⟨hfresh, rfl⟩⟩

/-- Storing entries writes the rows of their skaters and events and adds their relations. -/
theorem importAll_toStore_iff :
    importAll m competition c.toStore n entries = .ok s ↔
      RelationRow.Fresh c.relations (importedRows m competition n entries) ∧
        { c with
          events := (eventWriting m competition).writeAll ((Entry.appearances entries).map Prod.snd)
            c.events
          skaters := (skaterWriting m).writeAll entries c.skaters
          relations := c.relations ++ importedRows m competition n entries }.toStore = s := by
  induction entries generalizing c n with
  | nil =>
    simp [importAll, RelationRow.Fresh, RowWriting.writeAll, importedRows, Entry.appearances]
  | cons e entries ih =>
    have hnumbers : (Entry.appearances (e :: entries)).map Prod.snd =
        e.events ++ (Entry.appearances entries).map Prod.snd := by
      simp [Entry.appearances, Function.comp_def]
    have hevents (rows : List EventRow) : (eventWriting m competition).writeAll
        (e.events ++ (Entry.appearances entries).map Prod.snd) rows =
        (eventWriting m competition).writeAll ((Entry.appearances entries).map Prod.snd)
          ((eventWriting m competition).writeAll e.events rows) := List.foldl_append
    rw [importedRows_cons, RelationRow.fresh_append_iff, ← List.append_assoc, hnumbers, hevents]
    rw [importAll_cons_eq_ok_iff]
    constructor
    · rintro ⟨_, _, hskater, hevents, hrest⟩
      obtain rfl := Except.ok.inj (upsertSkater_toStore.symm.trans hskater)
      obtain ⟨hfirst, rfl⟩ := importEvents_toStore_iff.mp hevents
      obtain ⟨hfresh, rfl⟩ := ih.mp hrest
      exact ⟨⟨hfirst, hfresh⟩, rfl⟩
    · rintro ⟨⟨hfirst, hfresh⟩, rfl⟩
      exact ⟨_, _, upsertSkater_toStore, importEvents_toStore_iff.mpr ⟨hfirst, rfl⟩,
        ih.mpr ⟨hfresh, rfl⟩⟩

/-- An import succeeds exactly if the ids of its relations are new and the audit trail admits its
event, and then it writes what it should. -/
theorem importEntries_toStore_iff :
    importEntries m competition entries c.toStore = .ok (summary, s) ↔
      RelationRow.Fresh c.relations (importedRows m competition 0 entries) ∧
        c.log.Admits [(ImportSummary.ofEntries competition entries).event m] ∧
        summary = ImportSummary.ofEntries competition entries ∧
        s = (c.imported m competition entries).toStore := by
  have hcompetition : c.toStore.upsertCompetition m competition = .ok
      { c with competitions := (competitionWriting m).write competition c.competitions }.toStore :=
    rfl
  rw [importEntries_eq_ok_iff]
  constructor
  · rintro ⟨_, _, hstored, hall, haudit, rfl⟩
    obtain rfl := Except.ok.inj (hcompetition.symm.trans hstored)
    obtain ⟨hfresh, rfl⟩ := importAll_toStore_iff.mp hall
    obtain ⟨log, hlog, hadmits, rfl⟩ := insertAudit_eq_ok_iff.mp haudit
    obtain rfl : c.log = log := Option.some.inj hlog
    exact ⟨hfresh, hadmits, rfl, rfl⟩
  · rintro ⟨hfresh, hadmits, rfl, rfl⟩
    exact ⟨_, _, hcompetition, importAll_toStore_iff.mpr ⟨hfresh, rfl⟩,
      insertAudit_eq_ok_iff.mpr ⟨c.log, rfl, hadmits, rfl⟩, rfl⟩

end Store

end Import

end SkaterLedger
