import Mathlib.Data.List.Basic
import SkaterLedger.Proofs.Outcome
import SkaterLedger.Proofs.Store.Keys
import SkaterLedger.Proofs.Store.Reading
import SkaterLedger.Proofs.Store.Trail
import SkaterLedger.Proofs.Store.Transaction
import SkaterLedger.Store.Import

/-!
# The relations that an import adds

An import adds one relation for every event of every entry, at the end of the relations and in the
order of the entries and of their events (`importEntries_competedIn`). Each of these rows can be read
back, and as what is told by `importedRelation`.
-/

namespace SkaterLedger

/-- The entries with each of their events, in order. -/
def Entry.appearances (entries : List Entry) : List (Entry × ℕ) :=
  entries.flatMap fun e => e.events.map fun number => (e, number)

namespace Store

/-- The rows of some entries' relations, after `n` relations of the same import. -/
def importedRows (m : Moment) (competition : String) (n : ℕ) (entries : List Entry) :
    List RelationRow :=
  (Entry.appearances entries).mapIdx fun i a => relationRow m competition a.1 (n + i) a.2

variable {m : Moment} {competition : String} {e : Entry} {entries : List Entry} {n number : ℕ}
  {numbers : List ℕ} {s s' : Store} {rows : List RelationRow}

/-! ## Single writes -/

/-- A relation is added exactly when no other has its id, and then at the end. -/
theorem addRelation_eq_ok_iff {r : RelationRow} :
    s.addRelation r = .ok s' ↔
      ∃ rows, s.competedIn = some rows ∧ (∀ row ∈ rows, row.id ≠ r.id) ∧
        { s with competedIn := some (rows ++ [r]) } = s' := by
  simp only [addRelation, bind_eq_ok_iff, need_eq_ok_iff]
  refine exists_congr fun rows => and_congr_right fun _ => ?_
  by_cases htaken : ∃ row ∈ rows, row.id = r.id
  · have hany : (rows.any fun row => row.id == r.id) = true := by simpa using htaken
    have hnot : ¬ ∀ row ∈ rows, row.id ≠ r.id := by simpa using htaken
    simp only [hany, if_true, hnot, false_and, reduceCtorEq]
  · have hany : (rows.any fun row => row.id == r.id) = false := by simpa using htaken
    have hfree : ∀ row ∈ rows, row.id ≠ r.id := by simpa using htaken
    simp only [hany, Bool.false_eq_true, if_false, Except.ok.injEq]
    exact ⟨fun h => ⟨hfree, h⟩, fun h => h.2⟩

/-- A competition is stored in the table of competitions, by its id. -/
theorem upsertCompetition_eq_ok_iff : s.upsertCompetition m competition = .ok s' ↔
    ∃ rows, s.competitions = some rows ∧
      { s with competitions := some (upsert (·.id == .text (competitionId competition))
          (fun r => { r with name := .text competition })
          ⟨.text (competitionId competition), .text competition, .text "", .null, .null,
            .text m.createdAt⟩ rows) } = s' := by
  simp only [upsertCompetition, bind_eq_ok_iff, need_eq_ok_iff, Except.ok.injEq]

/-- A skater is stored in the table of skaters, by its id. -/
theorem upsertSkater_eq_ok_iff : s.upsertSkater m e = .ok s' ↔
    ∃ rows, s.skaters = some rows ∧
      { s with skaters := some (upsert (·.id == .text e.skaterId) (updateSkater e)
          ⟨.text e.skaterId, .text e.firstName, .text e.lastName, .ofText? e.email,
            .text m.createdAt⟩ rows) } = s' := by
  simp only [upsertSkater, bind_eq_ok_iff, mapError_eq_ok_iff, need_eq_ok_iff, Except.ok.injEq]

/-- An event is stored in the table of events, by its id. -/
theorem upsertEvent_eq_ok_iff : s.upsertEvent m competition number = .ok s' ↔
    ∃ rows, s.events = some rows ∧
      { s with events := some (upsert (·.id == .text (eventId competition number))
          (fun r => { r with eventNumber := .integer number })
          ⟨.text (eventId competition number), .text (competitionId competition), .integer number,
            .null, .null, .text m.createdAt⟩ rows) } = s' := by
  simp only [upsertEvent, bind_eq_ok_iff, mapError_eq_ok_iff, need_eq_ok_iff, Except.ok.injEq]

/-- Storing a competition leaves the relations alone. -/
theorem upsertCompetition_competedIn (h : s.upsertCompetition m competition = .ok s') :
    s'.competedIn = s.competedIn := by
  obtain ⟨_, _, rfl⟩ := upsertCompetition_eq_ok_iff.mp h
  rfl

/-- Storing a skater leaves the relations alone. -/
theorem upsertSkater_competedIn (h : s.upsertSkater m e = .ok s') :
    s'.competedIn = s.competedIn := by
  obtain ⟨_, _, rfl⟩ := upsertSkater_eq_ok_iff.mp h
  rfl

/-- Storing an event leaves the relations alone. -/
theorem upsertEvent_competedIn (h : s.upsertEvent m competition number = .ok s') :
    s'.competedIn = s.competedIn := by
  obtain ⟨_, _, rfl⟩ := upsertEvent_eq_ok_iff.mp h
  rfl

/-! ## Series of writes -/

/-- An event of an entry is stored by writing its row and then its relation. -/
theorem importEvent_eq_ok_iff :
    importEvent m competition e s n number = .ok s' ↔
      ∃ s₁, s.upsertEvent m competition number = .ok s₁ ∧
        s₁.addRelation (relationRow m competition e n number) = .ok s' := by
  unfold importEvent
  rw [execute_bind_eq_ok_iff]
  exact exists_congr fun s₁ => and_congr_right fun _ => execute_eq_ok_iff.trans mapError_eq_ok_iff

/-- The events of an entry are stored one after another. -/
theorem importEvents_cons_eq_ok_iff :
    importEvents m competition e s n (number :: numbers) = .ok s' ↔
      ∃ s₁, importEvent m competition e s n number = .ok s₁ ∧
        importEvents m competition e s₁ (n + 1) numbers = .ok s' :=
  bind_eq_ok_iff

/-- Entries are stored one after another, the skater of each before its events. -/
theorem importAll_cons_eq_ok_iff :
    importAll m competition s n (e :: entries) = .ok s' ↔
      ∃ s₁ s₂, s.upsertSkater m e = .ok s₁ ∧
        importEvents m competition e s₁ n e.events = .ok s₂ ∧
        importAll m competition s₂ (n + e.events.length) entries = .ok s' := by
  constructor
  · intro h
    obtain ⟨s₁, hskater, h⟩ := execute_bind_eq_ok_iff.mp h
    obtain ⟨s₂, hevents, hrest⟩ := bind_eq_ok_iff.mp h
    exact ⟨s₁, s₂, hskater, hevents, hrest⟩
  · rintro ⟨s₁, s₂, hskater, hevents, hrest⟩
    exact execute_bind_eq_ok_iff.mpr ⟨s₁, hskater, bind_eq_ok_iff.mpr ⟨s₂, hevents, hrest⟩⟩

/-- An import stores the competition and then the entries, and tells the audit trail. -/
theorem importEntries_eq_ok_iff {summary : ImportSummary} :
    s.importEntries m competition entries = .ok (summary, s') ↔
      ∃ s₁ s₂, s.upsertCompetition m competition = .ok s₁ ∧
        importAll m competition s₁ 0 entries = .ok s₂ ∧
        s₂.insertAudit (summary.event m) = .ok s' ∧
        summary = .ofEntries competition entries := by
  unfold importEntries importRun
  rw [settled_transaction_eq_ok_iff]
  constructor
  · intro h
    obtain ⟨s₁, hcompetition, h⟩ := execute_bind_eq_ok_iff.mp h
    obtain ⟨s₂, hall, h⟩ := bind_eq_ok_iff.mp h
    obtain ⟨s₃, haudit, h⟩ := execute_bind_eq_ok_iff.mp h
    obtain ⟨rfl, rfl⟩ := Prod.mk.inj (Except.ok.inj h)
    exact ⟨s₁, s₂, hcompetition, hall, haudit, rfl⟩
  · rintro ⟨s₁, s₂, hcompetition, hall, haudit, rfl⟩
    exact execute_bind_eq_ok_iff.mpr ⟨s₁, hcompetition, bind_eq_ok_iff.mpr ⟨s₂, hall,
      execute_bind_eq_ok_iff.mpr ⟨s', haudit, rfl⟩⟩⟩

/-! ## From one event to all entries -/

/-- Storing an event of an entry adds its relation at the end, under a new id. -/
theorem importEvent_competedIn (hrows : s.competedIn = some rows)
    (h : importEvent m competition e s n number = .ok s') :
    s'.competedIn = some (rows ++ [relationRow m competition e n number]) ∧
      ∀ row ∈ rows, row.id ≠ (relationRow m competition e n number).id := by
  obtain ⟨s₁, hevent, hrelation⟩ := importEvent_eq_ok_iff.mp h
  obtain ⟨rows₁, hrows₁, hfree, rfl⟩ := addRelation_eq_ok_iff.mp hrelation
  rw [upsertEvent_competedIn hevent, hrows, Option.some.injEq] at hrows₁
  subst hrows₁
  exact ⟨rfl, hfree⟩

/-- The rows of an entry's events are that of the first one and then those of the others, which are
numbered on. -/
theorem mapIdx_relationRow_cons :
    (number :: numbers).mapIdx (fun i number => relationRow m competition e (n + i) number) =
      relationRow m competition e n number ::
        numbers.mapIdx fun i number => relationRow m competition e (n + 1 + i) number := by
  have hnext : (fun i number => relationRow m competition e (n + (i + 1)) number) =
      fun i number => relationRow m competition e (n + 1 + i) number := by
    funext i number
    rw [Nat.add_comm i 1, Nat.add_assoc]
  rw [List.mapIdx_cons, Nat.add_zero, hnext]

/-- Storing the events of an entry adds their relations at the end and leaves the keys in force. -/
theorem importEvents_competedIn (hrows : s.competedIn = some rows)
    (hkeys : Shape.competedIn.KeysHold rows)
    (h : importEvents m competition e s n numbers = .ok s') :
    s'.competedIn = some (rows ++
        numbers.mapIdx fun i number => relationRow m competition e (n + i) number) ∧
      Shape.competedIn.KeysHold (rows ++
        numbers.mapIdx fun i number => relationRow m competition e (n + i) number) := by
  induction numbers generalizing s rows n with
  | nil =>
    obtain rfl := Except.ok.inj h
    simpa using ⟨hrows, hkeys⟩
  | cons number numbers ih =>
    obtain ⟨s₁, hevent, hrest⟩ := importEvents_cons_eq_ok_iff.mp h
    -- The new relation is in place before the next one is added, and its id is taken from then on.
    obtain ⟨hrows₁, hfree⟩ := importEvent_competedIn hrows hevent
    have hkeys₁ : Shape.competedIn.KeysHold (rows ++ [relationRow m competition e n number]) := by
      refine hkeys.append fun row hrow key hkey => ?_
      obtain rfl := List.mem_singleton.mp hkey
      rw [Shape.competedIn_agree, Cell.sameValue, beq_eq_false_iff_ne.mpr (hfree row hrow),
        Bool.and_false]
    rw [mapIdx_relationRow_cons, List.append_cons]
    exact ih hrows₁ hkeys₁ hrest

/-- The rows of several entries are those of the first one and then those of the others. -/
theorem importedRows_cons :
    importedRows m competition n (e :: entries) =
      (e.events.mapIdx fun i number => relationRow m competition e (n + i) number) ++
        importedRows m competition (n + e.events.length) entries := by
  have hfirst : ((e.events.map fun number => (e, number)).mapIdx fun i a =>
      relationRow m competition a.1 (n + i) a.2) =
      e.events.mapIdx fun i number => relationRow m competition e (n + i) number :=
    List.ext_getElem (by simp) (by simp)
  have hrest : (fun i (a : Entry × ℕ) =>
      relationRow m competition a.1 (n + (i + e.events.length)) a.2) =
      fun i a => relationRow m competition a.1 (n + e.events.length + i) a.2 := by
    funext i a
    rw [Nat.add_comm i, Nat.add_assoc]
  unfold importedRows Entry.appearances
  rw [List.flatMap_cons, List.mapIdx_append, hfirst, List.length_map, hrest]

/-- Storing entries adds their relations at the end and leaves the keys in force. -/
theorem importAll_competedIn (hrows : s.competedIn = some rows)
    (hkeys : Shape.competedIn.KeysHold rows) (h : importAll m competition s n entries = .ok s') :
    s'.competedIn = some (rows ++ importedRows m competition n entries) ∧
      Shape.competedIn.KeysHold (rows ++ importedRows m competition n entries) := by
  induction entries generalizing s rows n with
  | nil =>
    obtain rfl := Except.ok.inj h
    simpa [importedRows, Entry.appearances] using ⟨hrows, hkeys⟩
  | cons e entries ih =>
    obtain ⟨s₁, s₂, hskater, hevents, hrest⟩ := importAll_cons_eq_ok_iff.mp h
    rw [← upsertSkater_competedIn hskater] at hrows
    obtain ⟨hrows₂, hkeys₂⟩ := importEvents_competedIn hrows hkeys hevents
    rw [importedRows_cons, ← List.append_assoc]
    exact ih hrows₂ hkeys₂ hrest

/-- An import adds the relations of its entries at the end and leaves the keys in force. -/
theorem importEntries_competedIn {summary : ImportSummary} (hrows : s.competedIn = some rows)
    (hkeys : Shape.competedIn.KeysHold rows)
    (h : s.importEntries m competition entries = .ok (summary, s')) :
    s'.competedIn = some (rows ++ importedRows m competition 0 entries) ∧
      Shape.competedIn.KeysHold (rows ++ importedRows m competition 0 entries) := by
  obtain ⟨s₁, s₂, hcompetition, hall, haudit, -⟩ :=
    importEntries_eq_ok_iff.mp h
  rw [← upsertCompetition_competedIn hcompetition] at hrows
  rw [insertAudit_competedIn haudit]
  exact importAll_competedIn hrows hkeys hall

/-! ## Reading them back -/

/-- The relation that an entry has with one of its events, as it is read back. -/
def importedRelation (m : Moment) (competition : String) (e : Entry) (n number : ℕ) : Relation where
  id := m.relationId n
  subject := e.skaterId
  target := eventId competition number
  requestStatus := some e.requestStatus
  galleryStatus := some e.status.word
  purchaseAmount := (purchaseAmount e).map Binary64.withoutNegativeZero
  purchaseDate := if e.status = .purchased then some m.createdAt else none
  notes := if e.notes.isEmpty then none else some ("; ".intercalate e.notes)
  galleryUrl := none
  createdAt := some m.createdAt

/-- What an import has written is read back. -/
theorem relationOfRow_relationRow :
    relationOfRow (relationRow m competition e n number) =
      .ok (importedRelation m competition e n number) := by
  -- What may be missing is missing in the row exactly if it is in the relation.
  have hamount : (Cell.ofReal? (purchaseAmount e)).getReal? 5 "purchase_amount" =
      .ok ((purchaseAmount e).map Binary64.withoutNegativeZero) := by
    cases purchaseAmount e <;> rfl
  have hdate : (if e.status = .purchased then Cell.text m.createdAt else .null).getText? 6
      "purchase_date" = .ok (if e.status = .purchased then some m.createdAt else none) := by
    split <;> rfl
  have hnotes : (if e.notes.isEmpty then Cell.null else .text ("; ".intercalate e.notes)).getText? 7
      "notes" = .ok (if e.notes.isEmpty then none else some ("; ".intercalate e.notes)) := by
    split <;> rfl
  unfold relationOfRow relationRow
  simp only [hamount, hdate, hnotes]
  rfl

/-- The relations of some entries as they are read back, after `n` relations of the same import. -/
def importedRelations (m : Moment) (competition : String) (n : ℕ) (entries : List Entry) :
    List Relation :=
  (Entry.appearances entries).mapIdx fun i a => importedRelation m competition a.1 (n + i) a.2

/-- The rows that an import adds are read as its relations. -/
theorem reads_importedRows (m : Moment) (competition : String) (n : ℕ) (entries : List Entry) :
    ReadAs (importedRows m competition n entries) (importedRelations m competition n entries) := by
  unfold ReadAs
  rw [List.forall₂_iff_get]
  refine ⟨by simp [importedRows, importedRelations], fun i hi hi' => ?_⟩
  simpa [importedRows, importedRelations] using relationOfRow_relationRow

/-- Every row that an import adds can be read. -/
theorem exists_reads_importedRows (m : Moment) (competition : String) (n : ℕ)
    (entries : List Entry) :
    ∃ relations, ReadAs (importedRows m competition n entries) relations :=
  ⟨_, reads_importedRows m competition n entries⟩

end Store

end SkaterLedger
