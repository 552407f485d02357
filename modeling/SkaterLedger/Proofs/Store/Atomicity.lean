import SkaterLedger.Proofs.Store.Tables

/-!
# Stores that lack tables

A table of a store may be missing. An import and a contact report are each a series of writes, and a
write fails exactly when its table is missing, provided that the ids it takes from outside are new
and that links lead to what can be read as a family's id. No write makes a table or takes one away
(`SameTables`), so that whether a series succeeds can be told before it begins: every table has to
be there that one of its writes needs (`importEntries_succeeds_iff`, `applyContacts_succeeds_iff`).
Which writes there are depends on the document, and a table that none of them needs may be missing.
A series that fails has written something by then, and it is its transaction that takes this back
(`importRun_of_stop`).
-/

namespace SkaterLedger.Store

variable {s s' : Store} {m : Moment} {competition : String} {e : Entry} {entries : List Entry}
  {number n : ℕ} {numbers : List ℕ} {new : List RelationRow}

/-! ## What stores hold whose tables are there -/

/-- Of the tables that a store had, all are left but the one that is taken away. -/
theorem has_without (s : Store) (taken table : Table) :
    (s.without taken).has table = (table != taken && s.has table) := by
  cases taken <;> cases table <;> rfl

/-- Two stores hold the same families and links. -/
structure SameHouseholds (s s' : Store) : Prop where
  /-- The families are the same. -/
  families : s'.families = s.families
  /-- The links are the same. -/
  belongsTo : s'.belongsTo = s.belongsTo

/-- Every single write of an import keeps families and links. -/
theorem sameHouseholds_importRespected : ImportRespected SameHouseholds where
  refl _ := ⟨rfl, rfl⟩
  trans h h' := ⟨h'.families.trans h.families, h'.belongsTo.trans h.belongsTo⟩
  upsertCompetition h := by
    obtain ⟨_, _, rfl⟩ := upsertCompetition_eq_ok_iff.mp h
    exact ⟨rfl, rfl⟩
  upsertSkater h := by
    obtain ⟨_, _, rfl⟩ := upsertSkater_eq_ok_iff.mp h
    exact ⟨rfl, rfl⟩
  upsertEvent h := by
    obtain ⟨_, _, rfl⟩ := upsertEvent_eq_ok_iff.mp h
    exact ⟨rfl, rfl⟩
  addRelation h := by
    obtain ⟨_, _, _, rfl⟩ := addRelation_eq_ok_iff.mp h
    exact ⟨rfl, rfl⟩

/-- Every link leads to what can be read as a family's id. -/
def LinksLead (s : Store) : Prop :=
  ∀ rows, s.belongsTo = some rows → ∀ r ∈ rows, ∃ family, r.outId = .text family

/-- The ids of some new relations are new to a store, and all different. -/
def FreshRelations (s : Store) (new : List RelationRow) : Prop :=
  ∀ rows, s.competedIn = some rows → RelationRow.Fresh rows new

/-- The audit trail, if there is one, has a number for one more event, and no row has the first id
that the moment has for one. -/
def TakesEvent (s : Store) (m : Moment) : Prop :=
  ∀ log, s.auditLog = some log →
    log.lastId < AuditLog.maxId ∧ ∀ r ∈ log.rows, r.eventId ≠ .text (m.auditId 0)

/-- A link that a report adds leads to a family's id, and no other write is about links. -/
theorem linksLead_respected : Respected m fun s s' => s.LinksLead → s'.LinksLead where
  refl _ := id
  trans h h' := h' ∘ h
  upsertFamily h hs := by
    obtain ⟨_, _, rfl⟩ := upsertFamily_eq_ok_iff.mp h
    exact hs
  linkFamily := by
    intro s s' skater family n n' h hs
    obtain ⟨rows, hrows, ⟨-, rfl, -⟩ | ⟨-, rfl, -⟩⟩ := linkFamily_cases h
    · exact hs
    · intro rows' hrows' r hr
      obtain rfl := Option.some.inj hrows'
      rcases List.mem_append.mp hr with hr | hr
      · exact hs rows hrows r hr
      · obtain rfl := List.mem_singleton.mp hr
        exact ⟨family, rfl⟩
  setFamilyEmail h hs := by
    obtain ⟨_, _, rfl⟩ := setFamilyEmail_eq_ok_iff.mp h
    exact hs
  fillSkaterEmail h hs := by
    obtain ⟨_, _, rfl⟩ := fillSkaterEmail_eq_ok_iff.mp h
    exact hs

/-- The links that are left when a table is taken away lead where they led. -/
theorem LinksLead.without (h : s.LinksLead) (table : Table) : (s.without table).LinksLead := by
  cases table with
  | belongsTo =>
    intro rows hrows
    cases hrows
  | _ => exact h

/-! ## When single writes succeed -/

/-- The contents of a table are had exactly if it exists. -/
theorem succeeds_need_iff {α : Type} {table : Table} {o : Option α} :
    Succeeds (need table o) ↔ o.isSome := by
  cases o <;> simp [Succeeds, need]

/-- A competition is stored if there is a table of competitions. -/
theorem upsertCompetition_succeeds_iff {name : String} :
    Succeeds (s.upsertCompetition m name) ↔ s.has .competitions := by
  simp only [upsertCompetition, succeeds_bind_ok_iff, succeeds_need_iff, has]

/-- A skater is stored if there is a table of skaters. -/
theorem upsertSkater_succeeds_iff : Succeeds (s.upsertSkater m e) ↔ s.has .skaters := by
  simp only [upsertSkater, succeeds_bind_ok_iff, succeeds_mapError_iff, succeeds_need_iff, has]

/-- An event is stored if there is a table of events. -/
theorem upsertEvent_succeeds_iff :
    Succeeds (s.upsertEvent m competition number) ↔ s.has .events := by
  simp only [upsertEvent, succeeds_bind_ok_iff, succeeds_mapError_iff, succeeds_need_iff, has]

/-- A relation with a new id is added if there is a table of relations. -/
theorem addRelation_succeeds_iff {r : RelationRow} (hfresh : s.FreshRelations [r]) :
    Succeeds (s.addRelation r) ↔ s.has .competedIn := by
  constructor
  · rintro ⟨s', h⟩
    obtain ⟨rows, hrows, -⟩ := addRelation_eq_ok_iff.mp h
    simp [has, hrows]
  · intro htable
    obtain ⟨rows, hrows⟩ := Option.isSome_iff_exists.mp htable
    exact ⟨_, addRelation_eq_ok_iff.mpr
      ⟨rows, hrows, RelationRow.fresh_singleton_iff.mp (hfresh rows hrows), rfl⟩⟩

/-- The audit trail, if there is one, takes an event that has the moment's first id. -/
theorem insertAudit_succeeds_iff {event : AuditEvent} (hid : event.eventId = m.auditId 0)
    (htakes : s.TakesEvent m) : Succeeds (s.insertAudit event) ↔ s.has .auditLog := by
  constructor
  · rintro ⟨s', h⟩
    obtain ⟨log, hlog, -⟩ := insertAudit_eq_ok_iff.mp h
    simp [has, hlog]
  · intro htable
    obtain ⟨log, hlog⟩ := Option.isSome_iff_exists.mp htable
    obtain ⟨hroom, hunused⟩ := htakes log hlog
    rw [← hid] at hunused
    exact ⟨_, insertAudit_eq_ok_iff.mpr
      ⟨log, hlog, AuditLog.admits_singleton_iff.mpr ⟨hroom, hunused⟩, rfl⟩⟩

/-- A family is stored if there is a table of families. -/
theorem upsertFamily_succeeds_iff {last : String} {email : Option String} :
    Succeeds (s.upsertFamily m last email) ↔ s.has .families := by
  simp only [upsertFamily, succeeds_bind_ok_iff, succeeds_mapError_iff, succeeds_need_iff, has]

/-- The address of a family is set if there is a table of families. -/
theorem setFamilyEmail_succeeds_iff {family email : String} :
    Succeeds (s.setFamilyEmail family email) ↔ s.has .families := by
  simp only [setFamilyEmail, succeeds_bind_ok_iff, succeeds_need_iff, has]

/-- The address of a skater is set if there is a table of skaters. -/
theorem fillSkaterEmail_succeeds_iff {skater email : String} :
    Succeeds (s.fillSkaterEmail skater email) ↔ s.has .skaters := by
  simp only [fillSkaterEmail, succeeds_bind_ok_iff, succeeds_need_iff, has]

/-- A skater is linked to a family, or is already, if there is a table of links. A new id that is
taken is no failure: then nothing is added. -/
theorem linkFamily_succeeds_iff {skater family : String} :
    Succeeds (linkFamily m skater family s n) ↔ s.has .belongsTo := by
  constructor
  · rintro ⟨⟨s', n'⟩, h⟩
    obtain ⟨rows, hrows, -⟩ := linkFamily_cases h
    simp [has, hrows]
  · intro htable
    obtain ⟨rows, hrows⟩ := Option.isSome_iff_exists.mp htable
    unfold linkFamily
    rw [hrows]
    refine succeeds_bind_iff.mpr ⟨rows, rfl, ?_⟩
    dsimp only
    split
    · exact ⟨_, rfl⟩
    · exact ⟨_, rfl⟩

/-- Where links lead to ids, the family of a skater is looked up if there is a table of links. -/
theorem firstFamily?_succeeds_iff {skater : String} (hlinks : s.LinksLead) :
    Succeeds (s.firstFamily? skater) ↔ s.has .belongsTo := by
  unfold firstFamily?
  simp only [succeeds_bind_iff, need_eq_ok_iff]
  constructor
  · rintro ⟨rows, hrows, -⟩
    simp [has, hrows]
  · intro htable
    obtain ⟨rows, hrows⟩ := Option.isSome_iff_exists.mp htable
    refine ⟨rows, hrows, ?_⟩
    -- If there is a link, the family's id is read as text, which it is in every link.
    cases hfind : rows.find? fun r => r.inId == .text skater with
    | none => exact ⟨none, rfl⟩
    | some r =>
      obtain ⟨family, hfamily⟩ := hlinks rows hrows r (List.mem_of_find?_eq_some hfind)
      exact ⟨some family, bind_eq_ok_iff.mpr ⟨family, Cell.getText_eq_ok_iff.mpr hfamily, rfl⟩⟩

/-! ## When an import succeeds -/

/-- What is fresh stays so while other tables are written. -/
theorem FreshRelations.of_eq (h : s.FreshRelations new) (hsame : s'.competedIn = s.competedIn) :
    s'.FreshRelations new := by
  intro rows hrows
  exact h rows (hsame.symm.trans hrows)

/-- When one of several new relations has been added, the others are still new. -/
theorem FreshRelations.tail (h : s.FreshRelations (relationRow m competition e n number :: new))
    (hevent : importEvent m competition e s n number = .ok s') : s'.FreshRelations new := by
  intro rows' hrows'
  obtain ⟨rows, hrows⟩ : ∃ rows, s.competedIn = some rows := by
    obtain ⟨s₁, hstored, hadded⟩ := importEvent_eq_ok_iff.mp hevent
    obtain ⟨rows, hrows, -⟩ := addRelation_eq_ok_iff.mp hadded
    exact ⟨rows, (upsertEvent_competedIn hstored).symm.trans hrows⟩
  obtain ⟨hadded, -⟩ := importEvent_competedIn hrows hevent
  obtain rfl : rows ++ [relationRow m competition e n number] = rows' :=
    Option.some.inj (hadded.symm.trans hrows')
  exact (RelationRow.fresh_cons_iff.mp (h rows hrows)).2

/-- Storing an event of an entry needs the tables of events and of relations. -/
theorem importEvent_succeeds_iff
    (hfresh : s.FreshRelations [relationRow m competition e n number]) :
    Succeeds (importEvent m competition e s n number) ↔ s.has .events ∧ s.has .competedIn := by
  unfold importEvent
  refine succeeds_execute_bind_iff_and upsertEvent_succeeds_iff fun s₁ hevent => ?_
  -- Storing the event leaves the relations as they are, so what the second write needs is known.
  rw [succeeds_execute_iff, succeeds_mapError_iff,
    addRelation_succeeds_iff (hfresh.of_eq (upsertEvent_competedIn hevent)),
    (sameTables_importRespected.upsertEvent hevent).has]

/-- Storing the events of an entry needs the tables of events and of relations, if there is one. -/
theorem importEvents_succeeds_iff
    (hfresh : s.FreshRelations
      (numbers.mapIdx fun i number => relationRow m competition e (n + i) number)) :
    Succeeds (importEvents m competition e s n numbers) ↔
      s.has .events ∧ s.has .competedIn ∨ numbers = [] := by
  induction numbers generalizing s n with
  | nil => simp [importEvents, Succeeds]
  | cons number numbers ih =>
    rw [mapIdx_relationRow_cons] at hfresh
    have hfirst : s.FreshRelations [relationRow m competition e n number] := fun rows hrows =>
      (RelationRow.fresh_cons_iff.mp (hfresh rows hrows)).1
    have hchain : Succeeds (importEvents m competition e s n (number :: numbers)) ↔
        (s.has .events ∧ s.has .competedIn) ∧
          (s.has .events ∧ s.has .competedIn ∨ numbers = []) := by
      unfold importEvents
      refine succeeds_bind_iff_and (importEvent_succeeds_iff hfirst) fun s₁ hevent => ?_
      have hsame := sameTables_importRespected.importEvent hevent
      rw [ih (hfresh.tail hevent), hsame.has, hsame.has]
    -- What the other events need is what the first one needs.
    rw [hchain, and_iff_left_of_imp .inl, or_iff_left (List.cons_ne_nil _ _)]

/-- When the relations of an entry's events have been added, those of the other entries are still
new. -/
theorem FreshRelations.rest (hfresh : s.FreshRelations
      ((numbers.mapIdx fun i number => relationRow m competition e (n + i) number) ++ new))
    (hevents : importEvents m competition e s n numbers = .ok s') : s'.FreshRelations new := by
  induction numbers generalizing s n with
  | nil =>
    obtain rfl := Except.ok.inj hevents
    exact hfresh
  | cons number numbers ih =>
    rw [mapIdx_relationRow_cons, List.cons_append] at hfresh
    obtain ⟨s₁, hevent, hrest⟩ := importEvents_cons_eq_ok_iff.mp hevents
    exact ih (hfresh.tail hevent) hrest

/-- Storing entries needs the table of skaters, if there is an entry, and those of events and of
relations, if one has an event. -/
theorem importAll_succeeds_iff
    (hfresh : s.FreshRelations (importedRows m competition n entries)) :
    Succeeds (importAll m competition s n entries) ↔
      (s.has .skaters ∨ entries = []) ∧
        (s.has .events ∧ s.has .competedIn ∨ ∀ e ∈ entries, e.events = []) := by
  induction entries generalizing s n with
  | nil => simp [importAll, Succeeds]
  | cons e entries ih =>
    rw [importedRows_cons] at hfresh
    have hchain : Succeeds (importAll m competition s n (e :: entries)) ↔ s.has .skaters ∧
        (s.has .events ∧ s.has .competedIn ∨ e.events = []) ∧
          (s.has .skaters ∨ entries = []) ∧
            (s.has .events ∧ s.has .competedIn ∨ ∀ e ∈ entries, e.events = []) := by
      unfold importAll
      refine succeeds_execute_bind_iff_and upsertSkater_succeeds_iff fun s₁ hskater => ?_
      have hsame₁ := sameTables_importRespected.upsertSkater hskater
      have hfresh₁ := hfresh.of_eq (upsertSkater_competedIn hskater)
      have hevents : Succeeds (importEvents m competition e s₁ n e.events) ↔
          s.has .events ∧ s.has .competedIn ∨ e.events = [] := by
        rw [← hsame₁.has, ← hsame₁.has]
        apply importEvents_succeeds_iff
        exact fun rows hrows => (RelationRow.fresh_append_iff.mp (hfresh₁ rows hrows)).1
      refine succeeds_bind_iff_and hevents fun s₂ hstored => ?_
      have hsame₂ := hsame₁.trans (sameTables_importRespected.importEvents hstored)
      rw [ih (hfresh₁.rest hstored), hsame₂.has, hsame₂.has, hsame₂.has]
    -- There is an entry, so that the skaters are needed whatever other entries there are.
    rw [hchain, List.forall_mem_cons, or_and_left, or_iff_left (List.cons_ne_nil _ _)]
    constructor
    · rintro ⟨hskaters, hfirst, -, hothers⟩
      exact ⟨hskaters, hfirst, hothers⟩
    · rintro ⟨hskaters, hfirst, hothers⟩
      exact ⟨hskaters, hfirst, .inl hskaters, hothers⟩

/-- The tables are there that importing some entries needs. -/
structure ImportTables (s : Store) (entries : List Entry) : Prop where
  /-- The table of competitions. -/
  competitions : s.has .competitions
  /-- The audit trail. -/
  auditLog : s.has .auditLog
  /-- The table of skaters, unless there is no entry. -/
  skaters : s.has .skaters ∨ entries = []
  /-- The tables of events and of relations, unless no entry has an event. -/
  events : s.has .events ∧ s.has .competedIn ∨ ∀ e ∈ entries, e.events = []

/-- An import succeeds exactly if the tables are there that it needs. -/
theorem importEntries_succeeds_iff
    (hfresh : s.FreshRelations (importedRows m competition 0 entries)) (htakes : s.TakesEvent m) :
    Succeeds (s.importEntries m competition entries) ↔ s.ImportTables entries := by
  have hchain : Succeeds (s.importEntries m competition entries) ↔ s.has .competitions ∧
      ((s.has .skaters ∨ entries = []) ∧
        (s.has .events ∧ s.has .competedIn ∨ ∀ e ∈ entries, e.events = [])) ∧
          s.has .auditLog := by
    unfold importEntries importRun
    rw [succeeds_settled_transaction_iff]
    unfold importStatements
    refine succeeds_execute_bind_iff_and upsertCompetition_succeeds_iff fun s₁ hcompetition => ?_
    have hsame₁ := sameTables_importRespected.upsertCompetition hcompetition
    have hentries : Succeeds (importAll m competition s₁ 0 entries) ↔
        (s.has .skaters ∨ entries = []) ∧
          (s.has .events ∧ s.has .competedIn ∨ ∀ e ∈ entries, e.events = []) := by
      rw [importAll_succeeds_iff (hfresh.of_eq (upsertCompetition_competedIn hcompetition)),
        hsame₁.has, hsame₁.has, hsame₁.has]
    refine succeeds_bind_iff_and hentries fun s₂ hstored => ?_
    -- None of the writes before has been to the audit trail.
    have hsame₂ := hsame₁.trans (sameTables_importRespected.importAll hstored)
    have htakes₂ : s₂.TakesEvent m := fun log hlog => htakes log (hsame₂.auditLog.symm.trans hlog)
    have hid : ((ImportSummary.ofEntries competition entries).event m).eventId = m.auditId 0 := rfl
    rw [succeeds_bind_ok_iff, succeeds_execute_iff, ← hsame₂.has]
    exact insertAudit_succeeds_iff hid htakes₂
  rw [hchain]
  constructor
  · rintro ⟨hcompetitions, ⟨hskaters, hevents⟩, hlog⟩
    exact ⟨hcompetitions, hlog, hskaters, hevents⟩
  · rintro ⟨hcompetitions, hlog, hskaters, hevents⟩
    exact ⟨hcompetitions, ⟨hskaters, hevents⟩, hlog⟩

/-! ## Where an import stops -/

/-- A later store has all competitions of an earlier one. -/
def KeepsCompetitions (s s' : Store) : Prop :=
  ∀ id, (∃ rows, s.competitions = some rows ∧ id ∈ rows.map CompetitionRow.id) →
    ∃ rows, s'.competitions = some rows ∧ id ∈ rows.map CompetitionRow.id

/-- Every single write of an import keeps the competitions. -/
theorem keepsCompetitions_importRespected : ImportRespected KeepsCompetitions where
  refl _ _ h := h
  trans h h' id hid := h' id (h id hid)
  upsertCompetition h := by
    obtain ⟨rows, hrows, rfl⟩ := upsertCompetition_eq_ok_iff.mp h
    rintro id ⟨rows', hrows', hid⟩
    obtain rfl : rows = rows' := Option.some.inj (hrows.symm.trans hrows')
    refine ⟨_, rfl, map_id_subset_upsert ?_ hid⟩
    exact fun _ => rfl
  upsertSkater h := by
    obtain ⟨_, _, rfl⟩ := upsertSkater_eq_ok_iff.mp h
    exact fun _ hid => hid
  upsertEvent h := by
    obtain ⟨_, _, rfl⟩ := upsertEvent_eq_ok_iff.mp h
    exact fun _ hid => hid
  addRelation h := by
    obtain ⟨_, _, _, rfl⟩ := addRelation_eq_ok_iff.mp h
    exact fun _ hid => hid

/-- Where an import stops that has a table for its competition, the competition is stored, and
perhaps much else. Only because it is one transaction does the import leave nothing of this. -/
theorem importRun_of_stop {stop : Stop} (htable : s.has .competitions)
    (hstop : importStatements m competition entries s = .error stop) :
    (∃ rows, stop.store.competitions = some rows ∧
      .text (competitionId competition) ∈ rows.map CompetitionRow.id) ∧
    s.importRun m competition entries = (.error stop.failure, s) := by
  refine ⟨?_, transaction_of_error hstop⟩
  rcases bind_eq_error_iff.mp hstop with hfirst | ⟨s₁, hfirst, hrest⟩
  · obtain ⟨hfails, -⟩ := execute_eq_error_iff.mp hfirst
    exact absurd (upsertCompetition_succeeds_iff.mpr htable) (not_succeeds_iff.mpr ⟨_, hfails⟩)
  · have hstored : ∃ rows, s₁.competitions = some rows ∧
        .text (competitionId competition) ∈ rows.map CompetitionRow.id := by
      obtain ⟨rows, -, rfl⟩ := upsertCompetition_eq_ok_iff.mp (execute_eq_ok_iff.mp hfirst)
      refine ⟨_, rfl, mem_map_id_upsert ?_ rfl⟩
      exact fun _ => rfl
    -- Nothing that follows takes the competition away.
    have hR := keepsCompetitions_importRespected
    rcases bind_eq_error_iff.mp hrest with hall | ⟨s₂, hall, hrest⟩
    · exact hR.importAll_stop hall _ hstored
    · rcases bind_eq_error_iff.mp hrest with htell | ⟨s₃, -, hlast⟩
      · obtain ⟨-, hstore⟩ := execute_eq_error_iff.mp htell
        rw [hstore]
        exact hR.importAll hall _ hstored
      · cases hlast

/-! ## When a contact report is written -/

section Report

variable {family : String} {skaters : List String} {g : FamilyGroup} {groups : List FamilyGroup}
  {u : EmailUpdate} {updates : List EmailUpdate} {report : ContactReport}

/-- Linking skaters to a family needs the table of links, if there is a skater. -/
theorem linkAll_succeeds_iff :
    Succeeds (linkAll m family s n skaters) ↔ s.has .belongsTo ∨ skaters = [] := by
  induction skaters generalizing s n with
  | nil => simp [linkAll, Succeeds]
  | cons skater skaters ih =>
    have hchain : Succeeds (linkAll m family s n (skater :: skaters)) ↔
        s.has .belongsTo ∧ (s.has .belongsTo ∨ skaters = []) := by
      unfold linkAll
      refine succeeds_execute_bind_iff_and linkFamily_succeeds_iff fun p hlink => ?_
      show Succeeds (linkAll m family p.1 p.2 skaters) ↔ _
      rw [ih, (sameTables_respected.linkFamily hlink).has]
    rw [hchain, and_iff_left_of_imp .inl, or_iff_left (List.cons_ne_nil _ _)]

/-- Storing the family of siblings needs the table of families, and that of links if there is a
sibling. -/
theorem writeGroup_succeeds_iff : Succeeds (writeGroup m g s n) ↔
    s.has .families ∧ (s.has .belongsTo ∨ g.skaterIds = []) := by
  unfold writeGroup
  refine succeeds_execute_bind_iff_and upsertFamily_succeeds_iff fun s₁ hfamily => ?_
  rw [linkAll_succeeds_iff, ((sameTables_respected (m := m)).upsertFamily hfamily).has]

/-- Storing families of siblings needs the table of families, if there is one, and that of links, if
one of them has a sibling. -/
theorem writeGroups_succeeds_iff : Succeeds (writeGroups m s n groups) ↔
    (s.has .families ∨ groups = []) ∧
      (s.has .belongsTo ∨ ∀ g ∈ groups, g.skaterIds = []) := by
  induction groups generalizing s n with
  | nil => simp [writeGroups, Succeeds]
  | cons g groups ih =>
    have hchain : Succeeds (writeGroups m s n (g :: groups)) ↔
        (s.has .families ∧ (s.has .belongsTo ∨ g.skaterIds = [])) ∧
          (s.has .families ∨ groups = []) ∧
            (s.has .belongsTo ∨ ∀ g ∈ groups, g.skaterIds = []) := by
      unfold writeGroups
      refine succeeds_bind_iff_and writeGroup_succeeds_iff fun p hgroup => ?_
      show Succeeds (writeGroups m p.1 p.2 groups) ↔ _
      have hsame := sameTables_respected.writeGroup hgroup
      rw [ih, hsame.has, hsame.has]
    rw [hchain, List.forall_mem_cons, or_and_left, or_iff_left (List.cons_ne_nil _ _)]
    constructor
    · rintro ⟨⟨hfamilies, hfirst⟩, -, hothers⟩
      exact ⟨hfamilies, hfirst, hothers⟩
    · rintro ⟨hfamilies, hfirst, hothers⟩
      exact ⟨⟨hfamilies, hfirst⟩, .inl hfamilies, hothers⟩

/-- Writing an address needs the tables of families, of links and of skaters, whether the skater has
a family or not. -/
theorem writeEmail_succeeds_iff (hlinks : s.LinksLead) : Succeeds (writeEmail m u s n) ↔
    s.has .families ∧ s.has .belongsTo ∧ s.has .skaters := by
  have hchain : Succeeds (writeEmail m u s n) ↔
      s.has .belongsTo ∧ s.has .families ∧ s.has .skaters := by
    -- With a home or without, the skater's own address comes last.
    have hlast {s₁ : Store} (hsame : s.SameTables s₁) (n₁ : ℕ) :
        Succeeds (do .ok (← s₁.execute (fillSkaterEmail u.skaterId u.email), n₁) :
          Except Stop (Store × ℕ)) ↔ s.has .skaters := by
      rw [succeeds_bind_ok_iff, succeeds_execute_iff, fillSkaterEmail_succeeds_iff, hsame.has]
    unfold writeEmail
    refine succeeds_execute_bind_iff_and (firstFamily?_succeeds_iff hlinks) fun home hhome => ?_
    cases home with
    | some family =>
      refine succeeds_execute_bind_iff_and setFamilyEmail_succeeds_iff fun s₁ hset => ?_
      exact hlast ((sameTables_respected (m := m)).setFamilyEmail hset) n
    | none =>
      refine succeeds_execute_bind_iff_and upsertFamily_succeeds_iff fun s₁ hnew => ?_
      have hsame₁ := (sameTables_respected (m := m)).upsertFamily hnew
      -- There is a table of links, as the skater has been looked up in it.
      have hbelongs : s₁.has .belongsTo := by
        rw [hsame₁.has]
        exact (firstFamily?_succeeds_iff hlinks).mp ⟨_, hhome⟩
      refine (succeeds_execute_bind_iff_and linkFamily_succeeds_iff fun p hlink => ?_).trans
        (and_iff_right hbelongs)
      exact hlast (hsame₁.trans (sameTables_respected.linkFamily hlink)) p.2
  rw [hchain, and_left_comm]

/-- Writing addresses needs the tables of families, of links and of skaters, if there is one. -/
theorem writeEmails_succeeds_iff (hlinks : s.LinksLead) : Succeeds (writeEmails m s n updates) ↔
    s.has .families ∧ s.has .belongsTo ∧ s.has .skaters ∨ updates = [] := by
  induction updates generalizing s n with
  | nil => simp [writeEmails, Succeeds]
  | cons u updates ih =>
    have hchain : Succeeds (writeEmails m s n (u :: updates)) ↔
        (s.has .families ∧ s.has .belongsTo ∧ s.has .skaters) ∧
          (s.has .families ∧ s.has .belongsTo ∧ s.has .skaters ∨ updates = []) := by
      unfold writeEmails
      refine succeeds_bind_iff_and (writeEmail_succeeds_iff hlinks) fun p hemail => ?_
      show Succeeds (writeEmails m p.1 p.2 updates) ↔ _
      have hsame := sameTables_respected.writeEmail hemail
      rw [ih (linksLead_respected.writeEmail hemail hlinks), hsame.has, hsame.has, hsame.has]
    rw [hchain, and_iff_left_of_imp .inl, or_iff_left (List.cons_ne_nil _ _)]

/-- There are first updates if there are updates. -/
theorem firsts_eq_nil_iff : EmailUpdate.firsts [] updates = [] ↔ updates = [] := by
  cases updates <;> simp [EmailUpdate.firsts]

/-- The tables are there that writing a contact report needs. -/
structure ReportTables (s : Store) (report : ContactReport) : Prop where
  /-- The audit trail. -/
  auditLog : s.has .auditLog
  /-- The table of families, unless there is neither a family of siblings nor an address. -/
  families : s.has .families ∨ report.familyGroups = [] ∧ report.emailUpdates = []
  /-- The table of links, unless there is no address and no family has a sibling. -/
  belongsTo : s.has .belongsTo ∨
    report.emailUpdates = [] ∧ ∀ g ∈ report.familyGroups, g.skaterIds = []
  /-- The table of skaters, unless there is no address. -/
  skaters : s.has .skaters ∨ report.emailUpdates = []

/-- A contact report is written exactly if the tables are there that it needs. -/
theorem applyContacts_succeeds_iff (hlinks : s.LinksLead) (htakes : s.TakesEvent m) :
    Succeeds (s.applyContacts m report) ↔ s.ReportTables report := by
  have hchain : Succeeds (s.applyContacts m report) ↔
      ((s.has .families ∨ report.familyGroups = []) ∧
        (s.has .belongsTo ∨ ∀ g ∈ report.familyGroups, g.skaterIds = [])) ∧
      (s.has .families ∧ s.has .belongsTo ∧ s.has .skaters ∨ report.emailUpdates = []) ∧
      s.has .auditLog := by
    unfold applyContacts contactsRun
    rw [succeeds_settled_transaction_iff]
    unfold contactsStatements
    refine succeeds_bind_iff_and writeGroups_succeeds_iff fun p hgroups => ?_
    have hsame₁ := sameTables_respected.writeGroups hgroups
    have hemails : Succeeds (writeEmails m p.1 p.2 (EmailUpdate.firsts [] report.emailUpdates)) ↔
        s.has .families ∧ s.has .belongsTo ∧ s.has .skaters ∨ report.emailUpdates = [] := by
      rw [writeEmails_succeeds_iff (linksLead_respected.writeGroups hgroups hlinks), hsame₁.has,
        hsame₁.has, hsame₁.has, firsts_eq_nil_iff]
    refine succeeds_bind_iff_and hemails fun q hupdates => ?_
    -- None of the writes before has been to the audit trail.
    have hsame₂ := hsame₁.trans (sameTables_respected.writeEmails hupdates)
    have htakes₂ : q.1.TakesEvent m := fun log hlog => htakes log (hsame₂.auditLog.symm.trans hlog)
    have hid : (contactsEvent m report).eventId = m.auditId 0 := rfl
    rw [← hsame₂.has, ← insertAudit_succeeds_iff hid htakes₂, ← succeeds_execute_iff]
    exact succeeds_bind_ok_iff
  rw [hchain]
  constructor
  · rintro ⟨⟨hfamilies, hsiblings⟩, htables | hnone, hlog⟩
    · exact ⟨hlog, .inl htables.1, .inl htables.2.1, .inl htables.2.2⟩
    · exact ⟨hlog, hfamilies.imp id fun hgroups => ⟨hgroups, hnone⟩,
        hsiblings.imp id fun hall => ⟨hnone, hall⟩, .inr hnone⟩
  · rintro ⟨hlog, hfamilies, hbelongs, hskaters⟩
    refine ⟨⟨hfamilies.imp id And.left, hbelongs.imp id And.right⟩, ?_, hlog⟩
    by_cases hnone : report.emailUpdates = []
    · exact .inr hnone
    · exact .inl ⟨hfamilies.resolve_right fun h => hnone h.2,
        hbelongs.resolve_right fun h => hnone h.1, hskaters.resolve_right hnone⟩

end Report

end SkaterLedger.Store

namespace SkaterLedger.Usage

open Store

variable {u : Usage} {allowed : Usage → Action → Prop}

/-! ## Whole or not at all -/

/-- Whatever a store has been through, its links lead to ids of families. -/
theorem Reachable.linksLead (hu : Reachable allowed u) : u.store.LinksLead := by
  refine hu.store_induction ?_ fun s s' a ih h => ?_
  · intro rows hrows r hr
    obtain rfl := Option.some.inj hrows
    cases hr
  · cases a with
    | importEntries m competition entries =>
      obtain ⟨⟨summary, s₁⟩, himport, rfl⟩ := map_eq_ok_iff.mp h
      obtain ⟨s₂, hsame, -, haudit⟩ := sameHouseholds_importRespected.importEntries himport
      obtain ⟨log, -, -, rfl⟩ := insertAudit_eq_ok_iff.mp haudit
      exact fun rows hrows => ih rows (hsame.belongsTo.symm.trans hrows)
    | cleanup m items =>
      obtain ⟨⟨told, s₁⟩, hcleanup, rfl⟩ := map_eq_ok_iff.mp h
      have hbelongs := congrArg Store.belongsTo (cleanup_others hcleanup)
      exact fun rows hrows => ih rows (hbelongs.symm.trans hrows)
    | applyContacts m report =>
      obtain ⟨⟨summary, s₁⟩, hcontacts, rfl⟩ := map_eq_ok_iff.mp h
      obtain ⟨s₁, n₁, s₂, n₂, hgroups, hemails, haudit, -⟩ := applyContacts_eq_ok_iff.mp hcontacts
      obtain ⟨log, -, -, rfl⟩ := insertAudit_eq_ok_iff.mp haudit
      have hwritten : s₂.LinksLead :=
        linksLead_respected.writeEmails hemails (linksLead_respected.writeGroups hgroups ih)
      exact hwritten

/-- Take a store that may lack tables, and a moment whose ids are new to it. An import succeeds
exactly if the tables are there that it needs, and so does a contact report, as long as links lead
to ids of families, which those of every store do that the program has used (`Reachable.linksLead`),
whatever tables it has lost (`Store.LinksLead.without`). If an import or a report fails, it is rolled
back: the store is what it was, with all its tables and the last number of its audit trail. -/
theorem whole_or_untouched (u : Usage) (m : Moment) (competition : String) (entries : List Entry)
    (report : ContactReport) :
    (u.store.FreshRelations (importedRows m competition 0 entries) → u.store.TakesEvent m →
      (Succeeds (u.store.importEntries m competition entries) ↔ u.store.ImportTables entries)) ∧
    (u.store.LinksLead → u.store.TakesEvent m →
      (Succeeds (u.store.applyContacts m report) ↔ u.store.ReportTables report)) ∧
    ∀ a ∈ [Action.importEntries m competition entries, .applyContacts m report],
      ¬ Succeeds (a.perform u.store) → u.step a = u := by
  refine ⟨importEntries_succeeds_iff, applyContacts_succeeds_iff, ?_⟩
  intro a _ hfails
  obtain ⟨failure, h⟩ := not_succeeds_iff.mp hfails
  exact step_of_error h

/-- Without the table of events, an import fails that has stored a second competition and a second
skater before it comes to an event, and leaves nothing of them; a contact report succeeds. -/
theorem whole_or_untouched_without_events :
    let e : Entry := ⟨"Kei", "Ito", [3], none, .sent, none, none, [], none⟩
    let m (k : ℕ) : Moment := ⟨⟨k, 0⟩, fun n => .ofNat (10 * k + n), fun n => .ofNat (10 * k + n),
      fun n => .ofNat (10 * k + n), fun n => ⟨k, n + 1⟩⟩
    let report : ContactReport := ⟨[], [], [⟨"skater:ito_kei", "Ito", "Kei", "kei@example.org"⟩],
      [⟨"Ito", ["Kei"], none, ["skater:ito_kei"]⟩]⟩
    let used := (fresh.step (.importEntries (m 1) "Pony" [e])).step (.applyContacts (m 2) report)
    let u : Usage := { used with store := used.store.without .events }
    let entries := [{ e with firstName := "Aki", events := [] }, { e with events := [4] }]
    ¬ Succeeds (u.store.importEntries (m 3) "Show" entries) ∧
      (∃ stop, u.store.importStatements (m 3) "Show" entries = .error stop ∧
        (u.store.competitions.map List.length, u.store.skaters.map List.length) =
          (some 1, some 1) ∧
        (stop.store.competitions.map List.length, stop.store.skaters.map List.length) =
          (some 2, some 2)) ∧
      u.step (.importEntries (m 3) "Show" entries) = u ∧
      Succeeds (u.store.applyContacts (m 3) report) := by
  intro e m report used u entries
  have hused : Reachable (fun _ _ => True) used := .step (.step .fresh trivial) trivial
  have hlinks : u.store.LinksLead := hused.linksLead.without .events
  have hfresh : u.store.FreshRelations (importedRows (m 3) "Show" 0 entries) := by
    intro rows hrows
    dsimp only [u, used, entries, report, m, e] at hrows ⊢
    obtain rfl := Option.some.inj hrows
    exact ⟨by decide, by decide⟩
  have htakes : u.store.TakesEvent (m 3) := by
    intro log hlog
    dsimp only [u, used, report, m, e] at hlog ⊢
    obtain rfl := Option.some.inj hlog
    exact ⟨by decide, by decide⟩
  have htables (table : Table) : u.store.has table = (table != .events && true) := by
    rw [← hused.has table]
    exact has_without used.store .events table
  obtain ⟨himport, hreport, huntouched⟩ := whole_or_untouched u (m 3) "Show" entries report
  have hfails : ¬ Succeeds (u.store.importEntries (m 3) "Show" entries) := by
    intro hsucceeds
    obtain ⟨-, -, -, ⟨hevents, -⟩ | hnone⟩ := (himport hfresh htakes).mp hsucceeds
    · rw [htables] at hevents
      cases hevents
    · have hnone := hnone { e with events := [4] } (by simp [entries])
      cases hnone
  have hperform : (Action.importEntries (m 3) "Show" entries).perform u.store =
      (u.store.importEntries (m 3) "Show" entries).map Prod.snd := rfl
  have hbefore : (u.store.competitions.map List.length, u.store.skaters.map List.length) =
      (some 1, some 1) := by
    dsimp only [u, used, report, m, e]
    decide +kernel
  have hstopped : (match u.store.importStatements (m 3) "Show" entries with
      | .error stop => (stop.store.competitions.map List.length, stop.store.skaters.map List.length)
      | .ok _ => (none, none)) = (some 2, some 2) := by
    dsimp only [u, used, entries, report, m, e]
    decide +kernel
  obtain ⟨stop, hstop⟩ : ∃ stop, u.store.importStatements (m 3) "Show" entries = .error stop :=
    not_succeeds_iff.mp fun h => hfails (succeeds_settled_transaction_iff.mpr h)
  rw [hstop] at hstopped
  refine ⟨hfails, ⟨stop, hstop, hbefore, hstopped⟩, huntouched _ List.mem_cons_self ?_,
    (hreport hlinks htakes).mpr
    ⟨htables .auditLog, .inl (htables .families), .inl (htables .belongsTo),
      .inl (htables .skaters)⟩⟩
  rw [hperform, succeeds_map_iff]
  exact hfails

end SkaterLedger.Usage
