import SkaterLedger.Proofs.Store.Imported
import SkaterLedger.Proofs.Store.Usage

/-!
# The tables of a store

No action makes a table or takes one away (`Store.perform_has`), and of its writes only the last one
is to the audit trail. An import is a series of four kinds of writes, as a contact report is:
`ImportRespected` says of a relation between stores that all four respect it; then the whole import
does, up to the audit trail, and so does what it has written where it stops. What has all tables has
contents, and goes on to have them.
-/

namespace SkaterLedger.Store

variable {s s' s'' : Store} {m : Moment} {competition : String} {e : Entry} {entries : List Entry}
  {number n n' : ℕ} {numbers : List ℕ}

/-! ## What single writes of an import respect, the whole import does -/

/-- A relation between earlier and later stores that every single write of an import respects. -/
structure ImportRespected (R : Store → Store → Prop) : Prop where
  /-- Doing nothing respects it. -/
  refl : ∀ s, R s s
  /-- What two steps respect, both together do. -/
  trans : ∀ {s s' s''}, R s s' → R s' s'' → R s s''
  /-- Storing a competition respects it. -/
  upsertCompetition : ∀ {s s' m name}, s.upsertCompetition m name = .ok s' → R s s'
  /-- Storing a skater respects it. -/
  upsertSkater : ∀ {s s' m e}, s.upsertSkater m e = .ok s' → R s s'
  /-- Storing an event respects it. -/
  upsertEvent : ∀ {s s' m competition number},
    s.upsertEvent m competition number = .ok s' → R s s'
  /-- Adding a relation respects it. -/
  addRelation : ∀ {s s' r}, s.addRelation r = .ok s' → R s s'

namespace ImportRespected

variable {R : Store → Store → Prop}

/-- So does storing an event of an entry. -/
theorem importEvent (hR : ImportRespected R) (h : importEvent m competition e s n number = .ok s') :
    R s s' := by
  obtain ⟨s₁, hevent, hrelation⟩ := importEvent_eq_ok_iff.mp h
  exact hR.trans (hR.upsertEvent hevent) (hR.addRelation hrelation)

/-- So does storing the events of an entry. -/
theorem importEvents (hR : ImportRespected R)
    (h : importEvents m competition e s n numbers = .ok s') : R s s' := by
  induction numbers generalizing s n with
  | nil =>
    obtain rfl := Except.ok.inj h
    exact hR.refl s
  | cons number numbers ih =>
    obtain ⟨s₁, hevent, hrest⟩ := importEvents_cons_eq_ok_iff.mp h
    exact hR.trans (hR.importEvent hevent) (ih hrest)

/-- So does storing entries. -/
theorem importAll (hR : ImportRespected R) (h : importAll m competition s n entries = .ok s') :
    R s s' := by
  induction entries generalizing s n with
  | nil =>
    obtain rfl := Except.ok.inj h
    exact hR.refl s
  | cons e entries ih =>
    obtain ⟨s₁, s₂, hskater, hevents, hrest⟩ := importAll_cons_eq_ok_iff.mp h
    exact hR.trans (hR.upsertSkater hskater) (hR.trans (hR.importEvents hevents) (ih hrest))

/-- An import respects it up to the point where the audit trail is told of it. -/
theorem importEntries (hR : ImportRespected R) {summary : ImportSummary}
    (h : s.importEntries m competition entries = .ok (summary, s')) :
    ∃ s₁, R s s₁ ∧ summary = .ofEntries competition entries ∧
      s₁.insertAudit (summary.event m) = .ok s' := by
  obtain ⟨s₁, s₂, hcompetition, hall, haudit, rfl⟩ := importEntries_eq_ok_iff.mp h
  exact ⟨s₂, hR.trans (hR.upsertCompetition hcompetition) (hR.importAll hall), rfl, haudit⟩

section Stopped

variable {stop : Stop}

/-- What has been written where storing an event of an entry stops respects it. -/
theorem importEvent_stop (hR : ImportRespected R)
    (h : Store.importEvent m competition e s n number = .error stop) : R s stop.store := by
  rcases bind_eq_error_iff.mp h with h | ⟨s₁, hevent, h⟩
  · obtain ⟨-, hstore⟩ := execute_eq_error_iff.mp h
    rw [hstore]
    exact hR.refl s
  · obtain ⟨-, hstore⟩ := execute_eq_error_iff.mp h
    rw [hstore]
    exact hR.upsertEvent (execute_eq_ok_iff.mp hevent)

/-- What has been written where storing the events of an entry stops respects it. -/
theorem importEvents_stop (hR : ImportRespected R)
    (h : Store.importEvents m competition e s n numbers = .error stop) : R s stop.store := by
  induction numbers generalizing s n with
  | nil => cases h
  | cons number numbers ih =>
    rcases bind_eq_error_iff.mp h with h | ⟨s₁, hevent, h⟩
    · exact hR.importEvent_stop h
    · exact hR.trans (hR.importEvent hevent) (ih h)

/-- What has been written where storing entries stops respects it. -/
theorem importAll_stop (hR : ImportRespected R)
    (h : Store.importAll m competition s n entries = .error stop) : R s stop.store := by
  induction entries generalizing s n with
  | nil => cases h
  | cons e entries ih =>
    rcases bind_eq_error_iff.mp h with h | ⟨s₁, hskater, h⟩
    · obtain ⟨-, hstore⟩ := execute_eq_error_iff.mp h
      rw [hstore]
      exact hR.refl s
    · have hstored := hR.upsertSkater (execute_eq_ok_iff.mp hskater)
      rcases bind_eq_error_iff.mp h with h | ⟨s₂, hevents, h⟩
      · exact hR.trans hstored (hR.importEvents_stop h)
      · exact hR.trans hstored (hR.trans (hR.importEvents hevents) (ih h))

end Stopped

end ImportRespected

/-! ## No write makes a table or takes one away -/

/-- Two stores have the same tables, and the same audit trail. -/
structure SameTables (s s' : Store) : Prop where
  /-- A table exists in both or in neither. -/
  has : ∀ table, s'.has table = s.has table
  /-- The audit trail is the same. -/
  auditLog : s'.auditLog = s.auditLog

/-- A store has its own tables. -/
theorem SameTables.refl (s : Store) : s.SameTables s := ⟨fun _ => rfl, rfl⟩

/-- What two steps leave of the tables, both together do. -/
theorem SameTables.trans (h : s.SameTables s') (h' : s'.SameTables s'') : s.SameTables s'' :=
  ⟨fun table => (h'.has table).trans (h.has table), h'.auditLog.trans h.auditLog⟩

/-- Every single write of an import keeps the tables. -/
theorem sameTables_importRespected : ImportRespected SameTables where
  refl := SameTables.refl
  trans := SameTables.trans
  upsertCompetition h := by
    obtain ⟨rows, hrows, rfl⟩ := upsertCompetition_eq_ok_iff.mp h
    exact ⟨fun table => by cases table <;> simp [has, hrows], rfl⟩
  upsertSkater h := by
    obtain ⟨rows, hrows, rfl⟩ := upsertSkater_eq_ok_iff.mp h
    exact ⟨fun table => by cases table <;> simp [has, hrows], rfl⟩
  upsertEvent h := by
    obtain ⟨rows, hrows, rfl⟩ := upsertEvent_eq_ok_iff.mp h
    exact ⟨fun table => by cases table <;> simp [has, hrows], rfl⟩
  addRelation h := by
    obtain ⟨rows, hrows, -, rfl⟩ := addRelation_eq_ok_iff.mp h
    exact ⟨fun table => by cases table <;> simp [has, hrows], rfl⟩

/-- Every single write of a contact report keeps the tables. -/
theorem sameTables_respected : Respected m SameTables where
  refl := SameTables.refl
  trans := SameTables.trans
  upsertFamily h := by
    obtain ⟨rows, hrows, rfl⟩ := upsertFamily_eq_ok_iff.mp h
    exact ⟨fun table => by cases table <;> simp [has, hrows], rfl⟩
  linkFamily h := by
    obtain ⟨rows, hrows, ⟨-, rfl, -⟩ | ⟨-, rfl, -⟩⟩ := linkFamily_cases h
    · exact SameTables.refl _
    · exact ⟨fun table => by cases table <;> simp [has, hrows], rfl⟩
  setFamilyEmail h := by
    obtain ⟨rows, hrows, rfl⟩ := setFamilyEmail_eq_ok_iff.mp h
    exact ⟨fun table => by cases table <;> simp [has, hrows], rfl⟩
  fillSkaterEmail h := by
    obtain ⟨rows, hrows, rfl⟩ := fillSkaterEmail_eq_ok_iff.mp h
    exact ⟨fun table => by cases table <;> simp [has, hrows], rfl⟩

/-- Adding to the audit trail keeps the tables. -/
theorem insertAudit_has {event : AuditEvent} (h : s.insertAudit event = .ok s') (table : Table) :
    s'.has table = s.has table := by
  obtain ⟨log, hlog, -, rfl⟩ := insertAudit_eq_ok_iff.mp h
  cases table <;> simp [has, hlog]

/-- A cleanup keeps the tables. -/
theorem cleanup_has {items : List PlanItem} {told : CleanupReport}
    (h : s.cleanup m items = .ok (told, s')) (table : Table) : s'.has table = s.has table := by
  obtain ⟨_, _, _, rfl, -, -, -, rfl⟩ := cleanup_eq_ok_iff.mp h
  -- An item that is carried out writes to two tables that are there, and any other to none.
  have hadvance (p : CleanupProgress) (item : PlanItem) :
      (advance m p item).store.has table = p.store.has table := by
    rcases advance_cases m p item with
      ⟨rows, log, hrows, hlog, -, -, hp⟩ | ⟨failure, drawn, hp⟩
    · rw [hp]
      cases table <;> simp [has, afterDeletions, hrows, hlog]
    · rw [hp]
  exact List.foldlRecOn items (advance m) rfl
    (motive := fun p : CleanupProgress => p.store.has table = s.has table)
    fun p hp item _ => (hadvance p item).trans hp

/-- An import tells the audit trail that the store had. -/
theorem importEntries_trail {summary : ImportSummary}
    (h : s.importEntries m competition entries = .ok (summary, s')) :
    ∃ log, s.auditLog = some log ∧ s'.auditLog =
      some (log.extend ((ImportSummary.ofEntries competition entries).event m)) := by
  obtain ⟨s₁, hsame, rfl, haudit⟩ := sameTables_importRespected.importEntries h
  obtain ⟨log, hlog, -, rfl⟩ := insertAudit_eq_ok_iff.mp haudit
  exact ⟨log, hsame.auditLog.symm.trans hlog, rfl⟩

/-- A contact report tells the audit trail that the store had. -/
theorem applyContacts_trail {report : ContactReport} {summary : ContactSummary}
    (h : s.applyContacts m report = .ok (summary, s')) :
    ∃ log, s.auditLog = some log ∧ s'.auditLog = some (log.extend (contactsEvent m report)) := by
  obtain ⟨s₁, n₁, s₂, n₂, hgroups, hemails, haudit, -⟩ := applyContacts_eq_ok_iff.mp h
  obtain ⟨log, hlog, -, rfl⟩ := insertAudit_eq_ok_iff.mp haudit
  -- The writes before were to other tables.
  have hsame := (sameTables_respected.writeGroups hgroups).trans
    (sameTables_respected.writeEmails hemails)
  exact ⟨log, hsame.auditLog.symm.trans hlog, rfl⟩

/-- No action makes a table or takes one away. -/
theorem perform_has {a : Action} (h : a.perform s = .ok s') (table : Table) :
    s'.has table = s.has table := by
  cases a with
  | importEntries m competition entries =>
    obtain ⟨⟨summary, s₁⟩, himport, rfl⟩ := map_eq_ok_iff.mp h
    obtain ⟨s₂, hsame, -, haudit⟩ := sameTables_importRespected.importEntries himport
    rw [insertAudit_has haudit, hsame.has]
  | cleanup m items =>
    obtain ⟨⟨told, s₁⟩, hcleanup, rfl⟩ := map_eq_ok_iff.mp h
    exact cleanup_has hcleanup table
  | applyContacts m report =>
    obtain ⟨⟨summary, s₁⟩, hcontacts, rfl⟩ := map_eq_ok_iff.mp h
    obtain ⟨s₁, n₁, s₂, n₂, hgroups, hemails, haudit, -⟩ := applyContacts_eq_ok_iff.mp hcontacts
    rw [insertAudit_has haudit, (sameTables_respected.writeEmails hemails).has,
      (sameTables_respected.writeGroups hgroups).has]

/-- A store that has all tables holds something in each of them. -/
theorem exists_contents (h : ∀ table, s.has table) : ∃ c : Contents, c.toStore = s := by
  obtain ⟨competitions, hcompetitions⟩ := Option.isSome_iff_exists.mp (h .competitions)
  obtain ⟨events, hevents⟩ := Option.isSome_iff_exists.mp (h .events)
  obtain ⟨skaters, hskaters⟩ := Option.isSome_iff_exists.mp (h .skaters)
  obtain ⟨families, hfamilies⟩ := Option.isSome_iff_exists.mp (h .families)
  obtain ⟨relations, hrelations⟩ := Option.isSome_iff_exists.mp (h .competedIn)
  obtain ⟨links, hlinks⟩ := Option.isSome_iff_exists.mp (h .belongsTo)
  obtain ⟨log, hlog⟩ := Option.isSome_iff_exists.mp (h .auditLog)
  refine ⟨⟨competitions, events, skaters, families, relations, links, log⟩, ?_⟩
  unfold Contents.toStore
  simp only [← hcompetitions, ← hevents, ← hskaters, ← hfamilies, ← hrelations, ← hlinks, ← hlog]

/-- An action leaves something in each table if there was something. -/
theorem exists_contents_of_perform {c : Contents} {a : Action} (h : a.perform c.toStore = .ok s) :
    ∃ c' : Contents, c'.toStore = s :=
  exists_contents fun table => (perform_has h table).trans (by cases table <;> rfl)

end SkaterLedger.Store

namespace SkaterLedger.Usage

/-- Whatever a store has been through, it has all its tables. -/
theorem Reachable.has {u : Usage} {allowed : Usage → Action → Prop} (hu : Reachable allowed u)
    (table : Table) : u.store.has table := by
  refine hu.store_induction (P := fun s => s.has table) (by cases table <;> rfl)
    fun s s' a ih h => ?_
  rw [Store.perform_has h]
  exact ih

end SkaterLedger.Usage
