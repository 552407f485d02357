import SkaterLedger.Proofs.Store.Identity
import SkaterLedger.Proofs.Store.Tables

/-!
# What columns hold

Whatever is written into a store is written cell by cell: texts into text columns, the numbers of
events and of rows into integer columns, amounts into number columns. So a property of columns and
cells that holds of each of these (`Writable`) holds of every cell of a store, whatever the store has
been through (`Usage.Reachable.each`).
-/

namespace SkaterLedger

/-- A table exists, and every cell of its rows has a property of its column. -/
def Shape.Each {ρ : Type} (shape : Shape ρ) (Q : Column → Cell → Prop) (table : Option (List ρ)) :
    Prop :=
  ∃ rows, table = some rows ∧ ∀ r ∈ rows, List.Forall₂ Q shape.columns (shape.cells r)

/-- The tables of a store exist, every cell of their rows has a property of its column, and the audit
trail counts its rows. -/
structure Store.Each (Q : Column → Cell → Prop) (s : Store) : Prop where
  /-- Of competitions. -/
  competitions : Shape.competitions.Each Q s.competitions
  /-- Of events. -/
  events : Shape.events.Each Q s.events
  /-- Of skaters. -/
  skaters : Shape.skaters.Each Q s.skaters
  /-- Of families. -/
  families : Shape.families.Each Q s.families
  /-- Of relations. -/
  competedIn : Shape.competedIn.Each Q s.competedIn
  /-- Of links. -/
  belongsTo : Shape.belongsTo.Each Q s.belongsTo
  /-- Of the audit trail. -/
  auditLog : Shape.auditLog.Each Q (s.auditLog.map (·.rows))
  /-- The last number of the audit trail is the number of its rows. -/
  lastId : ∀ log, s.auditLog = some log → log.lastId = log.rows.length

/-- Whatever is written into a column has a property, if the entries that are imported are of some
kind. -/
structure Writable (Q : Column → Cell → Prop) (P : Entry → Prop) : Prop where
  /-- No value has it. -/
  null : ∀ column, Q column .null
  /-- Texts have it in text columns. -/
  text : ∀ column s, column.affinity = .text → Q column (.text s)
  /-- The numbers of rows have it, up to the largest one. -/
  rowNumber : ∀ n : ℕ, (n : ℤ) ≤ AuditLog.maxId → Q (.integer "id") (.integer n)
  /-- The events of an entry have it. -/
  eventNumber : ∀ e, P e → ∀ n ∈ e.events,
    Q ⟨"event_number", .integer, true, .null⟩ (.integer (n : ℕ))
  /-- The amounts of an entry have it in number columns. -/
  amount : ∀ e, P e → ∀ x, e.grossAmount = some x ∨ e.netAmount = some x →
    ∀ column, column.affinity = .real → Q column (.real x.withoutNegativeZero)

variable {Q : Column → Cell → Prop} {P : Entry → Prop}

/-! ## Rows -/

namespace Writable

/-- A text that may be missing has the property. -/
theorem ofText? (hQ : Writable Q P) {column : Column} (hcolumn : column.affinity = .text)
    (s : Option String) : Q column (.ofText? s) := by
  cases s with
  | none => exact hQ.null column
  | some s => exact hQ.text column s hcolumn

/-- An amount of an entry that may be missing has the property. -/
theorem ofReal? (hQ : Writable Q P) {e : Entry} (he : P e) {column : Column}
    (hcolumn : column.affinity = .real) {amount : Option Binary64}
    (hamount : ∀ x, amount = some x → e.grossAmount = some x ∨ e.netAmount = some x) :
    Q column (.ofReal? amount) := by
  cases amount with
  | none => exact hQ.null column
  | some x => exact hQ.amount e he x (hamount x rfl) column hcolumn

end Writable

namespace Shape.Each

variable {ρ κ : Type} {shape : Shape ρ} {table : Option (List ρ)} {rows : List ρ} {new : ρ}
  {update : ρ → ρ}

/-- The cells of a table's rows have the property. -/
theorem cells (h : shape.Each Q table) (htable : table = some rows) :
    ∀ r ∈ rows, List.Forall₂ Q shape.columns (shape.cells r) := by
  obtain ⟨rows', rfl, hrows⟩ := h
  exact Option.some.inj htable ▸ hrows

/-- They have it after an upsert if those of the new row do, and those of a row do once it is brought
up to date. -/
theorem upsert [BEq κ] [LawfulBEq κ] {id : ρ → κ} {k : κ} (h : shape.Each Q table)
    (htable : table = some rows)
    (hupdate : ∀ r, List.Forall₂ Q shape.columns (shape.cells r) →
      List.Forall₂ Q shape.columns (shape.cells (update r)))
    (hnew : List.Forall₂ Q shape.columns (shape.cells new)) :
    shape.Each Q (some (SkaterLedger.upsert (id · == k) update new rows)) :=
  ⟨_, rfl, forall_mem_upsert (h.cells htable) (fun r hr _ => hupdate r (h.cells htable r hr)) hnew⟩

/-- They have it with one more row if those of that row do. -/
theorem append (h : shape.Each Q table) (htable : table = some rows)
    (hnew : List.Forall₂ Q shape.columns (shape.cells new)) :
    shape.Each Q (some (rows ++ [new])) :=
  ⟨_, rfl, List.forall_mem_append.mpr ⟨h.cells htable, by simpa using hnew⟩⟩

/-- They have it with fewer rows. -/
theorem filter (h : shape.Each Q table) (htable : table = some rows) (keep : ρ → Bool) :
    shape.Each Q (some (rows.filter keep)) :=
  ⟨_, rfl, fun r hr => h.cells htable r (List.mem_of_mem_filter hr)⟩

/-- They have it after all rows were brought up to date if those of a row do then. -/
theorem map (h : shape.Each Q table) (htable : table = some rows)
    (hupdate : ∀ r, List.Forall₂ Q shape.columns (shape.cells r) →
      List.Forall₂ Q shape.columns (shape.cells (update r))) :
    shape.Each Q (some (rows.map update)) :=
  ⟨_, rfl, List.forall_mem_map.mpr fun r hr => hupdate r (h.cells htable r hr)⟩

end Shape.Each

/-! ## Writes -/

namespace Store.Each

variable {s s' : Store} {m : Moment} {competition : String} {e : Entry} {entries : List Entry}
  {n number : ℕ}

/-- The cells of a new store have the property, as there are none. -/
theorem fresh (Q : Column → Cell → Prop) : Store.fresh.Each Q where
  competitions := ⟨[], rfl, by simp⟩
  events := ⟨[], rfl, by simp⟩
  skaters := ⟨[], rfl, by simp⟩
  families := ⟨[], rfl, by simp⟩
  competedIn := ⟨[], rfl, by simp⟩
  belongsTo := ⟨[], rfl, by simp⟩
  auditLog := ⟨[], rfl, by simp⟩
  lastId := by
    rintro _ ⟨⟩
    rfl

/-- Telling the audit trail of an event. -/
theorem insertAudit (hQ : Writable Q P) {event : AuditEvent} (hs : s.Each Q)
    (h : s.insertAudit event = .ok s') : s'.Each Q := by
  obtain ⟨log, hlog, hadmits, rfl⟩ := insertAudit_eq_ok_iff.mp h
  have hlast := hs.lastId log hlog
  have hroom := (AuditLog.admits_singleton_iff.mp hadmits).1
  have htable : s.auditLog.map (·.rows) = some log.rows := by rw [hlog, Option.map_some]
  -- The number of the new row is one more than there are rows, and the trail has room for it.
  have hnumber : Q (.integer "id") (.integer (log.lastId + 1)) := by
    rw [hlast]
    exact_mod_cast hQ.rowNumber (log.rows.length + 1) (by push_cast; omega)
  refine { hs with auditLog := hs.auditLog.append htable ?_, lastId := ?_ }
  · simpa [Shape.auditLog, AuditLog.rowOf, Column.neededText, hQ.text] using hnumber
  · intro log' hlog'
    obtain rfl := Option.some.inj hlog'
    simp [AuditLog.extend, hlast]

/-- Storing a competition. -/
theorem upsertCompetition (hQ : Writable Q P) (hs : s.Each Q)
    (h : s.upsertCompetition m competition = .ok s') : s'.Each Q := by
  obtain ⟨rows, hrows, rfl⟩ := upsertCompetition_eq_ok_iff.mp h
  refine { hs with competitions := hs.competitions.upsert hrows (fun r hr => ?_) ?_ }
  · simp_all [Shape.competitions, Column.text, Column.neededText, hQ.text]
  · simp [Shape.competitions, Column.text, Column.neededText, hQ.text, hQ.null]

/-- Storing a skater. -/
theorem upsertSkater (hQ : Writable Q P) (hs : s.Each Q) (h : s.upsertSkater m e = .ok s') :
    s'.Each Q := by
  obtain ⟨rows, hrows, rfl⟩ := upsertSkater_eq_ok_iff.mp h
  refine { hs with skaters := hs.skaters.upsert hrows (fun r hr => ?_) ?_ }
  · cases hemail : e.email <;>
      simp_all [Shape.skaters, updateSkater, Column.text, Column.neededText, hQ.text]
  · simp [Shape.skaters, Column.text, Column.neededText, hQ.text, hQ.ofText?]

/-- Storing an event of an entry. -/
theorem upsertEvent (hQ : Writable Q P) (hs : s.Each Q) (he : P e) (hnumber : number ∈ e.events)
    (h : s.upsertEvent m competition number = .ok s') : s'.Each Q := by
  have hinteger := hQ.eventNumber e he number hnumber
  obtain ⟨rows, hrows, rfl⟩ := upsertEvent_eq_ok_iff.mp h
  refine { hs with events := hs.events.upsert hrows (fun r hr => ?_) ?_ }
  · simp_all [Shape.events, Column.text, Column.neededText]
  · simp [Shape.events, Column.text, Column.neededText, hQ.text, hQ.null, hinteger]

/-- Adding a relation of an entry. -/
theorem addRelation (hQ : Writable Q P) (hs : s.Each Q) (he : P e)
    (h : s.addRelation (relationRow m competition e n number) = .ok s') : s'.Each Q := by
  obtain ⟨rows, hrows, -, rfl⟩ := addRelation_eq_ok_iff.mp h
  have hgross (name : String) : Q (.real name) (.ofReal? e.grossAmount) :=
    hQ.ofReal? he rfl fun _ hx => .inl hx
  have hnet (name : String) : Q (.real name) (.ofReal? e.netAmount) :=
    hQ.ofReal? he rfl fun _ hx => .inr hx
  have hpurchase (name : String) : Q (.real name) (.ofReal? (purchaseAmount e)) :=
    hQ.ofReal? he rfl fun _ hx => .inr (Option.filter_eq_some_iff.mp hx).1
  refine { hs with competedIn := hs.competedIn.append hrows ?_ }
  unfold relationRow
  split_ifs <;>
    simp [Shape.competedIn, Column.text, Column.neededText, hQ.text, hQ.null, hgross, hnet, hpurchase]

/-- Carrying out an item of a plan. -/
theorem deleteItem (hQ : Writable Q P) {item : PlanItem} (hs : s.Each Q)
    (h : s.deleteItem m n item = (.ok (), s')) : s'.Each Q := by
  obtain ⟨s₁, hdelete, haudit⟩ :=
    deletionStatements_eq_ok_iff.mp (transaction_eq_ok_iff.mp h)
  obtain ⟨rows, hrows, -, rfl⟩ := deleteRelation_eq_ok_iff.mp hdelete
  have hs₁ :
      Store.Each Q { s with competedIn := some (rows.filter fun r => r.id != .text item.id) } :=
    { hs with competedIn := hs.competedIn.filter hrows _ }
  exact hs₁.insertAudit hQ haudit

/-- Every single write of a contact report. -/
theorem respected (hQ : Writable Q P) : Respected m fun s s' => s.Each Q → s'.Each Q where
  refl _ hs := hs
  trans h h' hs := h' (h hs)
  upsertFamily := by
    intro s s' last email h hs
    obtain ⟨rows, hrows, rfl⟩ := upsertFamily_eq_ok_iff.mp h
    refine { hs with families := hs.families.upsert hrows (fun r hr => ?_) ?_ }
    · cases email <;> simp_all [Shape.families, Column.text, Column.neededText, hQ.text]
    · simp [Shape.families, Column.text, Column.neededText, hQ.text, hQ.ofText?]
  linkFamily := by
    intro s s' skater family n n' h hs
    obtain ⟨rows, hrows, ⟨-, rfl, -⟩ | ⟨-, rfl, -⟩⟩ := linkFamily_cases h
    · exact hs
    · refine { hs with belongsTo := hs.belongsTo.append hrows ?_ }
      simp [Shape.belongsTo, Column.text, Column.neededText, hQ.text]
  setFamilyEmail := by
    intro s s' family email h hs
    obtain ⟨rows, hrows, rfl⟩ := setFamilyEmail_eq_ok_iff.mp h
    refine { hs with families := hs.families.map hrows fun r hr => ?_ }
    split_ifs
    · simp_all [Shape.families, Column.text, Column.neededText, hQ.text]
    · exact hr
  fillSkaterEmail := by
    intro s s' skater email h hs
    obtain ⟨rows, hrows, rfl⟩ := fillSkaterEmail_eq_ok_iff.mp h
    refine { hs with skaters := hs.skaters.map hrows fun r hr => ?_ }
    unfold SkaterRow.fill
    split_ifs
    · simp_all [Shape.skaters, Column.text, Column.neededText, hQ.text]
    · exact hr

/-! ## Whole actions -/

/-- Storing the events of an entry. -/
theorem importEvents (hQ : Writable Q P) {numbers : List ℕ} (hs : s.Each Q) (he : P e)
    (hnumbers : ∀ number ∈ numbers, number ∈ e.events)
    (h : importEvents m competition e s n numbers = .ok s') : s'.Each Q := by
  induction numbers generalizing s n with
  | nil => exact Except.ok.inj h ▸ hs
  | cons number numbers ih =>
    rw [List.forall_mem_cons] at hnumbers
    obtain ⟨s₂, hevent, hrest⟩ := importEvents_cons_eq_ok_iff.mp h
    obtain ⟨s₁, hupsert, hrelation⟩ := importEvent_eq_ok_iff.mp hevent
    have hs₁ := hs.upsertEvent hQ he hnumbers.1 hupsert
    exact ih (hs₁.addRelation hQ he hrelation) hnumbers.2 hrest

/-- Storing entries. -/
theorem importAll (hQ : Writable Q P) (hs : s.Each Q) (hentries : ∀ e ∈ entries, P e)
    (h : importAll m competition s n entries = .ok s') : s'.Each Q := by
  induction entries generalizing s n with
  | nil => exact Except.ok.inj h ▸ hs
  | cons e entries ih =>
    rw [List.forall_mem_cons] at hentries
    obtain ⟨s₁, s₂, hskater, hevents, hrest⟩ := importAll_cons_eq_ok_iff.mp h
    have hs₂ := (hs.upsertSkater hQ hskater).importEvents hQ hentries.1 (fun _ h => h) hevents
    exact ih hs₂ hentries.2 hrest

/-- Importing entries. -/
theorem importEntries (hQ : Writable Q P) {summary : ImportSummary} (hs : s.Each Q)
    (hentries : ∀ e ∈ entries, P e)
    (h : s.importEntries m competition entries = .ok (summary, s')) : s'.Each Q := by
  obtain ⟨s₁, s₂, hcompetition, hall, haudit, -⟩ :=
    importEntries_eq_ok_iff.mp h
  exact ((hs.upsertCompetition hQ hcompetition).importAll hQ hentries hall).insertAudit hQ haudit

/-- Cleaning up. -/
theorem cleanup (hQ : Writable Q P) {items : List PlanItem} {report : CleanupReport}
    (hs : s.Each Q) (h : s.cleanup m items = .ok (report, s')) : s'.Each Q := by
  obtain ⟨_, _, _, rfl, -, -, -, rfl⟩ := cleanup_eq_ok_iff.mp h
  refine List.foldlRecOn items (advance m) (motive := fun p : CleanupProgress => p.store.Each Q) hs
    fun p hp item _ => ?_
  rcases advance_cases m p item with
    ⟨rows, log, hrows, hlog, hpresent, hadmits, hadvance⟩ | ⟨failure, drawn, hadvance⟩
  · rw [hadvance]
    exact hp.deleteItem hQ
      (deleteItem_eq_ok_iff.mpr ⟨rows, log, hrows, hlog, hpresent, hadmits, rfl⟩)
  · rw [hadvance]
    exact hp

/-- Writing a contact report. -/
theorem applyContacts (hQ : Writable Q P) {report : ContactReport} {summary : ContactSummary}
    (hs : s.Each Q) (h : s.applyContacts m report = .ok (summary, s')) : s'.Each Q := by
  obtain ⟨s₁, n₁, s₂, n₂, hgroups, hemails, haudit, -⟩ := applyContacts_eq_ok_iff.mp h
  have hR : Respected m fun s s' => s.Each Q → s'.Each Q := respected hQ
  exact (hR.writeEmails hemails (hR.writeGroups hgroups hs)).insertAudit hQ haudit

end Store.Each

/-! ## Runs -/

/-- Whatever a store has been through, as long as the imported entries are of a kind, its cells have
every property that what is written has. -/
theorem Usage.Reachable.each {u : Usage} {allowed : Usage → Action → Prop} (hQ : Writable Q P)
    (hallowed : ∀ u m competition entries,
      allowed u (.importEntries m competition entries) → ∀ e ∈ entries, P e)
    (hu : Reachable allowed u) : u.store.Each Q := by
  induction hu with
  | fresh => exact .fresh Q
  | @step u a _ ha ih =>
    cases hperform : a.perform u.store with
    | error failure =>
      rw [step_of_error hperform]
      exact ih
    | ok s =>
      rw [step_store_of_ok hperform]
      cases a with
      | importEntries m competition entries =>
        obtain ⟨⟨summary, s₁⟩, himport, rfl⟩ := map_eq_ok_iff.mp hperform
        exact ih.importEntries hQ (hallowed u m competition entries ha) himport
      | cleanup m items =>
        obtain ⟨⟨report, s₁⟩, hcleanup, rfl⟩ := map_eq_ok_iff.mp hperform
        exact ih.cleanup hQ hcleanup
      | applyContacts m report =>
        obtain ⟨⟨summary, s₁⟩, hcontacts, rfl⟩ := map_eq_ok_iff.mp hperform
        exact ih.applyContacts hQ hcontacts

/-! ## Reading -/

/-- A cell of a row has what the cells of its column have. -/
theorem Shape.exists_column {ρ : Type} {shape : Shape ρ} {r : ρ}
    (hr : List.Forall₂ Q shape.columns (shape.cells r)) {cell : String × Cell}
    (hcell : cell ∈ shape.named r) :
    ∃ column ∈ shape.columns, column.name = cell.1 ∧ Q column cell.2 := by
  rw [named, List.zip_map_left] at hcell
  obtain ⟨⟨column, c⟩, hmem, rfl⟩ := List.mem_map.mp hcell
  exact ⟨column, (List.of_mem_zip hmem).1, rfl, List.forall₂_zip hr hmem⟩

/-- The columns of a table. -/
def Table.columns : Table → List Column
  | .competitions => Shape.competitions.columns
  | .events => Shape.events.columns
  | .skaters => Shape.skaters.columns
  | .families => Shape.families.columns
  | .competedIn => Shape.competedIn.columns
  | .belongsTo => Shape.belongsTo.columns
  | .auditLog => Shape.auditLog.columns

/-- What is read of a store is in the columns of its tables, and has the property of its column. -/
theorem Store.Each.exists_column {s : Store} (hs : s.Each Q) {table : Table}
    {stored : List (List (String × Cell))} (h : s.rows table = .ok stored)
    {cells : List (String × Cell)} (hcells : cells ∈ stored) {cell : String × Cell}
    (hcell : cell ∈ cells) :
    ∃ column ∈ table.columns, column.name = cell.1 ∧ Q column cell.2 := by
  have hshape {ρ : Type} {shape : Shape ρ} {rows : Option (List ρ)} (hrows : shape.Each Q rows)
      (hnamed : namedRows shape rows = .ok stored) :
      ∃ column ∈ shape.columns, column.name = cell.1 ∧ Q column cell.2 := by
    obtain ⟨rows, rfl, hQ⟩ := hrows
    obtain rfl := Except.ok.inj hnamed
    obtain ⟨r, hr, rfl⟩ := List.mem_map.mp hcells
    exact Shape.exists_column (hQ r hr) hcell
  cases table with
  | competitions => exact hshape hs.competitions h
  | events => exact hshape hs.events h
  | skaters => exact hshape hs.skaters h
  | families => exact hshape hs.families h
  | competedIn => exact hshape hs.competedIn h
  | belongsTo => exact hshape hs.belongsTo h
  | auditLog => exact hshape hs.auditLog h

end SkaterLedger
