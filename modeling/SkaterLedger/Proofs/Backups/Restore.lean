import SkaterLedger.Proofs.Backups.ReadBack

/-!
# Restoring a store from its backup

Whatever a store has been through, its cells suit their columns (`Usage.reachable_suits`): there are
no bytes in it, and numbers with a point or an exponent are amounts without a sign. So the value of a
cell in a backup tells the cell, with one exception. JSON has no number for infinity, which is what an
amount of very many digits is read as, and a backup has `null` in its place. Up to such amounts, a
store is restored from the tables of its backup (`Backup.restore_tablesOf`).
-/

namespace SkaterLedger

/-! ## Cells suit their columns -/

/-- A cell holds a value of the kind that its column asks for, if any, and no negative number. -/
def Cell.Suits (affinity : Affinity) : Cell → Prop
  | .null => True
  | .text _ => affinity = .text
  | .integer _ => affinity = .integer
  | .real x => affinity = .real ∧ x.negative = false
  | .blob _ => False

/-- What is written suits its column, if the amounts of entries have no sign. -/
theorem writable_suits : Writable (fun column c => c.Suits column.affinity) Entry.Unsigned where
  null _ := trivial
  text _ _ hcolumn := hcolumn
  rowNumber _ _ := rfl
  eventNumber _ _ _ _ := rfl
  amount e he x hx column hcolumn := by
    refine ⟨hcolumn, ?_⟩
    unfold Binary64.withoutNegativeZero
    split_ifs
    · rfl
    · exact he x hx

/-- Whatever a store has been through, as long as the imported entries come from documents, its cells
suit their columns. -/
theorem Usage.reachable_suits {u : Usage} (hu : Reachable Action.FromDocument u) :
    u.store.Each fun column c => c.Suits column.affinity :=
  hu.each writable_suits fun _ _ _ _ hallowed =>
    hallowed.forall_mem fun _ => Requests.unsigned_of_mem_extractFrom

/-! ## What a value tells of a cell -/

/-- Infinity, which an amount of very many digits is read as. -/
def Binary64.infinity : Binary64 := ⟨false, .infinity⟩

namespace Cell

/-- A cell as JSON can tell it: no value in place of infinity. -/
def withoutInfinity (c : Cell) : Cell := if c = .real .infinity then .null else c

/-- The cell that a value of a backup stands for. -/
def ofJson : Json → Cell
  | .int n => .integer n
  | .real x => .real x
  | .str s => .text s
  | _ => .null

variable {c : Cell} {affinity : Affinity}

/-- A number that suits a column is finite or it is infinity. -/
theorem Suits.eq_infinity {x : Binary64} (h : (real x).Suits affinity) (hx : x.isFinite = false) :
    x = .infinity := by
  have hrank : x.magnitude.rank = infiniteRank := by
    simpa [Binary64.isFinite, Magnitude.isInfinite] using hx
  have hmagnitude : x.magnitude = .infinity := by
    rw [← Magnitude.ofRank_rank x.magnitude, hrank]
    rfl
  obtain ⟨negative, magnitude⟩ := x
  obtain rfl : magnitude = .infinity := hmagnitude
  obtain rfl : negative = false := h.2
  rfl

/-- The value of a cell tells the cell as far as JSON can. -/
theorem ofJson_toJson (h : c.Suits affinity) : ofJson c.toJson = c.withoutInfinity := by
  cases c with
  | null => rfl
  | integer n => rfl
  | text s => rfl
  | blob bytes => exact h.elim
  | real x =>
    unfold withoutInfinity
    -- A finite number is its own value, and the only other number that suits a column is infinity.
    cases hx : x.isFinite with
    | true =>
      have hne : real x ≠ real .infinity := by
        rintro ⟨⟩
        exact absurd hx (by decide)
      rw [if_neg hne, toJson, if_pos hx, ofJson]
    | false =>
      rw [if_pos (congrArg real (h.eq_infinity hx)), toJson, hx]
      rfl

/-- No value is lost that JSON could tell. -/
theorem toJson_withoutInfinity (c : Cell) : c.withoutInfinity.toJson = c.toJson := by
  unfold withoutInfinity
  split_ifs with h
  · rw [h]
    rfl
  · rfl

/-- A value other than `null` stands for the cell itself. -/
theorem Suits.ofJson_of_ne (h : c.Suits affinity) (hne : c.toJson ≠ .null) :
    ofJson c.toJson = c := by
  rw [ofJson_toJson h, withoutInfinity, if_neg]
  rintro rfl
  exact hne rfl

/-- What `null` stands for is no value, or infinity in a column for numbers. -/
theorem Suits.eq_of_null (h : c.Suits affinity) (hnull : c.toJson = .null) :
    c = .null ∨ affinity = .real ∧ c = .real .infinity := by
  have htold : c.withoutInfinity = .null := by
    rw [← ofJson_toJson h, hnull]
    rfl
  unfold withoutInfinity at htold
  split_ifs at htold with hinfinity
  · exact .inr ⟨(hinfinity ▸ h : (real .infinity).Suits affinity).1, hinfinity⟩
  · exact .inl htold

/-- A cell of a column that is not for numbers stays as it is. -/
theorem Suits.withoutInfinity_eq (h : c.Suits affinity) (haffinity : affinity ≠ .real) :
    c.withoutInfinity = c := by
  refine if_neg ?_
  rintro rfl
  exact haffinity h.1

end Cell

/-! ## Rows and tables -/

/-- A relation as JSON can tell it. -/
def RelationRow.withoutInfinity (r : RelationRow) : RelationRow :=
  { r with
    grossAmount := r.grossAmount.withoutInfinity
    netAmount := r.netAmount.withoutInfinity
    purchaseAmount := r.purchaseAmount.withoutInfinity }

/-- A store as JSON can tell it: without the amounts that are infinite. -/
def Store.withoutInfinity (s : Store) : Store :=
  { s with competedIn := s.competedIn.map fun rows => rows.map RelationRow.withoutInfinity }

namespace Shape

variable {ρ : Type} {shape : Shape ρ} {r : ρ} {Q : Column → Cell → Prop}

/-- The row that an object of a backup stands for. -/
def ofRow (shape : Shape ρ) (row : BackupRow) : ρ :=
  shape.ofCells fun name => .ofJson ((row.lookup name).getD .null)

/-- The rows that the tables of a backup hold of a table. -/
def ofTables (shape : Shape ρ) (tables : BackupTables) : List ρ :=
  ((tables.lookup shape.table.name).getD []).map shape.ofRow

/-- The cells of a row are told by the names of their columns. -/
structure Faithful (shape : Shape ρ) : Prop where
  /-- No two columns have the same name. -/
  names : (shape.columns.map Column.name).Nodup
  /-- There is a cell for every column. -/
  length_cells : ∀ r, (shape.cells r).length = shape.columns.length
  /-- A row is the one of its cells. -/
  ofCells_cell : ∀ r, (shape.ofCells fun name => shape.cell name r) = r

namespace Faithful

/-- A row has the names of all columns. -/
theorem map_fst_named (h : shape.Faithful) (r : ρ) :
    (shape.named r).map Prod.fst = shape.columns.map Column.name :=
  List.map_fst_zip (by rw [List.length_map, h.length_cells])

/-- No name is twice in a row. -/
theorem nodup_named (h : shape.Faithful) (r : ρ) : ((shape.named r).map Prod.fst).Nodup :=
  h.map_fst_named r ▸ h.names

/-- The object of a row has the value of each cell under the name of its column. -/
theorem lookup_rowOfCells (h : shape.Faithful) (r : ρ) (name : String) :
    (Backup.rowOfCells (shape.named r)).lookup name =
      ((shape.named r).lookup name).map Cell.toJson := by
  rw [← Json.valueOf?_eq_lookup (h.nodup_named r), ← Json.valueOf?_map, ← Json.lookup_sortMembers]
  rfl

/-- What the object of a row has for a column is the value of its cell. -/
theorem getD_lookup_rowOfCells (h : shape.Faithful) (r : ρ) (name : String) :
    ((Backup.rowOfCells (shape.named r)).lookup name).getD .null = (shape.cell name r).toJson := by
  rw [h.lookup_rowOfCells, cell]
  cases (shape.named r).lookup name <;> rfl

/-- There is no value under a name, or it is the cell of a column. -/
theorem cell_eq_null_or (h : shape.Faithful) (hr : List.Forall₂ Q shape.columns (shape.cells r))
    (name : String) :
    shape.cell name r = .null ∨ ∃ column ∈ shape.columns, Q column (shape.cell name r) := by
  unfold cell
  cases hcell : (shape.named r).lookup name with
  | none => exact .inl rfl
  | some c =>
    have hmem : (name, c) ∈ shape.named r :=
      (Json.lookup_eq_some_iff_mem (h.nodup_named r)).mp hcell
    obtain ⟨column, hcolumn, -, hc⟩ := exists_column hr hmem
    exact .inr ⟨column, hcolumn, hc⟩

/-- What the object of a row says of a column is what the cell of the column is without infinity. -/
theorem ofJson_rowOfCells (h : shape.Faithful)
    (hr : List.Forall₂ (fun column c => c.Suits column.affinity) shape.columns (shape.cells r))
    (name : String) : Cell.ofJson (((Backup.rowOfCells (shape.named r)).lookup name).getD .null) =
      (shape.cell name r).withoutInfinity := by
  rw [h.getD_lookup_rowOfCells]
  obtain hnull | ⟨column, -, hsuits⟩ := h.cell_eq_null_or hr name
  · rw [hnull]
    rfl
  · exact Cell.ofJson_toJson hsuits

/-- A row of a table without columns for numbers is the one that its object stands for. -/
theorem ofRow_rowOfCells (h : shape.Faithful)
    (hcolumns : ∀ column ∈ shape.columns, column.affinity ≠ .real)
    (hr : List.Forall₂ (fun column c => c.Suits column.affinity) shape.columns (shape.cells r)) :
    shape.ofRow (Backup.rowOfCells (shape.named r)) = r := by
  have hcell (name : String) : (shape.cell name r).withoutInfinity = shape.cell name r := by
    obtain hnull | ⟨column, hcolumn, hsuits⟩ := h.cell_eq_null_or hr name
    · rw [hnull]
      rfl
    · exact hsuits.withoutInfinity_eq (hcolumns column hcolumn)
  simp only [ofRow, h.ofJson_rowOfCells hr, hcell, h.ofCells_cell]

end Faithful

/-- Competitions are told by the names of their columns. -/
theorem faithful_competitions : competitions.Faithful := ⟨by decide, fun _ => rfl, fun _ => rfl⟩

/-- So are events. -/
theorem faithful_events : events.Faithful := ⟨by decide, fun _ => rfl, fun _ => rfl⟩

/-- So are skaters. -/
theorem faithful_skaters : skaters.Faithful := ⟨by decide, fun _ => rfl, fun _ => rfl⟩

/-- So are families. -/
theorem faithful_families : families.Faithful := ⟨by decide, fun _ => rfl, fun _ => rfl⟩

/-- So are relations. -/
theorem faithful_competedIn : competedIn.Faithful := ⟨by decide, fun _ => rfl, fun _ => rfl⟩

/-- So are links. -/
theorem faithful_belongsTo : belongsTo.Faithful := ⟨by decide, fun _ => rfl, fun _ => rfl⟩

/-- So are the rows of the audit trail. -/
theorem faithful_auditLog : auditLog.Faithful := ⟨by decide, fun _ => rfl, fun _ => rfl⟩

/-- The relation that its object stands for. -/
theorem ofRow_rowOfCells_relation {r : RelationRow}
    (hr : List.Forall₂ (fun column c => c.Suits column.affinity) competedIn.columns
      (competedIn.cells r)) :
    competedIn.ofRow (Backup.rowOfCells (competedIn.named r)) = r.withoutInfinity := by
  -- Only the three amounts can be infinite; all other cells are those of the row.
  have htext {c : Cell} (h : c.Suits .text) : c.withoutInfinity = c :=
    h.withoutInfinity_eq (by decide)
  have hinteger {c : Cell} (h : c.Suits .integer) : c.withoutInfinity = c :=
    h.withoutInfinity_eq (by decide)
  simp only [ofRow, faithful_competedIn.ofJson_rowOfCells hr]
  simp only [competedIn, List.forall₂_cons, Column.text, Column.neededText, Column.integer] at hr
  obtain ⟨hid, hin, hout, horder, hrequest, hgallery, -, -, -, hdate, hnotes, hurl, hcreated, -⟩ := hr
  calc competedIn.ofCells (fun name => (competedIn.cell name r).withoutInfinity)
      = ⟨r.id.withoutInfinity, r.inId.withoutInfinity, r.outId.withoutInfinity,
          r.skateOrder.withoutInfinity, r.requestStatus.withoutInfinity,
          r.galleryStatus.withoutInfinity, r.grossAmount.withoutInfinity,
          r.netAmount.withoutInfinity, r.purchaseAmount.withoutInfinity,
          r.purchaseDate.withoutInfinity, r.notes.withoutInfinity, r.galleryUrl.withoutInfinity,
          r.createdAt.withoutInfinity⟩ := rfl
    _ = r.withoutInfinity := by
      rw [htext hid, htext hin, htext hout, hinteger horder, htext hrequest, htext hgallery,
        htext hdate, htext hnotes, htext hurl, htext hcreated]
      rfl

end Shape

/-! ## Restoring a store -/

/-- The rows of the tables, with the names of the columns. -/
def Contents.named (c : Contents) : Table → List (List (String × Cell))
  | .competitions => c.competitions.map Shape.competitions.named
  | .events => c.events.map Shape.events.named
  | .skaters => c.skaters.map Shape.skaters.named
  | .families => c.families.map Shape.families.named
  | .competedIn => c.relations.map Shape.competedIn.named
  | .belongsTo => c.links.map Shape.belongsTo.named
  | .auditLog => c.log.rows.map Shape.auditLog.named

/-- They are what is read of a store that holds them. -/
theorem Contents.rows_toStore (c : Contents) (table : Table) :
    c.toStore.rows table = .ok (c.named table) := by
  cases table <;> rfl

/-- What is in a store as JSON can tell it. -/
def Contents.withoutInfinity (c : Contents) : Contents :=
  { c with relations := c.relations.map RelationRow.withoutInfinity }

/-- A store tells what it holds. -/
theorem Contents.toStore_injective : Function.Injective toStore := by
  rintro ⟨⟩ ⟨⟩ h
  simpa [toStore] using h

namespace Backup

/-- The store that the tables of a backup stand for. The audit trail goes on from the number of its
rows. -/
def restore (tables : BackupTables) : Store where
  competitions := some (Shape.competitions.ofTables tables)
  events := some (Shape.events.ofTables tables)
  skaters := some (Shape.skaters.ofTables tables)
  families := some (Shape.families.ofTables tables)
  competedIn := some (Shape.competedIn.ofTables tables)
  belongsTo := some (Shape.belongsTo.ofTables tables)
  auditLog :=
    some ⟨Shape.auditLog.ofTables tables, (Shape.auditLog.ofTables tables).length⟩

variable {named : Table → List (List (String × Cell))}

/-- The rows of a table in a backup. -/
theorem lookup_tablesOf (named : Table → List (List (String × Cell))) (table : Table) :
    (tablesOf named).lookup table.name = some ((named table).map rowOfCells) := by
  rw [tablesOf, Json.lookup_sortMembers]
  cases table <;> rfl

/-- What the rows of a table in a backup stand for. -/
theorem ofTables_tablesOf {ρ : Type} {shape : Shape ρ} {rows : List ρ} {told : ρ → ρ}
    (hrows : named shape.table = rows.map shape.named)
    (htold : ∀ r ∈ rows, shape.ofRow (rowOfCells (shape.named r)) = told r) :
    shape.ofTables (tablesOf named) = rows.map told := by
  rw [Shape.ofTables, lookup_tablesOf, hrows, Option.getD_some, List.map_map, List.map_map]
  exact List.map_congr_left htold

/-- A table without columns for numbers is what its rows in a backup stand for. -/
theorem ofTables_eq_self {ρ : Type} {shape : Shape ρ} {rows : List ρ} (h : shape.Faithful)
    (hcolumns : ∀ column ∈ shape.columns, column.affinity ≠ .real)
    (hrows : named shape.table = rows.map shape.named)
    (hsuits : shape.Each (fun column c => c.Suits column.affinity) (some rows)) :
    shape.ofTables (tablesOf named) = rows := by
  rw [ofTables_tablesOf hrows fun r hr => h.ofRow_rowOfCells hcolumns (hsuits.cells rfl r hr)]
  exact List.map_id' rows

/-- A store is restored from the tables of its backup, up to infinite amounts. -/
theorem restore_tablesOf {c : Contents}
    (hc : c.toStore.Each fun column c => c.Suits column.affinity) :
    restore (tablesOf c.named) = c.withoutInfinity.toStore := by
  -- The last number of the trail is not in a backup, but it is the number of the rows.
  have hlast : c.log = ⟨c.log.rows, c.log.rows.length⟩ := by
    rw [← hc.lastId c.log rfl]
  have hrelations : Shape.competedIn.ofTables (tablesOf c.named) =
      c.relations.map RelationRow.withoutInfinity :=
    ofTables_tablesOf rfl fun r hr =>
      Shape.ofRow_rowOfCells_relation (hc.competedIn.cells rfl r hr)
  unfold restore Contents.toStore Contents.withoutInfinity
  rw [hrelations, ofTables_eq_self Shape.faithful_competitions (by decide) rfl hc.competitions,
    ofTables_eq_self Shape.faithful_events (by decide) rfl hc.events,
    ofTables_eq_self Shape.faithful_skaters (by decide) rfl hc.skaters,
    ofTables_eq_self Shape.faithful_families (by decide) rfl hc.families,
    ofTables_eq_self Shape.faithful_belongsTo (by decide) rfl hc.belongsTo,
    ofTables_eq_self Shape.faithful_auditLog (by decide) rfl hc.auditLog, ← hlast]

end Backup

end SkaterLedger
