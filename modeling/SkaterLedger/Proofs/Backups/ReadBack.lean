import SkaterLedger.Backup
import SkaterLedger.Proofs.Calendar.Notation
import SkaterLedger.Proofs.Json.Scaling
import SkaterLedger.Proofs.Store.Integers
import SkaterLedger.Proofs.Text.Utf8

/-!
# Reading a backup back

The backup of a store is written to a file and read again. Its time, its name, its strings, its
integers and what is missing come back as they were; so do the numbers with a point, except that the
reader scales digits by a rounded power of ten, which may miss a number of many digits by one place.
The backup that is read is therefore the one that was written exactly if this happens to none of its
numbers (`Backup.read_create`). It does not happen to numbers of up to fifteen digits and usual size
(`Backup.read_bytes_of_plain`), and it does happen to an amount of sixteen
(`Backup.reals_read_purchase`).
-/

namespace SkaterLedger

open Json (ReadsBack Sorted Tree)

/-! ## Cells -/

/-- A cell that fits is read back from its value, unless it is a number that is not. -/
theorem Cell.readsBack_toJson_iff {c : Cell} (hc : c.Fits) (depth : ℕ) :
    c.toJson.ReadsBack depth ↔ ∀ x, c.toJson = .real x → x.ReadsBack := by
  cases c with
  | null => simp [toJson, Json.readsBack_null]
  | integer n => simp [toJson, Json.readsBack_int (Cell.fits_integer_iff.mp hc)]
  | text s => simp [toJson, Json.readsBack_str]
  | blob bytes => simp [toJson, Json.readsBack_str]
  | real x =>
    cases h : x.isFinite with
    | true => simp [toJson, h, Json.readsBack_real_iff h]
    | false => simp [toJson, h, Json.readsBack_null]

/-- Only finite numbers are values. -/
theorem Cell.isFinite_of_toJson_eq {c : Cell} {x : Binary64} (h : c.toJson = .real x) :
    x.isFinite = true := by
  cases c with
  | real y =>
    rw [toJson] at h
    split_ifs at h with hy
    obtain rfl := Json.real.inj h
    exact hy
  | _ => nomatch h

namespace Backup

/-- The number with a point or an exponent that a value is. -/
def realOf? : Json → Option Binary64
  | .real x => some x
  | _ => none

/-- The numbers with a point or an exponent in the tables of a backup. -/
def reals (b : Backup) : List Binary64 :=
  b.tables.flatMap fun table => table.2.flatMap fun row => row.filterMap fun cell => realOf? cell.2

/-- A backup as it is made: tables and columns ascend by name, each value is that of a cell that
fits, and the checksum is that of the tables. -/
structure Made (b : Backup) : Prop where
  /-- The tables ascend by name. -/
  tables : Sorted b.tables
  /-- The columns of every row ascend by name. -/
  rows : ∀ table ∈ b.tables, ∀ row ∈ table.2, Sorted row
  /-- Every value is that of a cell. -/
  cells : ∀ table ∈ b.tables, ∀ row ∈ table.2, ∀ cell ∈ row, ∃ c : Cell, c.Fits ∧ cell.2 = c.toJson
  /-- The checksum is that of the tables. -/
  verify : b.verify = true

variable {b : Backup} {s : Store} {t : Instant} {label path : String} {depth : ℕ}
  {row : BackupRow} {rows : List BackupRow} {tables : BackupTables}

/-! ## Making a backup -/

/-- The cells of a table's rows fit. -/
theorem fits_of_namedRows {ρ : Type} {shape : Shape ρ} {table : Option (List ρ)}
    (h : shape.Fits table) : ∃ named, Store.namedRows shape table = .ok named ∧
      ∀ cells ∈ named, ∀ cell ∈ cells, cell.2.Fits := by
  obtain ⟨rows, rfl, hrows⟩ := h
  refine ⟨rows.map shape.named, rfl, List.forall_mem_map.mpr fun r hr cell hcell => ?_⟩
  exact hrows r hr cell.2 (List.of_mem_zip hcell).2

/-- Every table of a store that fits can be read, and its cells fit. -/
theorem fits_of_rows (hs : s.Fits) (table : Table) : ∃ named, s.rows table = .ok named ∧
    ∀ cells ∈ named, ∀ cell ∈ cells, cell.2.Fits := by
  cases table with
  | competitions => exact fits_of_namedRows hs.competitions
  | events => exact fits_of_namedRows hs.events
  | skaters => exact fits_of_namedRows hs.skaters
  | families => exact fits_of_namedRows hs.families
  | competedIn => exact fits_of_namedRows hs.competedIn
  | belongsTo => exact fits_of_namedRows hs.belongsTo
  | auditLog => exact fits_of_namedRows hs.auditLog

/-- The tables of a backup with some rows in each table. -/
def tablesOf (named : Table → List (List (String × Cell))) : BackupTables :=
  Json.sortMembers (Table.all.map fun table => (table.name, (named table).map rowOfCells))

/-- If all tables of a store can be read, it has a backup of what is read. -/
theorem create_eq {named : Table → List (List (String × Cell))}
    (h : ∀ table, s.rows table = .ok (named table)) (t : Instant) (label : String) :
    create t label s = .ok ⟨t, label, tablesOf named, checksumOf (tablesOf named)⟩ := by
  have htable (table : Table) :
      tableOf s table = .ok (table.name, (named table).map rowOfCells) := by
    simp [tableOf, rowsOf, h, bind, Except.bind, Except.mapError]
  have htables : Table.all.mapM (tableOf s) =
      .ok (Table.all.map fun table => (table.name, (named table).map rowOfCells)) := by
    rw [mapM_eq_ok_iff, List.forall₂_map_right_iff, List.forall₂_same]
    exact fun table _ => htable table
  simp [create, htables, bind, Except.bind, tablesOf]

/-- A store that fits has a backup. -/
theorem exists_create (hs : s.Fits) (t : Instant) (label : String) :
    ∃ b, create t label s = .ok b ∧ b.timestamp = t ∧ b.database = label ∧ b.Made := by
  choose named hnamed hfit using fits_of_rows hs
  -- What a table of the backup holds comes from the rows of a table of the store.
  have hmem {table : String × List BackupRow} (h : table ∈ tablesOf named) {row : BackupRow}
      (hrow : row ∈ table.2) : ∃ source, ∃ cells ∈ named source, rowOfCells cells = row := by
    obtain ⟨source, -, rfl⟩ := List.mem_map.mp (Json.mem_of_mem_sortMembers h)
    exact ⟨source, List.mem_map.mp hrow⟩
  refine ⟨_, create_eq hnamed t label, rfl, rfl, Json.sorted_sortMembers _, ?_, ?_, ?_⟩
  · intro table h row hrow
    obtain ⟨source, cells, -, rfl⟩ := hmem h hrow
    exact Json.sorted_sortMembers _
  · intro table h row hrow cell hcell
    obtain ⟨source, cells, hcells, rfl⟩ := hmem h hrow
    obtain ⟨c, hc, rfl⟩ := List.mem_map.mp (Json.mem_of_mem_sortMembers hcell)
    exact ⟨c.2, hfit source cells hcells c hc, rfl⟩
  · simp [verify]

/-! ## Reading a backup -/

/-- A row is read back if its values are. -/
theorem rowOfTree?_iff (hrow : Sorted row) :
    rowOfTree? depth (.ofValue (.obj row)) = some row ↔ ∀ cell ∈ row, cell.2.ReadsBack depth := by
  rw [Tree.ofValue, rowOfTree?]
  exact Json.readMembers_iff hrow

/-- The rows of a table are read back if their values are. -/
theorem rowsOfTree?_iff (hrows : ∀ row ∈ rows, Sorted row) :
    rowsOfTree? depth (.ofValue (.arr (rows.map .obj))) = some rows ↔
      ∀ row ∈ rows, ∀ cell ∈ row, cell.2.ReadsBack depth := by
  rw [Tree.ofValue, Json.ofValues_eq_map, rowsOfTree?, mapM_eq_some_iff, List.map_map,
    List.forall₂_map_left_iff, List.forall₂_same]
  exact forall₂_congr fun row hrow => rowOfTree?_iff (hrows row hrow)

/-- The tables are read back if their values are. -/
theorem tablesOfTree?_iff (htables : Sorted tables)
    (hrows : ∀ table ∈ tables, ∀ row ∈ table.2, Sorted row) :
    tablesOfTree? depth (.ofValue (tablesToJson tables)) = some tables ↔
      ∀ table ∈ tables, ∀ row ∈ table.2, ∀ cell ∈ row, cell.2.ReadsBack (depth - 3) := by
  have hread : tablesOfTree? depth (.ofValue (tablesToJson tables)) =
      ((tables.map fun table => (table.1, Tree.ofValue (.arr (table.2.map .obj)))).mapM fun table =>
        (rowsOfTree? (depth - 3) table.2).map fun rows => (table.1, rows)).map Json.sortMembers := by
    rw [tablesToJson, Tree.ofValue, tablesOfTree?, Json.keyed?_ofMembers]
    simp only [Option.bind_eq_bind, Option.bind_some, Option.map_eq_bind, List.map_map]
    rfl
  rw [hread, Json.map_sortMembers_eq_some_iff htables]
  · rw [mapM_eq_some_iff, List.forall₂_map_left_iff, List.forall₂_same]
    refine forall₂_congr fun table htable => ?_
    rw [← rowsOfTree?_iff (hrows table htable)]
    cases rowsOfTree? (depth - 3) (.ofValue (.arr (table.2.map .obj))) <;> simp [Prod.ext_iff]
  · intro tables' htables'
    have hkeys : List.Forall₂ (fun table table' : String × List BackupRow => table'.1 = table.1)
        tables tables' := by
      rw [Option.mem_def, mapM_eq_some_iff, List.forall₂_map_left_iff] at htables'
      refine htables'.imp fun table table' h => ?_
      obtain ⟨rows, -, rfl⟩ := Option.map_eq_some_iff.mp h
      rfl
    rw [← List.forall₂_eq_eq_eq, List.forall₂_map_left_iff, List.forall₂_map_right_iff]
    exact hkeys.flip

/-- The fields of the document of a backup. -/
def fields (b : Backup) : List (String × Tree) :=
  [("timestamp", .ofValue (.str b.timestamp.toDocument)), ("database", .ofValue (.str b.database)),
    ("tables", .ofValue (tablesToJson b.tables)), ("checksum", .ofValue (.str b.checksum))]

/-- The document of a backup has its fields, each once. -/
theorem record?_toJson (b : Backup) :
    Tree.record? fieldNames (.ofValue b.toJson) = some b.fields := by
  rw [toJson, Tree.ofValue, Tree.record?, Json.keyed?_ofMembers]
  simp [fieldNames, fields]

/-- The document of a backup is read back if its tables are. -/
theorem ofTree?_toJson (ht : b.timestamp.Valid) : ofTree? (.ofValue b.toJson) =
    (tablesOfTree? (Tree.depthLimit - 1) (.ofValue (tablesToJson b.tables))).map fun tables =>
      { b with tables := tables } := by
  have htime := Rfc3339.lenient?_toDocument ht
  rw [ofTree?, record?_toJson, Option.map_eq_bind]
  simp [fields, List.lookup_cons, Json.string?_ofValue, htime]

/-- A value is a number with a point or an exponent if it is one. -/
theorem realOf?_eq_some_iff {v : Json} {x : Binary64} : realOf? v = some x ↔ v = .real x := by
  cases v <;> simp [realOf?]

/-- The values of a backup are read back if its numbers are. -/
theorem forall_readsBack_iff (hb : b.Made) (depth : ℕ) :
    (∀ table ∈ b.tables, ∀ row ∈ table.2, ∀ cell ∈ row, cell.2.ReadsBack depth) ↔
      ∀ x ∈ b.reals, x.ReadsBack := by
  simp only [reals, List.mem_flatMap, List.mem_filterMap, realOf?_eq_some_iff]
  constructor
  · rintro hcells x ⟨table, htable, row, hrow, cell, hcell, hx⟩
    obtain ⟨c, hc, hvalue⟩ := hb.cells table htable row hrow cell hcell
    have hread := hcells table htable row hrow cell hcell
    rw [hvalue, Cell.readsBack_toJson_iff hc] at hread
    exact hread x (hvalue.symm.trans hx)
  · intro hreals table htable row hrow cell hcell
    obtain ⟨c, hc, hvalue⟩ := hb.cells table htable row hrow cell hcell
    rw [hvalue, Cell.readsBack_toJson_iff hc]
    exact fun x hx => hreals x ⟨table, htable, row, hrow, cell, hcell, hvalue.trans hx⟩

/-- The document of a backup is read back if its numbers are. -/
theorem ofTree?_iff (ht : b.timestamp.Valid) (hb : b.Made) :
    ofTree? (.ofValue b.toJson) = some b ↔ ∀ x ∈ b.reals, x.ReadsBack := by
  rw [ofTree?_toJson ht, ← forall_readsBack_iff hb, ← tablesOfTree?_iff hb.tables hb.rows,
    Option.map_eq_some_iff]
  constructor
  · rintro ⟨tables, hread, hsame⟩
    rw [hread, ← congrArg Backup.tables hsame]
  · intro hread
    exact ⟨b.tables, hread, rfl⟩

/-- The file of a backup is read as its document. -/
theorem read_bytes (b : Backup) (path : String) :
    read path (some (Text.bytesOfString b.toText)) =
      (ofTree? (.ofValue b.toJson)).elim (.error .parseBackup) .ok := by
  have htext : ofText? b.toText = ofTree? (.ofValue b.toJson) := by
    unfold ofText? toText
    rw [Json.ofText?_toIndented, Option.bind_eq_bind, Option.bind_some]
  unfold read
  rw [Option.bind_some, Text.stringOfBytes?_bytesOfString]
  simp only [htext]
  cases ofTree? (.ofValue b.toJson) <;> rfl

/-- The file of a backup is read as this backup exactly if its numbers are read back. -/
theorem read_bytes_iff (ht : b.timestamp.Valid) (hb : b.Made) :
    read path (some (Text.bytesOfString b.toText)) = .ok b ↔ ∀ x ∈ b.reals, x.ReadsBack := by
  rw [← ofTree?_iff ht hb, read_bytes]
  cases ofTree? (.ofValue b.toJson) <;> simp

/-- The numbers of a backup are finite. -/
theorem isFinite_of_mem_reals (hb : b.Made) {x : Binary64} (hx : x ∈ b.reals) :
    x.isFinite = true := by
  simp only [reals, List.mem_flatMap, List.mem_filterMap, realOf?_eq_some_iff] at hx
  obtain ⟨table, htable, row, hrow, cell, hcell, hx⟩ := hx
  obtain ⟨c, -, hvalue⟩ := hb.cells table htable row hrow cell hcell
  exact Cell.isFinite_of_toJson_eq (hvalue.symm.trans hx)

/-- The file of a backup is read as this backup if its numbers have few digits. -/
theorem read_bytes_of_plain (ht : b.timestamp.Valid) (hb : b.Made)
    (hplain : ∀ x ∈ b.reals, (Json.Numeral.ofReal x).Plain) (path : String) :
    read path (some (Text.bytesOfString b.toText)) = .ok b :=
  (read_bytes_iff ht hb).mpr fun x hx =>
    Binary64.readsBack_of_plain (isFinite_of_mem_reals hb hx) (hplain x hx)

/-- A backup can be made of every store that holds imported entries of documents, whatever has been
done with it. It verifies, and its file is read as the same backup, which then verifies as well,
exactly if the digits of each of its numbers scale to this number again. -/
theorem read_create {u : Usage} (hu : Usage.Reachable Action.FromDocument u) (ht : t.Valid)
    (label path : String) : ∃ b, create t label u.store = .ok b ∧ b.timestamp = t ∧
      b.database = label ∧ b.verify = true ∧
      (read path (some (Text.bytesOfString b.toText)) = .ok b ↔ ∀ x ∈ b.reals, x.ReadsBack) := by
  obtain ⟨b, hcreate, htime, hlabel, hb⟩ := exists_create (Usage.reachable_fits hu) t label
  exact ⟨b, hcreate, htime, hlabel, hb.verify, read_bytes_iff (htime ▸ ht) hb⟩

/-- When the purchase is imported. -/
def purchaseMoment : Moment :=
  ⟨⟨1761853826, 0⟩, .ofNat, .ofNat, .ofNat, fun n => ⟨1761853826, n + 1⟩⟩

/-- A store after the import of one purchase, of which the net amount is written in some digits. -/
def purchase (net : String) : Usage :=
  Usage.fresh.step (.importEntries purchaseMoment "2025 Pony Express" (Requests.extract .all
    ("Smith John\n   Event 3\n   Status: Purchased (Net: $" ++ net ++ ")\n")))

/-- A purchase is imported from a document. -/
theorem reachable_purchase (net : String) : Usage.Reachable Action.FromDocument (purchase net) :=
  .step .fresh ⟨.all, .inl ⟨_, rfl⟩⟩

/-- The time of the purchase is valid. -/
theorem valid_purchaseMoment : purchaseMoment.time.Valid where
  year := by decide
  nanos := by decide
  leap := by decide

/-- The backup of a purchase for twenty dollars is read back. -/
theorem read_create_purchase : Usage.Reachable Action.FromDocument (purchase "20.00") ∧
    purchaseMoment.time.Valid ∧
    ∃ b, create purchaseMoment.time "photography" (purchase "20.00").store = .ok b ∧
      b.reals = [⟨false, .ofRank 4626322717216342016⟩, ⟨false, .ofRank 4626322717216342016⟩] ∧
      read "backup.json" (some (Text.bytesOfString b.toText)) = .ok b := by
  have hreals : (create purchaseMoment.time "photography" (purchase "20.00").store).toOption.map
      reals = some [⟨false, .ofRank 4626322717216342016⟩, ⟨false, .ofRank 4626322717216342016⟩] := by
    decide +kernel
  have hplain : (Json.Numeral.ofReal ⟨false, .ofRank 4626322717216342016⟩).Plain := by
    decide +kernel
  obtain ⟨b, hcreate, -, -, -, hread⟩ :=
    read_create (reachable_purchase "20.00") valid_purchaseMoment "photography" "backup.json"
  rw [hcreate] at hreals
  have hreals : b.reals = _ := Option.some.inj hreals
  refine ⟨reachable_purchase _, valid_purchaseMoment, b, hcreate, hreals, hread.mpr ?_⟩
  simpa [hreals] using Binary64.readsBack_of_plain (by decide) hplain

/-- The backup of a purchase for an amount of sixteen digits is read as a backup with another
amount, the next one above it. -/
theorem reals_read_purchase :
    ∃ b b', create purchaseMoment.time "photography" (purchase "94.52706955539223").store = .ok b ∧
      read "backup.json" (some (Text.bytesOfString b.toText)) = .ok b' ∧
      b.reals = [⟨false, .ofRank 4636352168112277535⟩, ⟨false, .ofRank 4636352168112277535⟩] ∧
      b'.reals = [⟨false, .ofRank 4636352168112277536⟩, ⟨false, .ofRank 4636352168112277536⟩] := by
  obtain ⟨b, hcreate, htime, -, hb⟩ := exists_create
    (Usage.reachable_fits (reachable_purchase "94.52706955539223")) purchaseMoment.time "photography"
  have hreals : (create purchaseMoment.time "photography"
      (purchase "94.52706955539223").store).toOption.map reals =
        some [⟨false, .ofRank 4636352168112277535⟩, ⟨false, .ofRank 4636352168112277535⟩] := by
    decide +kernel
  have hread : (create purchaseMoment.time "photography"
      (purchase "94.52706955539223").store).toOption.bind (fun b =>
        (tablesOfTree? (Tree.depthLimit - 1) (.ofValue (tablesToJson b.tables))).map fun tables =>
          reals { b with tables := tables }) =
        some [⟨false, .ofRank 4636352168112277536⟩, ⟨false, .ofRank 4636352168112277536⟩] := by
    decide +kernel
  rw [hcreate] at hreals hread
  obtain ⟨tables, htables, hread⟩ := Option.map_eq_some_iff.mp hread
  refine ⟨b, { b with tables := tables }, hcreate, ?_, Option.some.inj hreals, hread⟩
  rw [read_bytes, ofTree?_toJson (htime ▸ valid_purchaseMoment), htables, Option.map_some,
    Option.elim_some]

end Backup

end SkaterLedger
