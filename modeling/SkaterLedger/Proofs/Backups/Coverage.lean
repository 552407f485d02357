import SkaterLedger.Proofs.Backups.Restore
import SkaterLedger.Proofs.Requests.Descriptions

/-!
# What a backup holds of a store

A backup holds every row of every table, in the order of the table and with all columns
(`Backup.Covers`), and its values tell the cells up to infinite amounts. Two stores therefore have the
same tables in their backups exactly if they differ in nothing else (`Backup.tables_eq_iff`). Such
amounts come from documents, which may write any number of digits (`Backup.purchase_text`), and they
cannot be told from missing ones (`Backup.tables_eq_of_infinite`).
-/

namespace SkaterLedger

open Json (Sorted)
open Requests

/-! ## The backup of a store -/

/-- The columns for numbers. -/
def amountColumns : List String := ["gross_amount", "net_amount", "purchase_amount"]

/-- They are columns of relations. -/
theorem Table.eq_of_affinity {table : Table} {column : Column} (h : column ∈ table.columns)
    (hreal : column.affinity = .real) : table = .competedIn ∧ column.name ∈ amountColumns := by
  revert column
  cases table <;> decide

namespace Backup

/-- A row of a backup has the values of some cells, under the same names and in ascending order. -/
structure Tells (cells : List (String × Cell)) (row : BackupRow) : Prop where
  /-- The names ascend. -/
  sorted : Sorted row
  /-- There is a value for each cell, and no other. -/
  lookup : ∀ name, row.lookup name = (cells.lookup name).map Cell.toJson

/-- A backup has the rows of a store: of all seven tables and of no other, all rows in their order,
and of each row all cells. -/
structure Covers (b : Backup) (s : Store) : Prop where
  /-- The tables, in ascending order. -/
  names : b.tables.map Prod.fst =
    ["audit_log", "belongs_to", "competed_in", "competitions", "events", "families", "skaters"]
  /-- The rows of each, which have all its columns. -/
  rows : ∀ table, ∃ stored kept, s.rows table = .ok stored ∧
    (∀ cells ∈ stored, cells.map Prod.fst = table.columns.map Column.name) ∧
    b.tables.lookup table.name = some kept ∧ List.Forall₂ Tells stored kept
  /-- The number of all rows. -/
  total : ∃ count : Table → ℕ, (∀ table, s.count table = .ok (count table)) ∧
    b.totalRecords = (Table.all.map count).sum

variable {c c' : Contents} {u u' : Usage} {t t' : Instant} {label label' : String} {b b' : Backup}

/-- The rows of a table have all its columns, and their objects have all their values. -/
theorem tells_named (c : Contents) (table : Table) :
    (∀ cells ∈ c.named table, cells.map Prod.fst = table.columns.map Column.name) ∧
      List.Forall₂ Tells (c.named table) ((c.named table).map rowOfCells) := by
  have hshape {ρ : Type} {shape : Shape ρ} (h : shape.Faithful) (rows : List ρ) :
      (∀ cells ∈ rows.map shape.named,
        cells.map Prod.fst = shape.columns.map Column.name) ∧
      List.Forall₂ Tells (rows.map shape.named) ((rows.map shape.named).map rowOfCells) := by
    refine ⟨List.forall_mem_map.mpr fun r _ => h.map_fst_named r, ?_⟩
    rw [List.forall₂_map_right_iff, List.forall₂_map_left_iff, List.forall₂_map_right_iff,
      List.forall₂_same]
    exact fun r _ => ⟨Json.sorted_sortMembers _, h.lookup_rowOfCells r⟩
  cases table with
  | competitions => exact hshape Shape.faithful_competitions _
  | events => exact hshape Shape.faithful_events _
  | skaters => exact hshape Shape.faithful_skaters _
  | families => exact hshape Shape.faithful_families _
  | competedIn => exact hshape Shape.faithful_competedIn _
  | belongsTo => exact hshape Shape.faithful_belongsTo _
  | auditLog => exact hshape Shape.faithful_auditLog _

/-- The tables of a backup in ascending order. -/
theorem tablesOf_eq (named : Table → List (List (String × Cell))) :
    tablesOf named = [Table.auditLog, .belongsTo, .competedIn, .competitions, .events, .families,
      .skaters].map fun table => (table.name, (named table).map rowOfCells) := by
  -- The order depends on the names alone, so the tables are sorted before their rows are put in.
  have hsorted : Json.sortMembers (Table.all.map fun table => (table.name, table)) =
      [Table.auditLog, .belongsTo, .competedIn, .competitions, .events, .families,
        .skaters].map fun table => (table.name, table) := by
    decide +kernel
  have hmap := Json.sortMembers_map (fun table => (named table).map rowOfCells)
    (Table.all.map fun table => (table.name, table))
  rw [hsorted, List.map_map, List.map_map] at hmap
  exact hmap

/-- The backup of what is in a store has all of it. -/
theorem covers_toStore (c : Contents) (t : Instant) (label : String) :
    Covers ⟨t, label, tablesOf c.named, checksumOf (tablesOf c.named)⟩ c.toStore where
  names := by
    rw [tablesOf_eq]
    rfl
  rows table := ⟨_, _, c.rows_toStore table, (tells_named c table).1,
    lookup_tablesOf c.named table, (tells_named c table).2⟩
  total := by
    refine ⟨fun table => (c.named table).length, fun table => ?_, ?_⟩
    · unfold Store.count
      rw [c.rows_toStore]
      rfl
    · simp [totalRecords, tablesOf_eq, Table.all]
      omega

/-- The backup of what a store holds, whatever it has been through. -/
theorem exists_toStore (hu : Usage.Reachable Action.FromDocument u) :
    ∃ c : Contents, c.toStore = u.store ∧ ∀ t label, create t label u.store =
      .ok ⟨t, label, tablesOf c.named, checksumOf (tablesOf c.named)⟩ := by
  obtain ⟨c, hc⟩ := Store.exists_contents hu.has
  exact ⟨c, hc, fun t label => create_eq (hc ▸ c.rows_toStore) t label⟩

/-- Relations that are the same to JSON have the same values. -/
theorem rowOfCells_withoutInfinity (r : RelationRow) :
    rowOfCells (Shape.competedIn.named r.withoutInfinity) =
      rowOfCells (Shape.competedIn.named r) := by
  unfold rowOfCells
  simp [Shape.named, Shape.competedIn, RelationRow.withoutInfinity, Cell.toJson_withoutInfinity]

/-- What is the same to JSON has the same tables in its backup. -/
theorem tablesOf_withoutInfinity (c : Contents) :
    tablesOf c.withoutInfinity.named = tablesOf c.named := by
  have hrows (table : Table) :
      (c.withoutInfinity.named table).map rowOfCells = (c.named table).map rowOfCells := by
    cases table with
    | competedIn =>
      simp only [Contents.named, Contents.withoutInfinity, List.map_map, List.map_inj_left,
        Function.comp_apply]
      exact fun r _ => rowOfCells_withoutInfinity r
    | _ => simp only [Contents.named, Contents.withoutInfinity]
  simp only [tablesOf, hrows]

/-- The tables of a backup stand for the store that it was made of, up to infinite amounts. -/
theorem restore_tables (hu : Usage.Reachable Action.FromDocument u)
    (h : create t label u.store = .ok b) : restore b.tables = u.store.withoutInfinity := by
  obtain ⟨c, hc, hcreate⟩ := exists_toStore hu
  obtain rfl := Except.ok.inj ((hcreate t label).symm.trans h)
  rw [← hc]
  exact restore_tablesOf (hc ▸ u.reachable_suits hu)

/-- The backups of two stores have the same tables exactly if the stores differ in nothing but
infinite amounts, which are no values to JSON. -/
theorem tables_eq_iff (hu : Usage.Reachable Action.FromDocument u)
    (hu' : Usage.Reachable Action.FromDocument u') (h : create t label u.store = .ok b)
    (h' : create t' label' u'.store = .ok b') :
    b.tables = b'.tables ↔ u.store.withoutInfinity = u'.store.withoutInfinity := by
  constructor
  · intro htables
    rw [← restore_tables hu h, ← restore_tables hu' h', htables]
  · intro hstores
    obtain ⟨c, hc, hcreate⟩ := exists_toStore hu
    obtain ⟨c', hc', hcreate'⟩ := exists_toStore hu'
    obtain rfl := Except.ok.inj ((hcreate t label).symm.trans h)
    obtain rfl := Except.ok.inj ((hcreate' t' label').symm.trans h')
    have hcontents : c.withoutInfinity = c'.withoutInfinity := by
      rw [← hc, ← hc'] at hstores
      exact Contents.toStore_injective hstores
    -- The values of a row are the same with infinite amounts and without them.
    calc tablesOf c.named = tablesOf c.withoutInfinity.named := (tablesOf_withoutInfinity c).symm
      _ = tablesOf c'.withoutInfinity.named := by rw [hcontents]
      _ = tablesOf c'.named := tablesOf_withoutInfinity c'

/-! ## Purchases -/

/-- A purchase of some net amount. -/
def purchased (net : Option Binary64) : Entry :=
  ⟨"John", "Smith", [3], none, .purchased, none, net, [], none⟩

/-- A store after the import of this purchase. -/
def purchaseOf (net : Option Binary64) : Usage :=
  Usage.fresh.step (.importEntries purchaseMoment "2025 Pony Express" [purchased net])

/-- What is written below the skater of a purchase. -/
def purchaseDetails (net : WrittenAmount) : List DetailLine :=
  [.indented (.event 3), .indented (.status (.purchasedNet net))]

/-- The lines of the document of a purchase. -/
theorem toList_purchase (net : WrittenAmount) :
    ("Smith John\n   Event 3\n   Status: Purchased (Net: $" ++ String.ofList net.text ++
      ")\n").toList =
      Text.unlines ("Smith John".toList :: (purchaseDetails net).map DetailLine.text) := by
  -- Stated for any characters, so that the literal lines are not spelled out below.
  have hthree (first second head amount close : List Char) :
      Text.unlines [first, second, head ++ (amount ++ close)] =
        first ++ '\n' :: second ++ '\n' :: head ++ amount ++ (close ++ ['\n']) := by
    simp [Text.unlines]
  have hhead : "Smith John\n   Event 3\n   Status: Purchased (Net: $".toList =
      "Smith John".toList ++ '\n' :: "   Event 3".toList ++
        '\n' :: "   Status: Purchased (Net: $".toList := by
    decide +kernel
  have hamount : (String.ofList net.text).toList = net.text := String.toList_ofList
  rw [String.toList_append, String.toList_append, hamount, hhead]
  exact (hthree _ _ _ _ ")".toList).symm

/-- The purchase of an amount that is written in a document, however many digits it has. -/
theorem purchase_text (net : WrittenAmount) :
    purchase (String.ofList net.text) = purchaseOf (some net.value) := by
  have hvalid : ∀ l ∈ purchaseDetails net, l.detail.Valid := by
    simp [purchaseDetails, DetailLine.indented, Detail.Valid]
  have hlines : ∀ line ∈ "Smith John".toList :: (purchaseDetails net).map DetailLine.text,
      '\n' ∉ line := by
    refine List.forall_mem_cons.mpr ⟨by decide, List.forall_mem_map.mpr fun l hl => ?_⟩
    exact (DetailLine.text_valid (hvalid l hl)).2
  have hsubject (lines : List (List Char)) :
      extractFrom .all .start ("Smith John".toList :: lines) =
        extractFrom .all ⟨none, some (.named "John" "Smith" none)⟩ lines := rfl
  have hdetails := Passage.extractFrom_details hvalid none (.named "John" "Smith" none) []
  rw [List.append_nil] at hdetails
  have hentries : extract .all ("Smith John\n   Event 3\n   Status: Purchased (Net: $" ++
      String.ofList net.text ++ ")\n") = [purchased (some net.value)] := by
    rw [extract, toList_purchase, ← extractFrom_map_trimEnd, Text.map_trimEnd_lines_unlines hlines,
      extractFrom_map_trimEnd, hsubject, hdetails]
    rfl
  rw [purchase, hentries, purchaseOf]

/-- It is held by a store that imported a document. -/
theorem reachable_purchaseOf (net : WrittenAmount) :
    Usage.Reachable Action.FromDocument (purchaseOf (some net.value)) :=
  purchase_text net ▸ reachable_purchase _

/-- So is a purchase for an amount in digits that cannot be read, as they are not ASCII ones. -/
theorem reachable_purchaseOf_none : Usage.Reachable Action.FromDocument (purchaseOf none) := by
  have hentries : extract .all ("Smith John\n   Event 3\n   Status: Purchased (Net: $" ++ "٣" ++
      ")\n") = [purchased none] := by
    decide +kernel
  have hpurchase : purchase "٣" = purchaseOf none := by rw [purchase, hentries, purchaseOf]
  exact hpurchase ▸ reachable_purchase _

/-- An amount of 310 digits. -/
def nines : WrittenAmount where
  whole := List.replicate 310 '9'
  fraction := none
  whole_ne_nil := List.cons_ne_nil _ _
  whole_digits _ hc := List.eq_of_mem_replicate hc ▸ rfl
  fraction_digits := nofun

/-- There is no binary64 number of its size. -/
theorem value_nines : nines.value = .infinity := by decide +kernel

/-! ## What is told and what is not -/

/-- Every store has a backup, whatever it has been through as long as the imported entries come from
documents. It has all rows of all tables, and its values tell the cells, except that `null` stands for
infinity in an amount of a relation as well as for no value. So the store is restored from it up to
infinite amounts, and another store has the same tables in its backup exactly if both differ in
nothing but these. -/
theorem create_covers (hu : Usage.Reachable Action.FromDocument u) (t : Instant) (label : String) :
    ∃ b, create t label u.store = .ok b ∧ b.Covers u.store ∧
      (∀ table stored, u.store.rows table = .ok stored → ∀ cells ∈ stored, ∀ cell ∈ cells,
        (cell.2.toJson ≠ .null → Cell.ofJson cell.2.toJson = cell.2) ∧
        (cell.2.toJson = .null → cell.2 = .null ∨
          table = .competedIn ∧ cell.1 ∈ amountColumns ∧ cell.2 = .real .infinity)) ∧
      restore b.tables = u.store.withoutInfinity ∧
      ∀ u' t' label' b', Usage.Reachable Action.FromDocument u' →
        create t' label' u'.store = .ok b' →
          (b.tables = b'.tables ↔ u.store.withoutInfinity = u'.store.withoutInfinity) := by
  obtain ⟨c, hc, hcreate⟩ := exists_toStore hu
  refine ⟨_, hcreate t label, hc ▸ covers_toStore c t label, ?_, restore_tables hu (hcreate t label),
    fun u' t' label' b' hu' h' => tables_eq_iff hu hu' (hcreate t label) h'⟩
  -- Which kinds of values a cell can have is known from its column.
  intro table stored hstored cells hcells cell hcell
  obtain ⟨column, hcolumn, hname, hsuits⟩ :=
    (u.reachable_suits hu).exists_column hstored hcells hcell
  refine ⟨hsuits.ofJson_of_ne, fun hnull => ?_⟩
  obtain hnone | ⟨hreal, hinfinity⟩ := hsuits.eq_of_null hnull
  · exact .inl hnone
  · obtain ⟨htable, hamount⟩ := Table.eq_of_affinity hcolumn hreal
    exact .inr ⟨htable, hname ▸ hamount, hinfinity⟩

/-- The backup of a purchase for twenty dollars has five rows, and other tables than the one of a
purchase for no amount. -/
theorem create_covers_purchase :
    let twenty := Passage.amount "20" "00" rfl rfl rfl
    Usage.Reachable Action.FromDocument (purchaseOf (some twenty.value)) ∧
      Usage.Reachable Action.FromDocument (purchaseOf none) ∧
      ∃ b b',
        create purchaseMoment.time "photography" (purchaseOf (some twenty.value)).store = .ok b ∧
        create purchaseMoment.time "photography" (purchaseOf none).store = .ok b' ∧
        b.totalRecords = 5 ∧ b.tables ≠ b'.tables := by
  intro twenty
  have hu := reachable_purchaseOf twenty
  have hu' := reachable_purchaseOf_none
  have hstores : (purchaseOf (some twenty.value)).store.withoutInfinity ≠
      (purchaseOf none).store.withoutInfinity := by
    decide +kernel
  have hcounts : (Table.all.map fun table =>
      ((purchaseOf (some twenty.value)).store.count table).toOption.getD 0).sum = 5 := by
    decide +kernel
  obtain ⟨b, hcreate, hcovers, -, -, htables⟩ :=
    create_covers hu purchaseMoment.time "photography"
  obtain ⟨b', hcreate', -⟩ := create_covers hu' purchaseMoment.time "photography"
  obtain ⟨count, hcount, htotal⟩ := hcovers.total
  refine ⟨hu, hu', b, b', hcreate, hcreate', ?_, fun hsame => ?_⟩
  · rw [htotal, ← hcounts]
    simp only [hcount, Except.toOption, Option.getD_some]
  · exact hstores ((htables _ _ _ b' hu' hcreate').mp hsame)

/-- A purchase for an amount of 310 digits is stored as one for infinity. It is another store than
that of a purchase for no amount, but both have the same tables in their backups. -/
theorem tables_eq_of_infinite :
    Usage.Reachable Action.FromDocument (purchaseOf (some nines.value)) ∧
      Usage.Reachable Action.FromDocument (purchaseOf none) ∧
      (purchaseOf (some nines.value)).store ≠ (purchaseOf none).store ∧
      (∃ stored, (purchaseOf (some nines.value)).store.rows .competedIn = .ok stored ∧
        ∃ cells ∈ stored, ("net_amount", .real .infinity) ∈ cells) ∧
      (Cell.real .infinity).toJson = .null ∧
      ∃ b b',
        create purchaseMoment.time "photography" (purchaseOf (some nines.value)).store = .ok b ∧
        create purchaseMoment.time "photography" (purchaseOf none).store = .ok b' ∧
        b.tables = b'.tables := by
  have hu := reachable_purchaseOf nines
  have hu' := reachable_purchaseOf_none
  rw [value_nines] at hu ⊢
  have hstores : (purchaseOf (some .infinity)).store ≠ (purchaseOf none).store := by decide +kernel
  have hamount : ((purchaseOf (some .infinity)).store.rows .competedIn).toOption.map (fun stored =>
      stored.any fun cells => cells.contains ("net_amount", .real .infinity)) = some true := by
    decide +kernel
  have hsame : (purchaseOf (some .infinity)).store.withoutInfinity =
      (purchaseOf none).store.withoutInfinity := by
    decide +kernel
  obtain ⟨c, -, hcreate⟩ := exists_toStore hu
  obtain ⟨c', -, hcreate'⟩ := exists_toStore hu'
  refine ⟨hu, hu', hstores, ?_, rfl, _, _, hcreate _ _, hcreate' _ _,
    (tables_eq_iff hu hu' (hcreate _ _) (hcreate' _ _)).mpr hsame⟩
  cases hstored : (purchaseOf (some .infinity)).store.rows .competedIn with
  | error f => simp [hstored, Except.toOption] at hamount
  | ok stored => simpa [hstored, Except.toOption] using hamount

end Backup

end SkaterLedger
