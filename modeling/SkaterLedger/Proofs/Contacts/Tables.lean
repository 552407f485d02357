import Mathlib.Data.List.Basic
import SkaterLedger.Contacts.Contact
import SkaterLedger.Proofs.Csv.Bytes

/-!
# Contacts files that are read back

A table of contacts has a column of first names and one of last names, possibly one of addresses,
and any further columns, in any order. However it is written as a file, the contacts of its rows are
read (`readBytes_document`), unless the text starts with a byte order mark: the reader drops it,
although it may belong to the name of the first column (`readBytes_markedFile`).

The columns are told by their names alone, so the fields under a name are the fields of its column,
as often as the column occurs.
-/

namespace SkaterLedger

/-- A column of a table of contacts. -/
inductive ContactColumn where
  /-- The first names. -/
  | first
  /-- The last name. -/
  | last
  /-- The address. -/
  | email
  /-- A further column. -/
  | other (name : String)
deriving DecidableEq, Repr

/-- What stands in the header of a column. -/
def ContactColumn.name : ContactColumn → String
  | first => "First Name"
  | last => "Last Name"
  | email => "Email"
  | other name => name

/-- A row of a table of contacts. -/
structure ContactRow where
  /-- The first names. -/
  first : String
  /-- The last name. -/
  last : String
  /-- The address. -/
  email : String
  /-- What further columns hold, by their position. -/
  others : ℕ → String

/-- The field of a row in a column. -/
def ContactRow.field (r : ContactRow) (i : ℕ) : ContactColumn → String
  | .first => r.first
  | .last => r.last
  | .email => r.email
  | .other _ => r.others i

/-- A table of contacts. -/
structure ContactTable where
  /-- The columns, in any order. -/
  columns : List ContactColumn
  /-- The rows. -/
  rows : List ContactRow
  /-- There is one column of first names. -/
  count_first : columns.count .first = 1
  /-- There is one column of last names. -/
  count_last : columns.count .last = 1
  /-- There is at most one column of addresses. -/
  count_email : columns.count .email ≤ 1
  /-- Further columns have other names. -/
  other_name : ∀ name, .other name ∈ columns → name ∉ ["First Name", "Last Name", "Email"]

namespace ContactTable

/-- The header and the rows of a table, as lists of fields. -/
def records (t : ContactTable) : List (List String) :=
  t.columns.map ContactColumn.name :: t.rows.map fun r => t.columns.mapIdx r.field

/-- The contact of a row. There is an address if there is a column of them and more than blanks in
it. -/
def contact (t : ContactTable) (r : ContactRow) : Contact where
  firstNames := (ContactName.ofFields r.first r.last).firstNames
  lastName := (ContactName.ofFields r.first r.last).lastName
  isFamily := (ContactName.ofFields r.first r.last).isFamily
  email :=
    if .email ∈ t.columns ∧ Text.trimmed r.email ≠ "" then some (Text.trimmed r.email) else none
  rawFirst := r.first

/-! ## Columns -/

/-- The fields under the name of a column are the fields of this column. -/
theorem under_name {columns : List ContactColumn} {c : ContactColumn} {value : String}
    {field : ℕ → ContactColumn → String} (hname : ∀ d ∈ columns, d.name = c.name → d = c)
    (hfield : ∀ i, field i c = value) :
    Contact.under c.name (columns.map fun d => some d.name) ((columns.mapIdx field).map some) =
      List.replicate (columns.count c) (some value) := by
  unfold Contact.under
  induction columns generalizing field with
  | nil => rfl
  | cons d columns ih =>
    rw [List.forall_mem_cons] at hname
    have hrest := ih hname.2 fun i => hfield (i + 1)
    by_cases hd : d = c
    · subst hd
      rw [List.count_cons_self, List.replicate_succ, ← hrest, ← hfield 0]
      simp [List.mapIdx_cons]
    · have hne : d.name ≠ c.name := fun h => hd (hname.1 h)
      rw [List.count_cons_of_ne hd, ← hrest]
      simp [List.mapIdx_cons, hne]

/-- No other column has the name of one that is read. -/
theorem eq_of_name_eq {t : ContactTable} {c d : ContactColumn} (hc : c ∈ [.first, .last, .email])
    (hd : d ∈ t.columns) (h : d.name = c.name) : d = c := by
  have hnames : ∀ c ∈ [ContactColumn.first, .last, .email],
      c.name ∈ ["First Name", "Last Name", "Email"] := by
    decide
  have hdistinct : ∀ c ∈ [ContactColumn.first, .last, .email],
      ∀ d ∈ [ContactColumn.first, .last, .email], d.name = c.name → d = c := by
    decide
  cases d with
  | other name =>
    have hmem := hnames c hc
    rw [← h] at hmem
    exact absurd hmem (t.other_name name hd)
  | first => exact hdistinct c hc _ (by decide) h
  | last => exact hdistinct c hc _ (by decide) h
  | email => exact hdistinct c hc _ (by decide) h

/-- The contact of a row is made of its fields. -/
theorem ofRow_eq (t : ContactTable) (r : ContactRow) :
    Contact.ofRow r.first r.last (if .email ∈ t.columns then some r.email else none) =
      t.contact r := by
  unfold Contact.ofRow contact
  by_cases hcolumn : ContactColumn.email ∈ t.columns
  · by_cases hempty : Text.trimmed r.email = ""
    · simp [hcolumn, hempty]
    · simp [hcolumn, hempty]
  · simp [hcolumn]

/-- The header as it is decoded. -/
def header (t : ContactTable) : Contact.Fields := t.columns.map fun c => some c.name

/-- A row as it is decoded. -/
def fields (t : ContactTable) (r : ContactRow) : Contact.Fields :=
  (t.columns.mapIdx r.field).map some

/-- What stands under a name that is read, as often as there is a column of it. -/
theorem under_column (t : ContactTable) (r : ContactRow) {c : ContactColumn}
    (hc : c ∈ [.first, .last, .email]) : Contact.under c.name t.header (t.fields r) =
      List.replicate (t.columns.count c) (some (r.field 0 c)) := by
  refine under_name (fun d hd => eq_of_name_eq hc hd) fun i => ?_
  revert c
  simp [ContactRow.field]

/-- The address is missing if its column is. -/
theorem under_email (t : ContactTable) (r : ContactRow) :
    Contact.under Contact.emailColumn t.header (t.fields r) =
      if .email ∈ t.columns then [some r.email] else [] := by
  have hcount := t.under_column r (c := .email) (by decide)
  split
  · rename_i hcolumn
    have hone : t.columns.count .email = 1 :=
      le_antisymm t.count_email (List.count_pos_iff.mpr hcolumn)
    rwa [hone] at hcount
  · rename_i hcolumn
    rwa [List.count_eq_zero_of_not_mem hcolumn] at hcount

/-- The record of a row is read as its contact. -/
theorem ofRecord?_fields (t : ContactTable) (r : ContactRow) :
    Contact.ofRecord? t.header (t.fields r) = some (t.contact r) := by
  have hfirst : Contact.under Contact.firstColumn t.header (t.fields r) = [some r.first] := by
    have hone := t.under_column r (c := .first) (by decide)
    rwa [t.count_first] at hone
  have hlast : Contact.under Contact.lastColumn t.header (t.fields r) = [some r.last] := by
    have hone := t.under_column r (c := .last) (by decide)
    rwa [t.count_last] at hone
  have hcolumns : Contact.ofColumns? t.header (t.fields r) = some (t.contact r) := by
    rw [← ofRow_eq, Contact.ofColumns?, hfirst, hlast, under_email]
    by_cases hcolumn : ContactColumn.email ∈ t.columns <;> simp [hcolumn]
  unfold Contact.ofRecord?
  rw [if_neg (by simp [header, fields]), if_neg (by simp [header])]
  exact hcolumns

/-- The records of all rows are read. -/
theorem ofRecords_fields (t : ContactTable) (done : ℕ) (rows : List ContactRow) :
    Contact.ofRecords t.header done (rows.map t.fields) = .ok (rows.map t.contact) := by
  induction rows generalizing done with
  | nil => rfl
  | cons r rows ih =>
    rw [List.map_cons, Contact.ofRecords, ofRecord?_fields]
    dsimp only
    rw [ih]
    rfl

/-- Reading the records of a table gives the contacts of its rows. -/
theorem ofTable_records (t : ContactTable) :
    Contact.ofTable (t.records.map (·.map some)) = .ok (t.rows.map t.contact) := by
  unfold records
  rw [List.map_cons, List.map_map, List.map_map]
  exact t.ofRecords_fields 0 t.rows

/-! ## Files -/

/-- A line of a table is not blank, as there are at least two columns. -/
theorem line_ne_nil {t : ContactTable} {file : List Csv.WrittenRecord}
    (hfile : file.map (·.texts) = t.records.map (·.map String.toList)) :
    ∀ r ∈ file, r.line ≠ [] := by
  have hcolumns : 2 ≤ t.columns.length := by
    have hfirst : .first ∈ t.columns := List.count_pos_iff.mp (by rw [t.count_first]; decide)
    have hlast : .last ∈ t.columns := List.count_pos_iff.mp (by rw [t.count_last]; decide)
    match hcolumns : t.columns with
    | [] => simp [hcolumns] at hfirst
    | [c] =>
      rw [hcolumns, List.mem_singleton] at hfirst hlast
      cases hfirst.trans hlast.symm
    | _ :: _ :: _ => simp
  have hlength : ∀ record ∈ t.records, record.length = t.columns.length := by
    intro record hrecord
    unfold records at hrecord
    rw [List.mem_cons, List.mem_map] at hrecord
    rcases hrecord with rfl | ⟨r, -, rfl⟩
    · exact List.length_map _
    · exact List.length_mapIdx
  intro r hr
  have hmem : r.texts ∈ t.records.map (·.map String.toList) := by
    rw [← hfile]
    exact List.mem_map_of_mem hr
  obtain ⟨record, hrecord, htexts⟩ := List.mem_map.mp hmem
  have hfields : 2 ≤ r.fields.length := by
    have hsame := congrArg List.length htexts
    rw [List.length_map, hlength record hrecord, Csv.WrittenRecord.texts, List.length_map] at hsame
    omega
  match hr : r.fields with
  | [] => simp [hr] at hfields
  | [_] => simp [hr] at hfields
  | f :: f' :: fields =>
    unfold Csv.WrittenRecord.line
    rw [hr, List.map_cons, List.map_cons, List.intercalate_cons_cons]
    simp

/-- Whatever way a table is written as a file, its contacts are read, unless the text starts with a
byte order mark. One that is put in front of the text is passed over. -/
theorem readBytes_document {t : ContactTable} {file : List Csv.WrittenRecord}
    (hfile : file.map (·.texts) = t.records.map (·.map String.toList))
    (hends : ∀ r ∈ file.dropLast, r.lineEnds ≠ []) :
    ((Csv.document file).head? ≠ some '\uFEFF' →
        Contact.readBytes (Text.encode (Csv.document file)) = .ok (t.rows.map t.contact)) ∧
      Contact.readBytes (Text.encode ('\uFEFF' :: Csv.document file)) =
        .ok (t.rows.map t.contact) := by
  have hread : (Csv.recordsFrom .ofChars .lineStart (Csv.document file)).map
      (·.map fun cs => some (String.ofList cs)) = t.records.map (·.map some) := by
    rw [Csv.recordsFrom_document (line_ne_nil hfile) hends, hfile, List.map_map]
    refine List.map_congr_left fun record _ => ?_
    simp
  have htable (cs : List Char)
      (hcs : Csv.Marks.ofChars.dropByteOrderMark cs = Csv.document file) :
      Contact.readBytes (Text.encode cs) = .ok (t.rows.map t.contact) := by
    have hdecode := Csv.map_records_bytesOfString (String.ofList cs)
    rw [Text.bytesOfString, String.toList_ofList, Csv.records.eq_def .ofChars, hcs, hread]
      at hdecode
    rw [Contact.readBytes, hdecode]
    exact ofTable_records t
  exact ⟨fun hmark => htable _ (Csv.dropByteOrderMark_of_head?_ne hmark), htable _ rfl⟩

/-- A table with siblings and a further column. -/
def siblingsTable : ContactTable where
  columns := [.email, .other "Club, \"Rink\"", .last, .first]
  rows := [⟨"Ann, Bo", " Lee", " \n", fun _ => ""⟩, ⟨"Cy", "Lee", "cy@example.com ", fun _ => "x"⟩]
  count_first := by decide
  count_last := by decide
  count_email := by decide
  other_name := by simp

/-- This table as a file, with each of the line ends and a blank line. -/
def siblingsFile : List Csv.WrittenRecord :=
  [⟨[⟨"Email".toList, true, by decide⟩, ⟨"Club, \"Rink\"".toList, true, by decide⟩,
      ⟨"Last Name".toList, false, by decide⟩, ⟨"First Name".toList, false, by decide⟩],
      [.both, .carriageReturn]⟩,
    ⟨[⟨" \n".toList, true, by decide⟩, ⟨[], false, by decide⟩, ⟨" Lee".toList, false, by decide⟩,
      ⟨"Ann, Bo".toList, true, by decide⟩], [.lineFeed]⟩,
    ⟨[⟨"cy@example.com ".toList, false, by decide⟩, ⟨"x".toList, true, by decide⟩,
      ⟨"Lee".toList, false, by decide⟩, ⟨"Cy".toList, false, by decide⟩], []⟩]

/-- The contacts of this file, with or without a byte order mark in front. -/
theorem readBytes_siblingsFile :
    siblingsFile.map (·.texts) = siblingsTable.records.map (·.map String.toList) ∧
      (∀ r ∈ siblingsFile.dropLast, r.lineEnds ≠ []) ∧
      ∀ mark ∈ [[], ['\uFEFF']],
        Contact.readBytes (Text.encode (mark ++
          ("\"Email\",\"Club, \"\"Rink\"\"\",Last Name,First Name\r\n\r" ++
            "\" \n\",, Lee,\"Ann, Bo\"\ncy@example.com ,\"x\",Lee,Cy").toList)) =
          .ok [⟨["Ann", "Bo"], "Lee", true, none, "Ann, Bo"⟩,
            ⟨["Cy"], "Lee", false, some "cy@example.com", "Cy"⟩] := by
  have hfile : siblingsFile.map (·.texts) = siblingsTable.records.map (·.map String.toList) := by
    decide +kernel
  have hends : ∀ r ∈ siblingsFile.dropLast, r.lineEnds ≠ [] := by decide +kernel
  obtain ⟨hplain, hmarked⟩ := readBytes_document hfile hends
  have htext : Csv.document siblingsFile =
      ("\"Email\",\"Club, \"\"Rink\"\"\",Last Name,First Name\r\n\r" ++
        "\" \n\",, Lee,\"Ann, Bo\"\ncy@example.com ,\"x\",Lee,Cy").toList := by
    decide +kernel
  have hcontacts : siblingsTable.rows.map siblingsTable.contact =
      [⟨["Ann", "Bo"], "Lee", true, none, "Ann, Bo"⟩,
        ⟨["Cy"], "Lee", false, some "cy@example.com", "Cy"⟩] := by
    decide +kernel
  rw [htext, hcontacts] at hplain hmarked
  refine ⟨hfile, hends, ?_⟩
  rw [List.forall_mem_cons, List.forall_mem_singleton]
  exact ⟨hplain (by decide +kernel), hmarked⟩

/-- A table whose first column is not one of addresses, by a byte order mark in its name. -/
def markedTable : ContactTable where
  columns := [.other "\uFEFFEmail", .first, .last]
  rows := [⟨"Ann", "Lee", "", fun _ => "ann@example.com"⟩]
  count_first := by decide
  count_last := by decide
  count_email := by decide
  other_name := by simp

/-- This table as a file without quotation marks. -/
def markedFile : List Csv.WrittenRecord :=
  [⟨[⟨"\uFEFFEmail".toList, false, by decide⟩, ⟨"First Name".toList, false, by decide⟩,
      ⟨"Last Name".toList, false, by decide⟩], [.lineFeed]⟩,
    ⟨[⟨"ann@example.com".toList, false, by decide⟩, ⟨"Ann".toList, false, by decide⟩,
      ⟨"Lee".toList, false, by decide⟩], [.lineFeed]⟩]

/-- The byte order mark is dropped, so the first column becomes one of addresses. -/
theorem readBytes_markedFile :
    markedFile.map (·.texts) = markedTable.records.map (·.map String.toList) ∧
      (∀ r ∈ markedFile.dropLast, r.lineEnds ≠ []) ∧
      markedTable.rows.map markedTable.contact = [⟨["Ann"], "Lee", false, none, "Ann"⟩] ∧
      Contact.readBytes (Text.encode (Csv.document markedFile)) =
        .ok [⟨["Ann"], "Lee", false, some "ann@example.com", "Ann"⟩] :=
  ⟨by decide +kernel, by decide +kernel, by decide +kernel, rfl⟩

end ContactTable

end SkaterLedger
