import Mathlib.Data.List.Basic
import SkaterLedger.Proofs.Binary64.Notation
import SkaterLedger.Proofs.Csv.Bytes
import SkaterLedger.Requests.Sheet

/-!
# Sheets that are read back

The sheet of some entries is read as a record of column names and one record for each entry
(`records_sheet`), by the reader that contacts files are read with. The fields may hold anything,
since each is written between quotation marks where that is necessary; the amounts are written so
that they read back to the same number.
-/

namespace SkaterLedger.Requests

/-- The fields of an entry's record. -/
def sheetFields (e : Entry) : List String :=
  [e.lastName, e.firstName, e.sectionName.getD "", ";".intercalate (e.events.map toString),
    e.email.getD "", e.status.word, String.ofList (sheetAmount e.grossAmount),
    String.ofList (sheetAmount e.netAmount), " | ".intercalate e.notes]

/-- The line of an entry is made of these fields. -/
theorem sheetRow_eq (e : Entry) : sheetRow e = (sheetFields e).map String.toList := by
  have hevents : (";".intercalate (e.events.map toString)).toList =
      [';'].intercalate (e.events.map Text.decimal) := by
    have hnumber : ∀ n ∈ e.events, (toString n).toList = Text.decimal n := fun n _ =>
      Nat.toList_repr
    rw [String.toList_intercalate, List.map_map]
    exact congrArg _ (List.map_congr_left hnumber)
  have hnotes : (" | ".intercalate e.notes).toList =
      [' ', '|', ' '].intercalate (e.notes.map String.toList) := String.toList_intercalate
  simp only [sheetRow, sheetFields, List.map_cons, List.map_nil, hevents, hnotes,
    String.toList_ofList]

/-- The text of a sheet that is not empty. -/
theorem toList_sheet {entries : List Entry} (h : entries ≠ []) :
    (sheet entries).toList =
      ((sheetHeader :: entries.map sheetFields).map (·.map String.toList)).flatMap
        Csv.writeRecord := by
  have hrows : entries.map sheetRow = (entries.map sheetFields).map (·.map String.toList) := by
    rw [List.map_map]
    exact List.map_congr_left fun e _ => sheetRow_eq e
  unfold sheet
  rw [if_neg (by simpa using h), String.toList_ofList, hrows]
  rfl

/-- A sheet starts with its first column name, so with no byte order mark. -/
theorem dropByteOrderMark_sheet {entries : List Entry} (h : entries ≠ []) :
    Csv.Marks.ofChars.dropByteOrderMark (sheet entries).toList = (sheet entries).toList := by
  have hheader : ∃ cs, Csv.writeRecord (sheetHeader.map String.toList) = 'l' :: cs := ⟨_, rfl⟩
  obtain ⟨cs, hcs⟩ := hheader
  rw [toList_sheet h, List.map_cons, List.flatMap_cons, hcs]
  rfl

/-- A sheet is empty if there are no entries, and otherwise it is read as the column names and one
record for each entry. Finite amounts are read back from their text. -/
theorem records_sheet (entries : List Entry) :
    (sheet entries = "" ↔ entries = []) ∧
      (entries ≠ [] →
        (Csv.records .ofBytes (Text.bytesOfString (sheet entries))).map
            (·.map Text.stringOfBytes?) =
          (["last_name", "first_name", "section", "events", "email", "status", "gross_amount",
            "net_amount", "notes"] :: entries.map sheetFields).map (·.map some)) ∧
      (∀ e ∈ entries, (sheetFields e).length = 9) ∧
      sheetAmount none = [] ∧
      ∀ x : Binary64, x.isFinite = true →
        Binary64.ofText? (sheetAmount (some x)) = some x := by
  have hread (h : entries ≠ []) :
      Csv.records .ofChars (sheet entries).toList =
        (sheetHeader :: entries.map sheetFields).map (·.map String.toList) := by
    unfold Csv.records
    rw [dropByteOrderMark_sheet h, toList_sheet h, Csv.recordsFrom_writeRecord]
    intro record hrecord
    rw [List.map_cons, List.mem_cons, List.map_map, List.mem_map] at hrecord
    rcases hrecord with rfl | ⟨e, -, rfl⟩ <;> exact List.cons_ne_nil _ _
  refine ⟨⟨fun hempty => ?_, ?_⟩, fun h => ?_, fun e _ => rfl, rfl, fun x hx => ?_⟩
  · by_contra h
    have hnil := hread h
    rw [hempty] at hnil
    cases hnil
  · rintro rfl
    rfl
  · rw [Csv.map_records_bytesOfString, hread h, List.map_map]
    refine List.map_congr_left fun record _ => ?_
    simp
  · exact NumberStyle.ofText?_write (.inl rfl) hx

/-- An entry of which almost every field has to be quoted. -/
def quotedEntry : Entry where
  firstName := "Ann \"Bo\""
  lastName := "Lee, Jr"
  events := [3, 7]
  email := none
  status := .purchased
  grossAmount := some ⟨false, .ofRank 4936209963552724370⟩
  netAmount := some ⟨true, .zero⟩
  notes := ["first\r\nsecond", ""]
  sectionName := some "\r"

/-- The sheet of such an entry is read back, with an exponent in an amount and a zero with a
sign. -/
theorem records_sheet_quoted :
    [quotedEntry] ≠ [] ∧
      (Csv.records .ofBytes (Text.bytesOfString (sheet [quotedEntry]))).map
          (·.map Text.stringOfBytes?) =
        [["last_name", "first_name", "section", "events", "email", "status", "gross_amount",
            "net_amount", "notes"],
          ["Lee, Jr", "Ann \"Bo\"", "\r", "3;7", "", "purchased", "1e22", "-0.0",
            "first\r\nsecond | "]].map (·.map some) ∧
      Binary64.ofText? "1e22".toList = some ⟨false, .ofRank 4936209963552724370⟩ ∧
      Binary64.ofText? "-0.0".toList = some ⟨true, .zero⟩ := by
  obtain ⟨-, hrecords, -, -, hamount⟩ := records_sheet [quotedEntry]
  have hfields : sheetFields quotedEntry = ["Lee, Jr", "Ann \"Bo\"", "\r", "3;7", "", "purchased",
      "1e22", "-0.0", "first\r\nsecond | "] := by
    decide +kernel
  have hgross : sheetAmount quotedEntry.grossAmount = "1e22".toList := by decide +kernel
  have hnet : sheetAmount quotedEntry.netAmount = "-0.0".toList := by decide +kernel
  refine ⟨List.cons_ne_nil _ _, ?_, ?_, ?_⟩
  · have hread := hrecords (List.cons_ne_nil _ _)
    rwa [List.map_singleton, hfields] at hread
  · rw [← hgross]
    exact hamount _ (by decide +kernel)
  · rw [← hnet]
    exact hamount _ (by decide +kernel)

end SkaterLedger.Requests
