import Mathlib.Data.List.Forall2
import SkaterLedger.Proofs.Outcome
import SkaterLedger.Proofs.Store.Keys
import SkaterLedger.Store.Query

/-!
# Reading relations

The relations of a store are its rows read one by one, in their order. What reading them says about
the rows, so that what is planned over relations can be carried out on rows.
-/

namespace SkaterLedger

namespace Cell

variable {c : Cell} {index : ℕ} {column : String}

/-- Reading a text gives the text that the cell holds. -/
theorem getText_eq_ok_iff {s : String} : c.getText index column = .ok s ↔ c = .text s := by
  cases c <;> simp [getText]

end Cell

namespace Store

/-- A table's contents are had exactly if it exists. -/
theorem need_eq_ok_iff {α : Type} {table : Table} {o : Option α} {a : α} :
    need table o = .ok a ↔ o = some a := by
  cases o <;> simp [need]

/-- Rows are read as relations: one by one and in their order. -/
def ReadAs (rows : List RelationRow) (relations : List Relation) : Prop :=
  List.Forall₂ (fun row r => relationOfRow row = .ok r) rows relations

/-- The ids in a row are those of the relation that it is read as. -/
theorem ids_of_relationOfRow {row : RelationRow} {r : Relation} (h : relationOfRow row = .ok r) :
    row.id = .text r.id ∧ row.inId = .text r.subject ∧ row.outId = .text r.target := by
  simp only [relationOfRow, bind_eq_ok_iff, Except.ok.injEq, Cell.getText_eq_ok_iff] at h
  obtain ⟨_, hid, _, hsubject, _, htarget, _, _, _, _, _, _, _, _, _, _, _, _, _, _, rfl⟩ := h
  exact ⟨hid, hsubject, htarget⟩

/-- Rows are read as some relations exactly when reading them in turn gives these. -/
theorem readAs_iff {rows : List RelationRow} {relations : List Relation} :
    ReadAs rows relations ↔ rows.mapM relationOfRow = .ok relations :=
  mapM_eq_ok_iff.symm

/-- The relations of a store are the ones that its rows are read as. -/
theorem relations_eq_ok_iff {s : Store} {relations : List Relation} :
    s.relations = .ok relations ↔ ∃ rows, s.competedIn = some rows ∧ ReadAs rows relations := by
  simp only [Store.relations, bind_eq_ok_iff, need_eq_ok_iff, readAs_iff]

namespace ReadAs

variable {rows rows' : List RelationRow} {relations relations' : List Relation}

/-- There are as many relations as rows. -/
theorem length_eq (h : ReadAs rows relations) : rows.length = relations.length :=
  List.Forall₂.length_eq h

/-- The relation at a position is read from the row there. -/
theorem relationOfRow_getElem (h : ReadAs rows relations) {i : ℕ} (hi : i < rows.length)
    (hi' : i < relations.length) : relationOfRow rows[i] = .ok relations[i] :=
  List.Forall₂.get h hi hi'

/-- Reading rows and then others is reading all of them. -/
theorem append (h : ReadAs rows relations) (h' : ReadAs rows' relations') :
    ReadAs (rows ++ rows') (relations ++ relations') :=
  List.rel_append h h'

/-- The ids of the rows are the ids of the relations. -/
theorem map_id (h : ReadAs rows relations) :
    rows.map RelationRow.id = relations.map fun r => .text r.id := by
  induction h with
  | nil => rfl
  | cons hread _ ih => rw [List.map_cons, List.map_cons, ih, (ids_of_relationOfRow hread).1]

/-- If the ids of the rows are different, so are those of the relations. -/
theorem nodup_ids (h : ReadAs rows relations)
    (hne : rows.Pairwise fun a b => a.id ≠ .null → a.id ≠ b.id) :
    (relations.map Relation.id).Nodup := by
  have hrows : (rows.map RelationRow.id).Pairwise fun a b => a ≠ .null → a ≠ b :=
    List.pairwise_map.mpr hne
  -- The id of a row that can be read is a text, so it is not missing.
  rw [h.map_id, List.pairwise_map] at hrows
  refine List.pairwise_map.mpr (hrows.imp fun {a b} hne heq => ?_)
  exact hne (by simp) (congrArg Cell.text heq)

/-- Rows that are picked by their ids are read as the relations of these ids. -/
theorem filter (h : ReadAs rows relations) (pick : Cell → Bool) :
    ReadAs (rows.filter fun row => pick row.id) (relations.filter fun r => pick (.text r.id)) := by
  refine List.rel_filter (fun row r hread => ?_) h
  change pick row.id = true ↔ pick (.text r.id) = true
  rw [(ids_of_relationOfRow hread).1]

/-- Where ids tell rows apart, rows that can be read are none of those before them. -/
theorem not_mem_of_keysHold (h : ReadAs rows' relations)
    (hkeys : Shape.competedIn.KeysHold (rows ++ rows')) : ∀ row ∈ rows', row ∉ rows := by
  intro row hnew hold
  rw [Shape.competedIn_keysHold_iff, List.pairwise_append] at hkeys
  have hne := hkeys.2.2 row hold row hnew
  have hid : row.id ∈ relations.map fun r => Cell.text r.id := by
    rw [← h.map_id]
    exact List.mem_map_of_mem hnew
  obtain ⟨r, -, hr⟩ := List.mem_map.mp hid
  exact hne (by simp [← hr]) rfl

/-- Some of the rows are read as some of the relations. -/
theorem sublist (h : ReadAs rows relations) (h' : ReadAs rows' relations')
    (hsub : rows'.Sublist rows) : relations'.Sublist relations := by
  induction hsub generalizing relations relations' with
  | slnil =>
    cases h'
    exact List.nil_sublist _
  | cons row _ ih =>
    obtain ⟨r, rest, -, hrest, rfl⟩ := List.forall₂_cons_left_iff.mp h
    exact (ih hrest h').cons r
  | cons_cons row _ ih =>
    obtain ⟨r, rest, hr, hrest, rfl⟩ := List.forall₂_cons_left_iff.mp h
    obtain ⟨r', rest', hr', hrest', rfl⟩ := List.forall₂_cons_left_iff.mp h'
    -- A row is read in one way only.
    obtain rfl := Except.ok.inj (hr.symm.trans hr')
    exact (ih hrest hrest').cons_cons r

end ReadAs

end Store

end SkaterLedger
