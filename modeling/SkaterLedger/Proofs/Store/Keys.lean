import Mathlib.Data.List.Basic
import SkaterLedger.Proofs.Outcome
import SkaterLedger.Store.Rows

/-!
# Keys

A table's keys tell its rows apart: no two rows have the same values in all columns of a key. Adding
a row checks this against the rows that are there, and taking rows away cannot break it, so it holds
of every table that was filled row by row. For relations it says that no two of them share an id.
-/

namespace SkaterLedger

namespace Cell

/-- Sharing a value is symmetric. -/
theorem sameValue_comm (a b : Cell) : sameValue a b = sameValue b a := by
  by_cases h : a = b
  · rw [h]
  · have hab : (a == b) = false := beq_eq_false_iff_ne.mpr h
    have hba : (b == a) = false := beq_eq_false_iff_ne.mpr fun hba => h hba.symm
    rw [sameValue, sameValue, hab, hba, Bool.and_false, Bool.and_false]

end Cell

namespace Shape

variable {ρ : Type} {shape : Shape ρ} {rows rows' : List ρ}

/-- No two rows of a table agree in all columns of one of its keys. -/
def KeysHold (shape : Shape ρ) (rows : List ρ) : Prop :=
  rows.Pairwise fun a b => ∀ key ∈ shape.keys, shape.agree key a b = false

/-- Agreeing in the columns of a key is symmetric. -/
theorem agree_comm (shape : Shape ρ) (key : List String) (a b : ρ) :
    shape.agree key a b = shape.agree key b a := by
  unfold agree
  exact List.all_congr rfl fun _ => Cell.sameValue_comm _ _

/-- The keys hold of fewer rows as well. -/
theorem KeysHold.sublist (h : shape.KeysHold rows) (hsub : rows'.Sublist rows) :
    shape.KeysHold rows' :=
  List.Pairwise.sublist hsub h

/-- A row that agrees with none of the rows may be added to them. -/
theorem KeysHold.append (h : shape.KeysHold rows) {r : ρ}
    (hr : ∀ a ∈ rows, ∀ key ∈ shape.keys, shape.agree key a r = false) :
    shape.KeysHold (rows ++ [r]) := by
  refine List.pairwise_append.mpr ⟨h, List.pairwise_singleton _ _, fun a ha b hb => ?_⟩
  obtain rfl := List.mem_singleton.mp hb
  exact hr a ha

/-- A row that passes the check agrees with none of the rows. -/
theorem agree_eq_false_of_check {r : ρ} (h : shape.check r rows = .ok ()) :
    ∀ a ∈ rows, ∀ key ∈ shape.keys, shape.agree key a r = false := by
  unfold check at h
  split at h
  · cases h
  · split at h
    · cases h
    · rename_i hnone
      intro a ha key hkey
      have hany := List.find?_eq_none.mp hnone key hkey
      rw [agree_comm]
      exact Bool.eq_false_iff.mpr fun hagree => hany (List.any_eq_true.mpr ⟨a, ha, hagree⟩)

/-- Adding a row leaves the keys in force. -/
theorem KeysHold.insert (h : shape.KeysHold rows) {values : List (String × Cell)}
    (hinsert : shape.insert values rows = .ok rows') : shape.KeysHold rows' := by
  simp only [Shape.insert, bind_eq_ok_iff, Except.ok.injEq] at hinsert
  obtain ⟨_, _, _, hcheck, rfl⟩ := hinsert
  exact h.append (agree_eq_false_of_check hcheck)

/-- Where an id is the only key, the keys hold if no two rows share an id. -/
theorem keysHold_iff_of_id {id : ρ → Cell} (hkeys : shape.keys = [["id"]])
    (hcell : ∀ r, shape.cell "id" r = id r) :
    shape.KeysHold rows ↔ rows.Pairwise fun a b => id a ≠ .null → id a ≠ id b := by
  have hagree (a b : ρ) : shape.agree ["id"] a b = (id a).sameValue (id b) := by
    unfold agree
    rw [List.all_cons, List.all_nil, Bool.and_true, hcell, hcell]
  simp only [KeysHold, hkeys, List.forall_mem_singleton, hagree, Cell.sameValue,
    Bool.and_eq_false_imp, bne_iff_ne, beq_eq_false_iff_ne]

/-- The key of relations is their id. -/
theorem competedIn_agree (a b : RelationRow) :
    competedIn.agree ["id"] a b = a.id.sameValue b.id := by
  simp [agree, cell, named, competedIn, Column.text]

/-- The keys of relations hold if no two rows share an id. -/
theorem competedIn_keysHold_iff {rows : List RelationRow} :
    competedIn.KeysHold rows ↔ rows.Pairwise fun a b => a.id ≠ .null → a.id ≠ b.id :=
  keysHold_iff_of_id rfl fun _ => rfl

/-- The keys of families hold if no two rows share an id. -/
theorem families_keysHold_iff {rows : List FamilyRow} :
    families.KeysHold rows ↔ rows.Pairwise fun a b => a.id ≠ .null → a.id ≠ b.id :=
  keysHold_iff_of_id rfl fun _ => rfl

/-- The keys of links hold only if no two rows lead from one skater to one family. -/
theorem KeysHold.pairs {rows : List LinkRow} (h : belongsTo.KeysHold rows) :
    rows.Pairwise fun a b =>
      a.inId ≠ .null → a.outId ≠ .null → a.inId = b.inId → a.outId ≠ b.outId := by
  refine h.imp fun {a b} hab hin hout hsame => ?_
  have hcells (r : LinkRow) : belongsTo.cell "in_id" r = r.inId ∧
      belongsTo.cell "out_id" r = r.outId := ⟨rfl, rfl⟩
  have hagree : belongsTo.agree ["in_id", "out_id"] a b =
      (a.inId.sameValue b.inId && a.outId.sameValue b.outId) := by
    unfold agree
    rw [List.all_cons, List.all_cons, List.all_nil, Bool.and_true, (hcells a).1, (hcells a).2,
      (hcells b).1, (hcells b).2]
  have hdiffer := hab ["in_id", "out_id"] List.mem_cons_self
  rw [hagree] at hdiffer
  simpa [Cell.sameValue, ← hsame, hin, hout] using hdiffer

end Shape

end SkaterLedger
