import Mathlib.Data.List.Basic
import SkaterLedger.Proofs.Outcome
import SkaterLedger.Relations.Plan

/-!
# Well-formed ids

An id is well-formed if it reads `table:key` with a table of ASCII letters, digits and underscores
and a key that is not blank. Reading an id succeeds on these and on no others, and a plan is made
exactly when every id of every relation is well-formed (`DeletionPlan.make_eq_ok_iff`).
-/

namespace SkaterLedger

namespace RecordId

/-- A text is a table name, a colon and a key: the name has at least one character and only letters,
digits and underscores, and some character of the key is not blank. -/
def WellFormed (s : String) : Prop :=
  ∃ table key, s.toList = table ++ ':' :: key ∧ table ≠ [] ∧ (∀ c ∈ table, isTableChar c) ∧
    ∃ c ∈ key, ¬ Text.isBlank c

/-- The parts of an id are in order: the table is a name and the key not blank. -/
structure Valid (r : RecordId) : Prop where
  /-- The table's name has a character. -/
  table_ne : r.table ≠ ""
  /-- It has only letters, digits and underscores. -/
  isTableChar : ∀ c ∈ r.table.toList, RecordId.isTableChar c
  /-- Some character of the key is not blank. -/
  key : ∃ c ∈ r.key.toList, ¬ Text.isBlank c

/-- The characters of an id as it is shown. -/
theorem toList_toText (r : RecordId) :
    r.toText.toList = r.table.toList ++ ':' :: r.key.toList := by
  simp [toText]

/-- A text is cut at a colon exactly when no colon stands before it. -/
theorem cutAtColon_eq_some_iff {cs table key : List Char} :
    cutAtColon cs = some (table, key) ↔ cs = table ++ ':' :: key ∧ ':' ∉ table := by
  -- The table grows by one character with every step, so the induction is for all tables.
  induction cs generalizing table with
  | nil => simp [cutAtColon]
  | cons c cs ih =>
    by_cases hc : c = ':'
    · subst hc
      cases table with
      | nil => simp [cutAtColon]
      | cons d table =>
        simp only [cutAtColon, beq_self_eq_true, if_true, Option.some.injEq, Prod.mk.injEq,
          List.cons_append, List.cons.injEq, List.mem_cons, not_or]
        constructor
        · rintro ⟨h, -⟩
          simp at h
        · rintro ⟨⟨hd, -⟩, hne, -⟩
          exact absurd hd hne
    · have hne : ':' ≠ c := fun h => hc h.symm
      cases table with
      | nil => simp [cutAtColon, hc]
      | cons d table =>
        simp only [cutAtColon, beq_iff_eq, hc, if_false, Option.map_eq_some_iff, Prod.exists,
          Prod.mk.injEq, List.cons.injEq, List.cons_append, List.mem_cons, not_or]
        constructor
        · rintro ⟨table', key', h, ⟨rfl, rfl⟩, rfl⟩
          obtain ⟨rfl, hmem⟩ := ih.mp h
          exact ⟨⟨rfl, rfl⟩, hne, hmem⟩
        · rintro ⟨⟨rfl, rfl⟩, -, hmem⟩
          exact ⟨table, key, ih.mpr ⟨rfl, hmem⟩, ⟨rfl, rfl⟩, rfl⟩

/-- A text reads as an id exactly if it is what the id is shown as and the id's parts are in order. -/
theorem ofText?_eq_some_iff {s : String} {r : RecordId} :
    ofText? s = some r ↔ r.toText = s ∧ r.Valid := by
  constructor
  · intro h
    obtain ⟨⟨table, key⟩, hcut, hif⟩ := Option.bind_eq_some_iff.mp h
    dsimp only at hif
    split at hif
    · rename_i hcond
      obtain rfl := Option.some.inj hif
      simp only [Bool.and_eq_true, Bool.not_eq_true', List.isEmpty_eq_false_iff,
        List.all_eq_true] at hcond
      obtain ⟨⟨hne, htable⟩, hkey⟩ := hcond
      refine ⟨?_, ⟨by simpa using hne, by simpa using htable, by simpa [Text.allBlank] using hkey⟩⟩
      rw [← String.toList_inj, toList_toText, String.toList_ofList, String.toList_ofList,
        (cutAtColon_eq_some_iff.mp hcut).1]
    · simp at hif
  · rintro ⟨rfl, hne, htable, c, hc, hblank⟩
    -- A colon is no character of a table, so the first one of the text is the one in between.
    have hcolon : ':' ∉ r.table.toList := fun h => absurd (htable _ h) (by decide)
    have hcut := cutAtColon_eq_some_iff.mpr ⟨toList_toText r, hcolon⟩
    have hkey : Text.allBlank r.key.toList = false :=
      List.all_eq_false.mpr ⟨c, hc, by simpa using hblank⟩
    simpa [ofText?, hcut, hne, hkey] using htable

/-- The well-formed texts are those that ids with parts in order are shown as. -/
theorem wellFormed_iff_exists {s : String} :
    WellFormed s ↔ ∃ r : RecordId, r.toText = s ∧ r.Valid := by
  constructor
  · rintro ⟨table, key, hs, hne, htable, hkey⟩
    refine ⟨⟨String.ofList table, String.ofList key⟩, ?_,
      ⟨by simpa using hne, by simpa using htable, by simpa using hkey⟩⟩
    rw [← String.toList_inj, toList_toText, hs, String.toList_ofList, String.toList_ofList]
  · rintro ⟨r, rfl, hne, htable, hkey⟩
    exact ⟨r.table.toList, r.key.toList, toList_toText r, by simpa using hne, htable, hkey⟩

/-- Ids are read exactly when they are well-formed. -/
theorem ofText?_isSome_iff {s : String} : (ofText? s).isSome ↔ WellFormed s := by
  simp only [Option.isSome_iff_exists, ofText?_eq_some_iff, wellFormed_iff_exists]

/-- The id in a field passes its check exactly when it is well-formed. -/
theorem parse_isOk_iff {field : IdField} {s : String} :
    (∃ r, parse field s = .ok r) ↔ WellFormed s := by
  rw [← ofText?_isSome_iff, parse]
  cases ofText? s <;> simp

end RecordId

namespace Relation

/-- The relation's own id and those of its skater and its event are well-formed. -/
structure WellFormed (r : Relation) : Prop where
  /-- The relation's own id. -/
  id : RecordId.WellFormed r.id
  /-- The skater's id. -/
  subject : RecordId.WellFormed r.subject
  /-- The event's id. -/
  target : RecordId.WellFormed r.target

/-- The check of a relation's ids passes exactly the well-formed ones. -/
theorem checkIds_eq_ok_iff {r : Relation} : r.checkIds = .ok () ↔ r.WellFormed := by
  simp only [checkIds, bind_eq_ok_iff]
  constructor
  · rintro ⟨a, ha, b, hb, c, hc, -⟩
    exact ⟨RecordId.parse_isOk_iff.mp ⟨a, ha⟩, RecordId.parse_isOk_iff.mp ⟨b, hb⟩,
      RecordId.parse_isOk_iff.mp ⟨c, hc⟩⟩
  · rintro ⟨hid, hsubject, htarget⟩
    obtain ⟨a, ha⟩ := RecordId.parse_isOk_iff.mpr hid
    obtain ⟨b, hb⟩ := RecordId.parse_isOk_iff.mpr hsubject
    obtain ⟨c, hc⟩ := RecordId.parse_isOk_iff.mpr htarget
    exact ⟨a, ha, b, hb, c, hc, rfl⟩

/-- The checks of some relations pass exactly when all of them are well-formed. -/
theorem forM_checkIds_eq_ok_iff {relations : List Relation} :
    relations.forM checkIds = .ok () ↔ ∀ r ∈ relations, r.WellFormed := by
  simp only [forM_eq_ok_iff, checkIds_eq_ok_iff]

end Relation

/-- A plan is made exactly when every id is well-formed. -/
theorem DeletionPlan.make_eq_ok_iff {labels : Labels} {relations : List Relation}
    {plan : DeletionPlan} :
    make labels relations = .ok plan ↔
      (∀ r ∈ relations, r.WellFormed) ∧ build labels relations = plan := by
  simp only [make, bind_eq_ok_iff, ← Relation.forM_checkIds_eq_ok_iff, Except.ok.injEq]
  exact ⟨fun ⟨_, h⟩ => h, fun h => ⟨(), h⟩⟩

end SkaterLedger
