import Mathlib.Data.List.Nodup
import SkaterLedger.Store.Import

/-!
# Rows with ids

Tables whose rows have an id are written in few ways: a row is brought up to date by its id or else
added at the end, a row with a new id is added, rows are changed in other columns, rows are taken
away. `Identified` says of such a table that the ids tell its rows apart and that each row is as it
should be; none of these ways of writing breaks it.
-/

namespace SkaterLedger

variable {ρ κ : Type} {id : ρ → κ} {P Q : ρ → Prop} {rows : List ρ}

/-! ## Bringing a row up to date or adding it -/

section Upsert

variable [BEq κ] [LawfulBEq κ] {k : κ} {update : ρ → ρ} {new : ρ}

/-- What holds of all rows, of the rows of an id once they are brought up to date, and of the new
row, holds of all rows afterwards. -/
theorem forall_mem_upsert (hrows : ∀ r ∈ rows, P r) (hupdate : ∀ r ∈ rows, id r = k → P (update r))
    (hnew : P new) : ∀ r ∈ upsert (id · == k) update new rows, P r := by
  induction rows with
  | nil => simpa [upsert] using hnew
  | cons r rows ih =>
    rw [List.forall_mem_cons] at hrows hupdate
    unfold upsert
    split
    · rename_i hid
      exact List.forall_mem_cons.mpr ⟨hupdate.1 (by simpa using hid), hrows.2⟩
    · exact List.forall_mem_cons.mpr ⟨hrows.1, ih hrows.2 hupdate.2⟩

/-- A row is still there afterwards, unless it has the id and was brought up to date. -/
theorem mem_upsert_of_mem {r : ρ} (hr : r ∈ rows) :
    r ∈ upsert (id · == k) update new rows ∨
      id r = k ∧ update r ∈ upsert (id · == k) update new rows := by
  induction rows with
  | nil => simp at hr
  | cons s rows ih =>
    unfold upsert
    split
    · rename_i hid
      rcases List.mem_cons.mp hr with rfl | hr
      · exact .inr ⟨by simpa using hid, List.mem_cons_self⟩
      · exact .inl (List.mem_cons_of_mem _ hr)
    · rcases List.mem_cons.mp hr with rfl | hr
      · exact .inl List.mem_cons_self
      · rcases ih hr with hsame | ⟨hid, hupdated⟩
        · exact .inl (List.mem_cons_of_mem _ hsame)
        · exact .inr ⟨hid, List.mem_cons_of_mem _ hupdated⟩

/-- A row that has the id is brought up to date; its place and its id stay. -/
theorem map_id_upsert_of_mem (hupdate : ∀ r, id (update r) = id r) (hmem : k ∈ rows.map id) :
    (upsert (id · == k) update new rows).map id = rows.map id := by
  induction rows with
  | nil => simp at hmem
  | cons r rows ih =>
    unfold upsert
    split
    · rw [List.map_cons, List.map_cons, hupdate]
    · rename_i hid
      rw [List.map_cons, List.mem_cons] at hmem
      have hrest : k ∈ rows.map id := hmem.resolve_left fun h => hid (by simp [h])
      rw [List.map_cons, List.map_cons, ih hrest]

/-- Where ids tell rows apart, bringing up to date the first row that has an id is bringing up to
date all of them. -/
theorem upsert_eq_map (hids : rows.Pairwise fun a b => id a = k → id a ≠ id b)
    (hmem : k ∈ rows.map id) :
    upsert (id · == k) update new rows = rows.map fun r => if id r == k then update r else r := by
  induction rows with
  | nil => simp at hmem
  | cons r rows ih =>
    rw [List.pairwise_cons] at hids
    rw [List.map_cons]
    unfold upsert
    split
    · rename_i hid
      have hrest : rows.map (fun r => if id r == k then update r else r) = rows := by
        refine (List.map_congr_left fun s hs => if_neg fun hid' => ?_).trans (List.map_id rows)
        exact hids.1 s hs (eq_of_beq hid) ((eq_of_beq hid).trans (eq_of_beq hid').symm)
      rw [hrest]
    · rename_i hid
      rw [List.map_cons, List.mem_cons] at hmem
      rw [ih hids.2 (hmem.resolve_left fun h => hid (by simp [h]))]

/-- Where no row has the id, the new row is added at the end. -/
theorem upsert_of_not_mem (hmem : k ∉ rows.map id) :
    upsert (id · == k) update new rows = rows ++ [new] := by
  induction rows with
  | nil => rfl
  | cons r rows ih =>
    rw [List.map_cons, List.mem_cons, not_or] at hmem
    have hid : (id r == k) = false := beq_eq_false_iff_ne.mpr fun h => hmem.1 h.symm
    rw [upsert, hid, ih hmem.2]
    rfl

/-- The id that was written is there afterwards. -/
theorem mem_map_id_upsert (hupdate : ∀ r, id (update r) = id r) (hnew : id new = k) :
    k ∈ (upsert (id · == k) update new rows).map id := by
  by_cases hmem : k ∈ rows.map id
  · rw [map_id_upsert_of_mem hupdate hmem]
    exact hmem
  · rw [upsert_of_not_mem hmem, List.map_append, List.map_singleton, hnew]
    exact List.mem_append_right _ List.mem_cons_self

/-- The ids that were there stay. -/
theorem map_id_subset_upsert (hupdate : ∀ r, id (update r) = id r) :
    rows.map id ⊆ (upsert (id · == k) update new rows).map id := by
  by_cases hmem : k ∈ rows.map id
  · rw [map_id_upsert_of_mem hupdate hmem]
    exact List.Subset.refl _
  · rw [upsert_of_not_mem hmem, List.map_append]
    exact List.subset_append_left _ _

end Upsert

/-- Changing rows in other columns leaves their ids. -/
theorem map_id_map {update : ρ → ρ} (hupdate : ∀ r, id (update r) = id r) :
    (rows.map update).map id = rows.map id := by
  have hid : id ∘ update = id := funext hupdate
  rw [List.map_map, hid]

/-- The ids that were there stay when rows are changed in other columns. -/
theorem map_id_subset_map {update : ρ → ρ} (hupdate : ∀ r, id (update r) = id r) :
    rows.map id ⊆ (rows.map update).map id := by
  rw [map_id_map hupdate]
  exact List.Subset.refl _

/-! ## Tables with ids -/

/-- The ids of some rows tell them apart, and all rows are as they should be. -/
structure Identified (id : ρ → κ) (P : ρ → Prop) (rows : List ρ) : Prop where
  /-- No two rows have the same id. -/
  distinct : (rows.map id).Nodup
  /-- Every row is as it should be. -/
  each : ∀ r ∈ rows, P r

namespace Identified

/-- A table without rows. -/
theorem nil : Identified id P [] := ⟨List.nodup_nil, by simp⟩

/-- What should be of the rows may be weakened. -/
theorem imp (h : Identified id P rows) (hPQ : ∀ r ∈ rows, P r → Q r) : Identified id Q rows :=
  ⟨h.distinct, fun r hr => hPQ r hr (h.each r hr)⟩

/-- Bringing a row up to date by its id, or adding it. -/
theorem upsert [BEq κ] [LawfulBEq κ] (h : Identified id P rows) {k : κ} {update : ρ → ρ} {new : ρ}
    (hupdate : ∀ r, id (update r) = id r) (hnew : id new = k)
    (heach : ∀ r ∈ rows, id r = k → P r → P (update r)) (hP : P new) :
    Identified id P (SkaterLedger.upsert (id · == k) update new rows) := by
  refine ⟨?_, forall_mem_upsert h.each (fun r hr hid => heach r hr hid (h.each r hr)) hP⟩
  by_cases hmem : k ∈ rows.map id
  · rw [map_id_upsert_of_mem hupdate hmem]
    exact h.distinct
  · rw [upsert_of_not_mem hmem, List.map_append, List.map_singleton, hnew]
    exact List.nodup_append.mpr ⟨h.distinct, List.nodup_singleton k, by
      intro a ha b hb heq
      rw [List.mem_singleton] at hb
      exact hmem (hb ▸ heq ▸ ha)⟩

/-- Adding a row with a new id at the end. -/
theorem append (h : Identified id P rows) {new : ρ} (hfree : ∀ r ∈ rows, id r ≠ id new)
    (hP : P new) : Identified id P (rows ++ [new]) := by
  refine ⟨?_, ?_⟩
  · rw [List.map_append, List.map_singleton]
    refine List.nodup_append.mpr ⟨h.distinct, List.nodup_singleton _, ?_⟩
    intro a ha b hb heq
    obtain ⟨r, hr, rfl⟩ := List.mem_map.mp ha
    rw [List.mem_singleton] at hb
    exact hfree r hr (heq.trans hb)
  · intro r hr
    rcases List.mem_append.mp hr with hr | hr
    · exact h.each r hr
    · rw [List.mem_singleton] at hr
      exact hr ▸ hP

/-- Changing rows in other columns. -/
theorem map (h : Identified id P rows) {update : ρ → ρ} (hupdate : ∀ r, id (update r) = id r)
    (heach : ∀ r ∈ rows, P r → P (update r)) : Identified id P (rows.map update) := by
  refine ⟨?_, ?_⟩
  · rw [map_id_map hupdate]
    exact h.distinct
  · rw [List.forall_mem_map]
    exact fun r hr => heach r hr (h.each r hr)

/-- Taking rows away. -/
theorem sublist (h : Identified id P rows) {rows' : List ρ} (hsub : rows'.Sublist rows) :
    Identified id P rows' :=
  ⟨h.distinct.sublist (hsub.map id), fun r hr => h.each r (hsub.subset hr)⟩

/-- No two rows share an id, even if one id were allowed to be shared. -/
theorem pairwise_ne (h : Identified id P rows) (k : κ) :
    rows.Pairwise fun a b => id a ≠ k → id a ≠ id b := by
  refine (List.pairwise_map.mp h.distinct).imp ?_
  exact fun hne _ => hne

/-- Of each id there is one row. -/
theorem filter_eq_singleton [BEq κ] [LawfulBEq κ] (h : Identified id P rows) {r : ρ}
    (hr : r ∈ rows) : (rows.filter fun s => id s == id r) = [r] := by
  obtain ⟨before, after, rfl⟩ := List.append_of_mem hr
  have hids := h.distinct
  rw [List.map_append, List.map_cons, List.nodup_append] at hids
  obtain ⟨-, hafter, hbefore⟩ := hids
  rw [List.nodup_cons] at hafter
  have hnone₁ : (before.filter fun s => id s == id r) = [] := by
    rw [List.filter_eq_nil_iff]
    intro s hs heq
    exact hbefore _ (List.mem_map_of_mem hs) _ List.mem_cons_self (eq_of_beq heq)
  have hnone₂ : (after.filter fun s => id s == id r) = [] := by
    rw [List.filter_eq_nil_iff]
    intro s hs heq
    exact hafter.1 (eq_of_beq heq ▸ List.mem_map_of_mem hs)
  have hself : (id r == id r) = true := beq_self_eq_true _
  rw [List.filter_append, List.filter_cons_of_pos (p := fun s => id s == id r) hself, hnone₁,
    hnone₂, List.nil_append]

end Identified

end SkaterLedger
