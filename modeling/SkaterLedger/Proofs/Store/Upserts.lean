import Mathlib.Data.List.Basic
import SkaterLedger.Proofs.Store.Identity

/-!
# Many rows brought up to date

An import writes rows of one table by their ids, one after another: a row that is there is brought
up to date, another one is added at the end. `RowWriting.writeAll_eq` says what that comes to as a
whole. Every row that was there keeps its place and gets the changes that are for its id, in their
order; then there are new rows, one for each id that no row had, in the order in which the ids come
first. Writing the same once more finds all ids and changes nothing if it changes no single row
(`RowWriting.writeAll_again`).
-/

namespace SkaterLedger

/-- The ids that no row has, each once and in the order in which they come first. -/
def unlisted {ρ : Type} (id : ρ → Cell) (ids : List String) (rows : List ρ) : List String :=
  ids.eraseDups.filter fun i => .text i ∉ rows.map id

/-- How rows of a table are written by their ids. -/
structure RowWriting (ι ρ : Type) where
  /-- The id of a row. -/
  id : ρ → Cell
  /-- The id of the row that something is about. -/
  key : ι → String
  /-- The row once this is written. -/
  update : ι → ρ → ρ
  /-- A new row of an id, before anything is written. -/
  blank : String → ρ
  /-- Writing leaves the id. -/
  id_update : ∀ x r, id (update x r) = id r
  /-- A new row has its id. -/
  id_blank : ∀ i, id (blank i) = .text i

/-- Taking out repetitions and picking elements can be done in either order. -/
theorem eraseDups_filter {α : Type} [BEq α] [LawfulBEq α] (p : α → Bool) (l : List α) :
    (l.filter p).eraseDups = l.eraseDups.filter p := by
  -- What equals the first element goes before the rest is looked at, so the induction is on the
  -- length and not on the list.
  induction h : l.length using Nat.strongRecOn generalizing l with
  | ind n ih =>
    cases l with
    | nil => rfl
    | cons a l =>
      have hshort : (l.filter fun b => !b == a).length < n := by
        rw [← h, List.length_cons]
        exact Nat.lt_succ_of_le (List.length_filter_le _ _)
      have hrest := ih _ hshort (l.filter fun b => !b == a) rfl
      rw [List.filter_comm] at hrest
      rw [List.eraseDups_cons]
      by_cases ha : p a = true
      · rw [List.filter_cons_of_pos ha, List.filter_cons_of_pos ha, List.eraseDups_cons, hrest]
      · -- The elements that are picked are then different from the first one anyway.
        have hnone : (l.filter p).filter (fun b => !b == a) = l.filter p := by
          refine List.filter_eq_self.mpr fun b hb => ?_
          have hne : b ≠ a := fun heq => ha (heq ▸ (List.mem_filter.mp hb).2)
          simpa using hne
        rw [List.filter_cons_of_neg ha, List.filter_cons_of_neg ha, ← hrest, hnone]

/-- An element that is added at the end stays only if it is not there already. -/
theorem eraseDups_concat {α : Type} [BEq α] [LawfulBEq α] (l : List α) (a : α) :
    (l ++ [a]).eraseDups = if l.contains a then l.eraseDups else l.eraseDups ++ [a] := by
  rw [List.eraseDups_append]
  by_cases ha : l.contains a
  · have hnone : [a].removeAll l = [] := by simpa [List.removeAll] using ha
    rw [if_pos ha, hnone, List.eraseDups_nil, List.append_nil]
  · have hsame : [a].removeAll l = [a] := by simpa [List.removeAll] using ha
    rw [if_neg ha, hsame, List.eraseDups_cons, List.filter_nil, List.eraseDups_nil]

/-- The first element of each key, in the order in which the keys come first. -/
def firstOfEach {α : Type} (key : α → String) (xs : List α) : List α :=
  (xs.map key).eraseDups.filterMap fun k => xs.find? fun x => key x == k

section FirstOfEach

variable {α : Type} {key : α → String} {xs : List α} {x : α}

/-- A key that an element has is the key of a first element. -/
theorem exists_find?_key {k : String} (hk : k ∈ xs.map key) :
    ∃ y, xs.find? (fun x => key x == k) = some y ∧ key y = k := by
  obtain ⟨x, hx, rfl⟩ := List.mem_map.mp hk
  have hsome : (xs.find? fun y => key y == key x).isSome = true :=
    List.find?_isSome.mpr ⟨x, hx, beq_iff_eq.mpr rfl⟩
  obtain ⟨y, hy⟩ := Option.isSome_iff_exists.mp hsome
  have hsame := List.find?_some hy
  exact ⟨y, hy, eq_of_beq hsame⟩

/-- The first elements have all keys, each once. -/
theorem map_firstOfEach : (firstOfEach key xs).map key = (xs.map key).eraseDups := by
  have hfound : ∀ k ∈ (xs.map key).eraseDups,
      (xs.find? fun x => key x == k).map key = some k := by
    intro k hk
    obtain ⟨y, hy, hkey⟩ := exists_find?_key (List.mem_eraseDups.mp hk)
    rw [hy, Option.map_some, hkey]
  unfold firstOfEach
  rw [List.map_filterMap, List.filterMap_congr hfound, List.filterMap_some]

/-- An element at the end is the first one of its key if no other has the key. -/
theorem firstOfEach_concat : firstOfEach key (xs ++ [x]) =
    if key x ∈ xs.map key then firstOfEach key xs else firstOfEach key xs ++ [x] := by
  have hold : ∀ k ∈ (xs.map key).eraseDups,
      (xs ++ [x]).find? (fun y => key y == k) = xs.find? fun y => key y == k := by
    intro k hk
    obtain ⟨y, hy, -⟩ := exists_find?_key (List.mem_eraseDups.mp hk)
    rw [List.find?_append, hy, Option.some_or]
  unfold firstOfEach
  rw [List.map_append, List.map_singleton, eraseDups_concat]
  by_cases hmem : key x ∈ xs.map key
  · rw [if_pos (by simpa using hmem), if_pos hmem, List.filterMap_congr hold]
  · have hnone : xs.find? (fun y => key y == key x) = none := by
      refine List.find?_eq_none.mpr fun y hy heq => hmem ?_
      exact eq_of_beq heq ▸ List.mem_map_of_mem hy
    have hnew : (xs ++ [x]).find? (fun y => key y == key x) = some x := by
      rw [List.find?_append, hnone, Option.none_or]
      exact List.find?_cons_of_pos (beq_iff_eq.mpr rfl)
    have hlast : [key x].filterMap (fun k => (xs ++ [x]).find? fun y => key y == k) = [x] :=
      List.filterMap_cons_some hnew
    rw [if_neg (by simpa using hmem), if_neg hmem, List.filterMap_append,
      List.filterMap_congr hold, hlast]

end FirstOfEach

section Unlisted

variable {ρ : Type} {id : ρ → Cell} {ids : List String} {rows : List ρ} {i : String} {r : ρ}

/-- The ids that are left over are those that were given and that no row has. -/
theorem mem_unlisted_iff : i ∈ unlisted id ids rows ↔ i ∈ ids ∧ .text i ∉ rows.map id := by
  unfold unlisted
  rw [List.mem_filter, List.mem_eraseDups, decide_eq_true_eq]

/-- An id that a row has is not left over. -/
theorem unlisted_cons_of_mem (h : .text i ∈ rows.map id) :
    unlisted id (i :: ids) rows = unlisted id ids rows := by
  have hnone : ids.eraseDups.filter (fun j => (!j == i) && decide (Cell.text j ∉ rows.map id)) =
      ids.eraseDups.filter fun j => .text j ∉ rows.map id := by
    refine List.filter_congr fun j _ => ?_
    by_cases hj : j = i
    · simp [hj, h]
    · simp [hj]
  unfold unlisted
  rw [List.eraseDups_cons, List.filter_cons_of_neg (by simpa using h), eraseDups_filter,
    List.filter_filter]
  simpa only [Bool.and_comm] using hnone

/-- An id that no row has comes first, and is not left over once it has a row at the end. -/
theorem unlisted_cons_of_not_mem (h : .text i ∉ rows.map id) (hr : id r = .text i) :
    unlisted id (i :: ids) rows = i :: unlisted id ids (rows ++ [r]) := by
  unfold unlisted
  rw [List.eraseDups_cons, List.filter_cons_of_pos (by simpa using h), eraseDups_filter,
    List.filter_filter]
  refine congrArg (i :: ·) (List.filter_congr fun j _ => ?_)
  rw [List.map_append, List.map_singleton, hr]
  by_cases hj : j = i
  · simp [hj]
  · simp [hj]

/-- If all ids have rows, none is left over. -/
theorem unlisted_eq_nil (h : ∀ i ∈ ids, .text i ∈ rows.map id) : unlisted id ids rows = [] := by
  refine List.eq_nil_iff_forall_not_mem.mpr fun i hi => ?_
  obtain ⟨hmem, hnot⟩ := mem_unlisted_iff.mp hi
  exact hnot (h i hmem)

end Unlisted

namespace RowWriting

variable {ι ρ : Type} (w : RowWriting ι ρ)

/-- A new row for something. -/
def new (x : ι) : ρ := w.update x (w.blank (w.key x))

/-- A row once something is written, which may be about another row. -/
def change (x : ι) (r : ρ) : ρ := if w.id r == .text (w.key x) then w.update x r else r

/-- Writes one thing. -/
def write (x : ι) (rows : List ρ) : List ρ :=
  upsert (w.id · == .text (w.key x)) (w.update x) (w.new x) rows

/-- Writes things one after another. -/
def writeAll (xs : List ι) (rows : List ρ) : List ρ := xs.foldl (fun rows x => w.write x rows) rows

/-- A row after all that is written about it. -/
def after (xs : List ι) (r : ρ) : ρ :=
  (xs.filter fun x => .text (w.key x) == w.id r).foldl (fun r x => w.update x r) r

/-- The ids of rows tell them apart. -/
def Apart (rows : List ρ) : Prop := rows.Pairwise fun a b => w.id a ≠ .null → w.id a ≠ w.id b

variable {w} {x : ι} {xs : List ι} {rows : List ρ} {r : ρ} {c : Cell}

/-! ## One thing -/

/-- A new row has the id that it was made for. -/
theorem id_new : w.id (w.new x) = .text (w.key x) := (w.id_update _ _).trans (w.id_blank _)

/-- What is written leaves the ids of rows. -/
theorem id_change : w.id (w.change x r) = w.id r := by
  unfold change
  split
  · exact w.id_update x r
  · rfl

/-- A row of the id that something is about is brought up to date. -/
theorem change_of_eq (h : w.id r = .text (w.key x)) : w.change x r = w.update x r :=
  if_pos (beq_iff_eq.mpr h)

/-- Other rows are left alone. -/
theorem change_of_ne (h : w.id r ≠ .text (w.key x)) : w.change x r = r :=
  if_neg fun heq => h (eq_of_beq heq)

/-- Changes that leave the ids of rows leave them apart. -/
theorem Apart.map (h : w.Apart rows) {f : ρ → ρ} (hf : ∀ r, w.id (f r) = w.id r) :
    w.Apart (rows.map f) := by
  refine List.pairwise_map.mpr (h.imp fun {a b} hab => ?_)
  rw [hf, hf]
  exact hab

/-- A row that is there is changed in its place. -/
theorem write_of_mem (h : w.Apart rows) (hmem : .text (w.key x) ∈ rows.map w.id) :
    w.write x rows = rows.map (w.change x) := by
  refine upsert_eq_map (h.imp fun {a b} hab hid => hab ?_) hmem
  rw [hid]
  exact Cell.noConfusion

/-- A row that is not there is added at the end. -/
theorem write_of_not_mem (hmem : .text (w.key x) ∉ rows.map w.id) :
    w.write x rows = rows ++ [w.new x] :=
  upsert_of_not_mem hmem

/-- Writing leaves rows apart. -/
theorem Apart.write (h : w.Apart rows) : w.Apart (w.write x rows) := by
  by_cases hmem : .text (w.key x) ∈ rows.map w.id
  · rw [write_of_mem h hmem]
    exact h.map fun _ => id_change
  · rw [write_of_not_mem hmem]
    refine List.pairwise_append.mpr ⟨h, List.pairwise_singleton _ _, fun a ha b hb _ heq => ?_⟩
    rw [List.mem_singleton.mp hb, id_new] at heq
    exact hmem (heq ▸ List.mem_map_of_mem ha)

/-- Rows that are picked by their ids are left alone if the id that something is about is not among
those that are picked. -/
theorem filter_write {p : Cell → Bool} (h : p (.text (w.key x)) = false) (rows : List ρ) :
    (w.write x rows).filter (fun r => p (w.id r)) = rows.filter fun r => p (w.id r) := by
  unfold write
  induction rows with
  | nil => simp [upsert, id_new, h]
  | cons r rows ih =>
    unfold upsert
    split
    · rename_i hid
      have hr : p (w.id r) = false := eq_of_beq hid ▸ h
      simp [w.id_update, hr]
    · simp [List.filter_cons, ih]

/-! ## Many things -/

/-- What is written leaves the id of a row. -/
theorem id_after : w.id (w.after xs r) = w.id r := by
  unfold after
  generalize xs.filter _ = ys
  induction ys generalizing r with
  | nil => rfl
  | cons y ys ih => rw [List.foldl_cons, ih, w.id_update]

/-- What is written first is written before the rest. -/
theorem after_cons : w.after (x :: xs) r = w.after xs (w.change x r) := by
  unfold after
  rw [id_change]
  by_cases hid : w.id r = .text (w.key x)
  · have hpos : (Cell.text (w.key x) == w.id r) = true := beq_iff_eq.mpr hid.symm
    simp only [List.filter_cons, hpos, if_true, List.foldl_cons, change_of_eq hid]
  · have hneg : (Cell.text (w.key x) == w.id r) = false :=
      beq_eq_false_iff_ne.mpr fun heq => hid heq.symm
    simp only [List.filter_cons, hneg, Bool.false_eq_true, if_false, change_of_ne hid]

/-- So are they if this holds of all things that are written. -/
theorem filter_writeAll {p : Cell → Bool} (h : ∀ x ∈ xs, p (.text (w.key x)) = false)
    (rows : List ρ) :
    (w.writeAll xs rows).filter (fun r => p (w.id r)) = rows.filter fun r => p (w.id r) := by
  induction xs generalizing rows with
  | nil => rfl
  | cons x xs ih =>
    rw [List.forall_mem_cons] at h
    exact (ih h.2 (w.write x rows)).trans (filter_write h.1 rows)

/-- Writing things leaves rows apart. -/
theorem Apart.writeAll (h : w.Apart rows) : w.Apart (w.writeAll xs rows) := by
  induction xs generalizing rows with
  | nil => exact h
  | cons x xs ih => exact ih h.write

/-- Writing things one after another: the rows that are there stay in place with all that is written
about them, and the ids that had no row get one each, at the end and in order. -/
theorem writeAll_eq (h : w.Apart rows) :
    w.writeAll xs rows = rows.map (w.after xs) ++
      (unlisted w.id (xs.map w.key) rows).map fun i => w.after xs (w.blank i) := by
  induction xs generalizing rows with
  | nil =>
    have hsame : ∀ r ∈ rows, w.after [] r = r := fun _ _ => rfl
    rw [List.map_congr_left hsame, List.map_id', List.map_nil, unlisted_eq_nil (by simp),
      List.map_nil, List.append_nil]
    rfl
  | cons x xs ih =>
    have hstep : w.writeAll (x :: xs) rows = w.writeAll xs (w.write x rows) := rfl
    have hother {i : String} (hi : i ≠ w.key x) :
        w.after (x :: xs) (w.blank i) = w.after xs (w.blank i) := by
      rw [after_cons, change_of_ne (by simpa [w.id_blank] using hi)]
    rw [hstep, ih h.write, List.map_cons]
    by_cases hmem : .text (w.key x) ∈ rows.map w.id
    · -- The row of the id is changed in place, and all ids stay as they are.
      have hold : rows.map (w.after (x :: xs)) = (rows.map (w.change x)).map (w.after xs) := by
        rw [List.map_map]
        exact List.map_congr_left fun r _ => after_cons
      have hsame : unlisted w.id (xs.map w.key) (rows.map (w.change x)) =
          unlisted w.id (xs.map w.key) rows := by
        unfold unlisted
        rw [map_id_map fun _ => id_change]
      have hnew : ∀ i ∈ unlisted w.id (xs.map w.key) rows,
          w.after (x :: xs) (w.blank i) = w.after xs (w.blank i) := by
        refine fun i hi => hother ?_
        rintro rfl
        exact (mem_unlisted_iff.mp hi).2 hmem
      rw [write_of_mem h hmem, hold, unlisted_cons_of_mem hmem, hsame, List.map_congr_left hnew]
    · -- The id gets a row at the end, which is the first of the new ones.
      have hold : rows.map (w.after (x :: xs)) = rows.map (w.after xs) := by
        refine List.map_congr_left fun r hr => ?_
        rw [after_cons, change_of_ne fun heq => hmem (heq ▸ List.mem_map_of_mem hr)]
      have hfirst : w.after (x :: xs) (w.blank (w.key x)) = w.after xs (w.new x) := by
        rw [after_cons, change_of_eq (w.id_blank _)]
        rfl
      have hrest : ∀ i ∈ unlisted w.id (xs.map w.key) (rows ++ [w.new x]),
          w.after (x :: xs) (w.blank i) = w.after xs (w.blank i) := by
        refine fun i hi => hother ?_
        rintro rfl
        refine (mem_unlisted_iff.mp hi).2 (List.mem_map.mpr ⟨w.new x, ?_, id_new⟩)
        exact List.mem_append_right _ List.mem_cons_self
      rw [write_of_not_mem hmem, hold, unlisted_cons_of_not_mem hmem id_new, List.map_cons, hfirst,
        List.map_congr_left hrest, List.map_append, List.map_singleton, List.append_assoc,
        List.singleton_append]

/-- The ids afterwards are those that were there and those that something was written about. -/
theorem mem_map_id_writeAll_iff (h : w.Apart rows) :
    c ∈ (w.writeAll xs rows).map w.id ↔ c ∈ rows.map w.id ∨ ∃ x ∈ xs, c = .text (w.key x) := by
  have hold : (rows.map (w.after xs)).map w.id = rows.map w.id := map_id_map fun _ => id_after
  have hnew : ((unlisted w.id (xs.map w.key) rows).map fun i => w.after xs (w.blank i)).map w.id =
      (unlisted w.id (xs.map w.key) rows).map Cell.text := by
    rw [List.map_map]
    exact List.map_congr_left fun i _ => id_after.trans (w.id_blank i)
  rw [writeAll_eq h, List.map_append, hold, hnew, List.mem_append]
  refine ⟨fun hc => hc.imp_right fun hc => ?_, fun hc => ?_⟩
  · obtain ⟨i, hi, rfl⟩ := List.mem_map.mp hc
    obtain ⟨x, hx, rfl⟩ := List.mem_map.mp (mem_unlisted_iff.mp hi).1
    exact ⟨x, hx, rfl⟩
  · rcases hc with hc | ⟨x, hx, rfl⟩
    · exact .inl hc
    · by_cases hmem : .text (w.key x) ∈ rows.map w.id
      · exact .inl hmem
      · refine .inr (List.mem_map.mpr ⟨w.key x, mem_unlisted_iff.mpr ⟨?_, hmem⟩, rfl⟩)
        exact List.mem_map_of_mem hx

/-- Every row that is there afterwards is some row after all that is written about it. -/
theorem exists_after_of_mem_writeAll (h : w.Apart rows) (hr : r ∈ w.writeAll xs rows) :
    ∃ r₀, w.after xs r₀ = r := by
  rw [writeAll_eq h, List.mem_append] at hr
  rcases hr with hr | hr
  · obtain ⟨r₀, -, rfl⟩ := List.mem_map.mp hr
    exact ⟨r₀, rfl⟩
  · obtain ⟨i, -, rfl⟩ := List.mem_map.mp hr
    exact ⟨w.blank i, rfl⟩

/-- Writing changes nothing if all ids have rows and each row is as it would be written. -/
theorem writeAll_eq_self (h : w.Apart rows) (hids : ∀ x ∈ xs, .text (w.key x) ∈ rows.map w.id)
    (hsame : ∀ r ∈ rows, w.after xs r = r) : w.writeAll xs rows = rows := by
  have hnone : unlisted w.id (xs.map w.key) rows = [] := by
    refine unlisted_eq_nil fun i hi => ?_
    obtain ⟨x, hx, rfl⟩ := List.mem_map.mp hi
    exact hids x hx
  rw [writeAll_eq h, hnone, List.map_nil, List.append_nil, List.map_congr_left hsame, List.map_id']

/-- Writing the same things again changes nothing, even if new rows would be made otherwise, as long
as it changes no single row. -/
theorem writeAll_again {w' : RowWriting ι ρ} (hid : w'.id = w.id) (hkey : w'.key = w.key)
    (h : w.Apart rows) (hsettled : ∀ r, w'.after xs (w.after xs r) = w.after xs r) :
    w'.writeAll xs (w.writeAll xs rows) = w.writeAll xs rows := by
  have hapart : w'.Apart (w.writeAll xs rows) := by
    unfold Apart
    rw [hid]
    exact h.writeAll
  refine writeAll_eq_self hapart (fun x hx => ?_) fun r hr => ?_
  · rw [hid, hkey]
    exact (mem_map_id_writeAll_iff h).mpr (.inr ⟨x, hx, rfl⟩)
  · obtain ⟨r₀, rfl⟩ := exists_after_of_mem_writeAll h hr
    exact hsettled r₀

end RowWriting

end SkaterLedger
