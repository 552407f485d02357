import SkaterLedger.Proofs.Json.Values

/-!
# Values of limited nesting

The reader gives up on arrays and objects that nest as deep as its limit. A value whose numbers are
integers of 64 bits (`Plain`) has no other reason not to be read back from its text, so it is if it
is nested less deep than that (`Plain.parse?_compact`).
-/

namespace SkaterLedger.Json

instance decidableIsInteger64 (i : ℤ) : Decidable (IsInteger64 i) :=
  inferInstanceAs (Decidable (_ ∧ _))

instance decidableSorted {α : Type} (members : List (String × α)) : Decidable (Sorted members) :=
  inferInstanceAs (Decidable (List.Pairwise _ _))

/-- A value is nested at most some levels deep, its numbers are integers of 64 bits, and its objects
are sorted, as all objects are that were put together by key. -/
inductive Plain : ℕ → Json → Prop where
  /-- The value `null` is not nested. -/
  | null {n : ℕ} : Plain n null
  /-- Nor are truth values. -/
  | bool {n : ℕ} (b : Bool) : Plain n (bool b)
  /-- Nor are integers, of which those of 64 bits are allowed. -/
  | int {n : ℕ} {i : ℤ} (h : IsInteger64 i) : Plain n (int i)
  /-- Nor are strings. -/
  | str {n : ℕ} (s : String) : Plain n (str s)
  /-- An array is one level deeper than its items. -/
  | arr {n : ℕ} {items : List Json} (h : ∀ v ∈ items, Plain n v) : Plain (n + 1) (arr items)
  /-- An object is one level deeper than its members. -/
  | obj {n : ℕ} {members : List (String × Json)} (hsorted : Sorted members)
    (h : ∀ m ∈ members, Plain n m.2) : Plain (n + 1) (obj members)

variable {v : Json} {items : List Json} {members : List (String × Json)} {n depth : ℕ}

/-- An array is read back if its items are, one level deeper. -/
theorem readsBack_arr (hdepth : 1 < depth) (h : ∀ v ∈ items, v.ReadsBack (depth - 1)) :
    (arr items).ReadsBack depth := by
  have hitems : Tree.toValues? (depth - 1) (Tree.ofValues items) = some items := by
    induction items with
    | nil => rfl
    | cons v items ih =>
      rw [List.forall_mem_cons] at h
      have hv : (Tree.ofValue v).toValue? (depth - 1) = some v := h.1
      rw [Tree.ofValues, Tree.toValues?, hv, ih h.2]
      rfl
  rw [ReadsBack, Tree.ofValue, Tree.toValue?, if_neg (by omega), hitems]
  rfl

/-- A sorted object is read back if its members are, one level deeper. -/
theorem readsBack_obj (hdepth : 1 < depth) (hsorted : Sorted members)
    (h : ∀ m ∈ members, m.2.ReadsBack (depth - 1)) : (obj members).ReadsBack depth := by
  have hmembers := toMembers?_ofMembers_iff.mpr h
  rw [ReadsBack, Tree.ofValue, Tree.toValue?, if_neg (by omega), hmembers, Option.map_some,
    sortMembers_eq_self hsorted]

/-- A value is read back if it is nested less deep than the reader's limit. -/
theorem Plain.readsBack (h : v.Plain n) (hdepth : n < depth) : v.ReadsBack depth := by
  induction h generalizing depth with
  | null => exact readsBack_null
  | bool b => rfl
  | int h => exact readsBack_int h
  | str s => exact readsBack_str s
  | arr _ ih => exact readsBack_arr (by omega) fun v hv => ih v hv (by omega)
  | obj hsorted _ ih => exact readsBack_obj (by omega) hsorted fun m hm => ih m hm (by omega)

/-- A value that is nested less deep than the limit is read back from its compact form. -/
theorem Plain.parse?_compact (h : v.Plain n) (hdepth : n < Tree.depthLimit) :
    parse? v.compact = some v := by
  rw [parse?, ofText?_compact]
  exact h.readsBack hdepth

end SkaterLedger.Json
