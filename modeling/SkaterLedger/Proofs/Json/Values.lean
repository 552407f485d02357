import SkaterLedger.Proofs.Json.Layout
import SkaterLedger.Proofs.Json.Objects

/-!
# Values that are read back

Whether a value is read back from its text is decided part by part: arrays and objects are if their
parts are, strings and the integers of 64 bits always are (`readsBack_str`, `readsBack_int`), and of
the other numbers those whose digits scale to them again (`Binary64.ReadsBack`).
-/

namespace SkaterLedger.Json

variable {limit start n depth : ℕ} {ds : List Char}

/-! ## Numbers -/

/-- A number does not get smaller with the digits that are appended to it. -/
theorem start_le_foldl (ds : List Char) (start : ℕ) :
    start ≤ ds.foldl (fun n d => 10 * n + Text.digitValue d) start := by
  induction ds generalizing start with
  | nil => exact le_refl _
  | cons d ds ih =>
    rw [List.foldl_cons]
    exact le_trans (by omega) (ih _)

/-- Digits are gathered into the number that they write as long as it stays within the limit. -/
theorem gather_eq (h : ds.foldl (fun n d => 10 * n + Text.digitValue d) start ≤ limit) :
    gather limit start ds = (ds.foldl (fun n d => 10 * n + Text.digitValue d) start, []) := by
  induction ds generalizing start with
  | nil => rfl
  | cons d ds ih =>
    have hnext := (start_le_foldl ds (10 * start + Text.digitValue d)).trans h
    unfold gather
    rw [if_pos hnext, ih h, List.foldl_cons]

/-- The digits of a number within the limit are gathered into it. -/
theorem gather_decimal (h : n ≤ limit) : gather limit 0 (Text.decimal n) = (n, []) := by
  have hvalue : (Text.decimal n).foldl (fun n d => 10 * n + Text.digitValue d) 0 = n :=
    Text.numberOfDigits_decimal n
  rw [gather_eq (by rwa [hvalue]), hvalue]

/-- The integers of 64 bits, with a sign or without. -/
def IsInteger64 (n : ℤ) : Prop := -(leastIntegerSize : ℤ) ≤ n ∧ n ≤ maxSignificand

/-- An integer of 64 bits is read back. -/
theorem value?_ofInt {n : ℤ} (h : IsInteger64 n) : (Numeral.ofInt n).value? = some (.int n) := by
  obtain ⟨hlow, hhigh⟩ := h
  have hsize : n.natAbs ≤ maxSignificand := by
    unfold maxSignificand leastIntegerSize at *
    omega
  have hparts : intOfParts (n < 0) n.natAbs = int n := by
    unfold intOfParts
    by_cases hneg : n < 0
    · have hfits : ¬ (n.natAbs = 0 ∨ leastIntegerSize < n.natAbs) := by omega
      rw [if_neg (by simp [hneg]), if_neg (by simpa using hfits)]
      congr 1
      omega
    · rw [if_pos (by simp [hneg])]
      congr 1
      omega
  unfold Numeral.value? Numeral.ofInt
  simp only [gather_decimal hsize, hparts]
  rfl

end Json

/-- A finite number is read back from its text. -/
def Binary64.ReadsBack (x : Binary64) : Prop := (Json.Numeral.ofReal x).value? = some (.real x)

namespace Json

/-! ## Values -/

/-- A value is read back from its text, with arrays and objects nested less than `depth` deep. -/
def ReadsBack (depth : ℕ) (v : Json) : Prop := (Tree.ofValue v).toValue? depth = some v

variable {v : Json} {items : List Json} {members : List (String × Json)}

/-- `null` is read back. -/
theorem readsBack_null : null.ReadsBack depth := rfl

/-- A string is read back. -/
theorem readsBack_str (s : String) : (str s).ReadsBack depth := by
  unfold ReadsBack Tree.ofValue Tree.toValue?
  rw [chars?_pieces, Option.map_some, String.ofList_toList]

/-- An integer of 64 bits is read back. -/
theorem readsBack_int {n : ℤ} (h : IsInteger64 n) : (int n).ReadsBack depth := by
  unfold ReadsBack Tree.ofValue Tree.toValue?
  exact value?_ofInt h

/-- A number with a point or an exponent is read back if it is finite and its digits scale to it. -/
theorem readsBack_real_iff {x : Binary64} (hx : x.isFinite = true) :
    (real x).ReadsBack depth ↔ x.ReadsBack := by
  unfold ReadsBack Tree.ofValue
  rw [if_pos hx, Tree.toValue?]
  rfl

/-- A string of a parse tree is read back. -/
theorem string?_ofValue (s : String) : (Tree.ofValue (str s)).string? = some s := by
  rw [Tree.ofValue, Tree.string?, chars?_pieces, Option.map_some, String.ofList_toList]

/-- The parse trees of items are those of each of them. -/
theorem ofValues_eq_map (items : List Json) : Tree.ofValues items = items.map Tree.ofValue := by
  induction items with
  | nil => rfl
  | cons v items ih => rw [Tree.ofValues, ih, List.map_cons]

/-- The keys of members are read back. -/
theorem keyed?_ofMembers (members : List (String × Json)) :
    Tree.keyed? (Tree.ofMembers members) = some (members.map fun m => (m.1, Tree.ofValue m.2)) := by
  induction members with
  | nil => rfl
  | cons m members ih =>
    obtain ⟨k, v⟩ := m
    rw [Tree.ofMembers, Tree.keyed?, chars?_pieces, ih]
    simp [String.ofList_toList]

/-- The members of an object keep their keys, and they are read back if their values are. -/
theorem toMembers?_ofMembers_iff : Tree.toMembers? depth (Tree.ofMembers members) = some members ↔
    ∀ m ∈ members, m.2.ReadsBack depth := by
  induction members with
  | nil => simp [Tree.ofMembers, Tree.toMembers?]
  | cons m members ih =>
    obtain ⟨k, v⟩ := m
    rw [List.forall_mem_cons, ← ih, Tree.ofMembers, Tree.toMembers?, chars?_pieces]
    unfold ReadsBack
    cases (Tree.ofValue v).toValue? depth <;>
      cases Tree.toMembers? depth (Tree.ofMembers members) <;> simp [String.ofList_toList]

/-- Whatever values the members of an object are read as, their keys are the same. -/
theorem keys_of_toMembers? {members' : List (String × Json)}
    (h : Tree.toMembers? depth (Tree.ofMembers members) = some members') :
    members'.map Prod.fst = members.map Prod.fst := by
  induction members generalizing members' with
  | nil =>
    obtain rfl : [] = members' := by simpa [Tree.ofMembers, Tree.toMembers?] using h
    rfl
  | cons m members ih =>
    obtain ⟨k, v⟩ := m
    rw [Tree.ofMembers, Tree.toMembers?, chars?_pieces] at h
    simp only [Option.bind_eq_bind, Option.bind_some, Option.bind_eq_some_iff] at h
    obtain ⟨value, -, rest, hrest, hmembers⟩ := h
    obtain rfl := Option.some.inj hmembers
    rw [List.map_cons, List.map_cons, ih hrest, String.ofList_toList]

/-- A sorted object is read back if its members' values are. -/
theorem readMembers_iff (hsorted : Sorted members) :
    (Tree.toMembers? depth (Tree.ofMembers members)).map sortMembers = some members ↔
      ∀ m ∈ members, m.2.ReadsBack depth := by
  rw [← toMembers?_ofMembers_iff]
  exact map_sortMembers_eq_some_iff hsorted fun _ => keys_of_toMembers?

end SkaterLedger.Json
