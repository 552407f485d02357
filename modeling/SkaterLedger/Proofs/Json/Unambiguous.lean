import SkaterLedger.Proofs.Json.Scaling

/-!
# Compact text is unambiguous

A reader that takes every number at its exact digits would read each value of finite numbers from
its text (`Tree.exact_ofValue`), so no two such values are written alike (`compact_inj`). An object
keeps its members sorted by key, the last of each key, at whatever depth it stands (`held`). So
values that were put together in different orders are held as one value exactly if they are the same
up to these orders (`held_eq_held_iff`).
-/

namespace SkaterLedger.Json

variable {v w : Json} {items : List Json} {members : List (String × Json)}

/-- What holds of a value if it holds of its parts holds of all values. -/
@[elab_as_elim]
theorem induction {P : Json → Prop} (null : P null) (bool : ∀ b, P (bool b)) (int : ∀ n, P (int n))
    (real : ∀ x, P (real x)) (str : ∀ s, P (str s))
    (arr : ∀ items, (∀ v ∈ items, P v) → P (arr items))
    (obj : ∀ members, (∀ m ∈ members, P m.2) → P (obj members)) (v : Json) : P v := by
  refine rec (motive_1 := P) (motive_2 := fun items => ∀ v ∈ items, P v)
    (motive_3 := fun members => ∀ m ∈ members, P m.2) (motive_4 := fun m => P m.2)
    null bool int real str arr obj ?_ ?_ ?_ ?_ ?_ v
  · exact List.forall_mem_nil _
  · exact fun _ _ hv hitems => List.forall_mem_cons.mpr ⟨hv, hitems⟩
  · exact List.forall_mem_nil _
  · exact fun _ _ hm hmembers => List.forall_mem_cons.mpr ⟨hm, hmembers⟩
  · exact fun _ _ hv => hv

/-- All numbers of a value are finite. JSON has no others. -/
inductive Finite : Json → Prop where
  /-- The value `null` has no numbers. -/
  | null : Finite null
  /-- Nor have truth values. -/
  | bool (b : Bool) : Finite (bool b)
  /-- Integers are finite. -/
  | int (n : ℤ) : Finite (int n)
  /-- Any other number has to be finite. -/
  | real {x : Binary64} (h : x.isFinite = true) : Finite (real x)
  /-- Strings have no numbers. -/
  | str (s : String) : Finite (str s)
  /-- The numbers of an array are those of its items. -/
  | arr {items : List Json} (h : ∀ v ∈ items, Finite v) : Finite (arr items)
  /-- The numbers of an object are those of its members. -/
  | obj {members : List (String × Json)} (h : ∀ m ∈ members, Finite m.2) : Finite (obj members)

/-! ## The text tells the value -/

/-- The number that a numeral writes, rounded once if it has a point or an exponent. -/
def Numeral.exact (n : Numeral) : Json :=
  if n.fraction.isNone && n.exponent.isNone then
    let size : ℤ := Text.numberOfDigits n.whole
    int (if n.negative then -size else size)
  else real ⟨n.negative, n.toDecimal.toMagnitude⟩

/-- An integer is what its numeral writes. -/
theorem Numeral.exact_ofInt (n : ℤ) : (ofInt n).exact = int n := by
  unfold exact ofInt
  simp only [Text.numberOfDigits_decimal, Option.isNone_none, Bool.and_self, if_true,
    decide_eq_true_eq]
  congr 1
  split_ifs <;> omega

/-- A finite number is what its numeral writes, down to the sign of zero. -/
theorem Numeral.exact_ofReal {x : Binary64} (h : x.isFinite = true) :
    (ofReal x).exact = real x := by
  have hfinite : x.magnitude.isInfinite = false := by simpa [Binary64.isFinite] using h
  have hpoint : ((ofReal x).fraction.isNone && (ofReal x).exponent.isNone) = false := by
    rw [Bool.and_eq_false_iff, Option.isNone_eq_false_iff, Option.isNone_eq_false_iff,
      Option.isSome_iff_ne_none, Option.isSome_iff_ne_none]
    exact isReal_ofMagnitude x.magnitude
  have hmagnitude : (ofReal x).toDecimal.toMagnitude = x.magnitude :=
    toMagnitude_ofMagnitude hfinite
  rw [exact, hpoint, hmagnitude]
  rfl

namespace Tree

mutual

/-- The value of a parse tree whose numbers are taken exactly. -/
def exact : Tree → Json
  | .null => .null
  | .bool b => .bool b
  | .number n => n.exact
  | .string pieces => .str (String.ofList ((chars? pieces).getD []))
  | .array items => .arr (exactItems items)
  | .object members => .obj (exactMembers members)

/-- The values of the items of an array. -/
def exactItems : List Tree → List Json
  | [] => []
  | item :: items => exact item :: exactItems items

/-- The keys and values of the members of an object. -/
def exactMembers : List (List Piece × Tree) → List (String × Json)
  | [] => []
  | (key, tree) :: members =>
    (String.ofList ((chars? key).getD []), exact tree) :: exactMembers members

end

/-- A value of finite numbers is that of its parse tree. -/
theorem exact_ofValue (h : v.Finite) : (ofValue v).exact = v := by
  induction v using induction with
  | null => rfl
  | bool b => rfl
  | int n => exact Numeral.exact_ofInt n
  | real x =>
    cases h with
    | real h =>
      rw [ofValue, if_pos h]
      exact Numeral.exact_ofReal h
  | str s => rw [ofValue, exact, chars?_pieces, Option.getD_some, String.ofList_toList]
  | arr items ih =>
    cases h with
    | arr h =>
      have hitems : exactItems (ofValues items) = items := by
        induction items with
        | nil => rfl
        | cons v items ihItems =>
          rw [List.forall_mem_cons] at ih h
          rw [ofValues, exactItems, ih.1 h.1, ihItems ih.2 h.2]
      rw [ofValue, exact, hitems]
  | obj members ih =>
    cases h with
    | obj h =>
      have hmembers : exactMembers (ofMembers members) = members := by
        induction members with
        | nil => rfl
        | cons m members ihMembers =>
          rw [List.forall_mem_cons] at ih h
          rw [ofMembers, exactMembers, ih.1 h.1, ihMembers ih.2 h.2, chars?_pieces,
            Option.getD_some, String.ofList_toList]
      rw [ofValue, exact, hmembers]

end Tree

/-- No two values of finite numbers have the same compact form. -/
theorem compact_inj (hv : v.Finite) (hw : w.Finite) (h : v.compact = w.compact) : v = w := by
  have htree : Tree.ofValue v = Tree.ofValue w := by
    apply Option.some.inj
    rw [← ofText?_compact, ← ofText?_compact, h]
  calc v = (Tree.ofValue v).exact := (Tree.exact_ofValue hv).symm
    _ = (Tree.ofValue w).exact := by rw [htree]
    _ = w := Tree.exact_ofValue hw

/-! ## The order of members -/

mutual

/-- A value as it is held: the members of all its objects sorted, the last of each key. -/
def held : Json → Json
  | null => null
  | bool b => bool b
  | int n => int n
  | real x => real x
  | str s => str s
  | arr items => arr (heldItems items)
  | obj members => obj (sortMembers (heldMembers members))

/-- The items of an array as they are held. -/
def heldItems : List Json → List Json
  | [] => []
  | v :: items => held v :: heldItems items

/-- The members of an object with their values as they are held. -/
def heldMembers : List (String × Json) → List (String × Json)
  | [] => []
  | (k, v) :: members => (k, held v) :: heldMembers members

end

/-- Items are held one by one. -/
theorem heldItems_eq_map (items : List Json) : heldItems items = items.map held := by
  induction items with
  | nil => rfl
  | cons v items ih => rw [heldItems, ih, List.map_cons]

/-- So are members. -/
theorem heldMembers_eq_map (members : List (String × Json)) :
    heldMembers members = members.map fun m => (m.1, m.2.held) := by
  induction members with
  | nil => rfl
  | cons m members ih => rw [heldMembers, ih, List.map_cons]

/-- Two values are the same whatever order their members came in: arrays item by item, and objects
by what they have under each key. -/
inductive Same : Json → Json → Prop where
  /-- The value `null` is the same as itself. -/
  | null : Same null null
  /-- A truth value is the same as itself. -/
  | bool (b : Bool) : Same (bool b) (bool b)
  /-- An integer is the same as itself, and as no other number. -/
  | int (n : ℤ) : Same (int n) (int n)
  /-- Any other number is the same as itself, with its sign. -/
  | real (x : Binary64) : Same (real x) (real x)
  /-- A string is the same as itself. -/
  | str (s : String) : Same (str s) (str s)
  /-- Arrays are the same if their items are, in their order. -/
  | arr {items items' : List Json} (h : List.Forall₂ Same items items') :
    Same (arr items) (arr items')
  /-- Objects are the same if they have the same keys, and the same value under each. -/
  | obj {members members' : List (String × Json)}
    (h : ∀ key, Option.Rel Same (valueOf? key members) (valueOf? key members')) :
    Same (obj members) (obj members')

/-- Values of finite numbers are held as such. -/
theorem Finite.held (h : v.Finite) : v.held.Finite := by
  induction v using induction with
  | arr items ih =>
    cases h with
    | arr h =>
      rw [Json.held, heldItems_eq_map]
      refine .arr (List.forall_mem_map.mpr fun v hv => ih v hv (h v hv))
  | obj members ih =>
    cases h with
    | obj h =>
      rw [Json.held, heldMembers_eq_map]
      refine .obj fun m hm => ?_
      obtain ⟨m', hm', rfl⟩ := List.mem_map.mp (mem_of_mem_sortMembers hm)
      exact ih m' hm' (h m' hm')
  | _ => exact h

/-- Lists that are converted alike are related item by item, if the items of the first one are. -/
theorem map_eq_map_iff_forall₂ {α β : Type} {f : α → β} {R : α → α → Prop} {as bs : List α}
    (h : ∀ a ∈ as, ∀ b, f a = f b ↔ R a b) : as.map f = bs.map f ↔ List.Forall₂ R as bs := by
  induction as generalizing bs with
  | nil => cases bs <;> simp
  | cons a as ih =>
    rw [List.forall_mem_cons] at h
    cases bs with
    | nil => simp
    | cons b bs => rw [List.map_cons, List.map_cons, List.cons.injEq, List.forall₂_cons, h.1, ih h.2]

/-- Objects are held alike if they have under each key nothing, or values that are held alike. -/
theorem heldMembers_eq_iff {R : Json → Json → Prop} {members' : List (String × Json)}
    (h : ∀ m ∈ members, ∀ w, m.2.held = held w ↔ R m.2 w) :
    sortMembers (heldMembers members) = sortMembers (heldMembers members') ↔
      ∀ key, Option.Rel R (valueOf? key members) (valueOf? key members') := by
  simp only [sortMembers_eq_iff, heldMembers_eq_map, valueOf?_map]
  refine forall_congr' fun key => ?_
  cases hkey : valueOf? key members with
  | none => cases valueOf? key members' <;> simp
  | some v =>
    have hv := h _ (mem_of_valueOf? hkey)
    cases valueOf? key members' <;> simp [hv]

/-- Values are held alike exactly if they are the same whatever order their members came in. -/
theorem held_eq_held_iff : v.held = w.held ↔ v.Same w := by
  induction v using induction generalizing w with
  | arr items ih =>
    have hitems (items' : List Json) :
        heldItems items = heldItems items' ↔ List.Forall₂ Same items items' := by
      rw [heldItems_eq_map, heldItems_eq_map, map_eq_map_iff_forall₂ fun v hv w => ih v hv]
    constructor
    · intro h
      cases w with
      | arr items' => exact .arr ((hitems items').mp (arr.inj h))
      | _ => cases h
    · rintro (_ | _ | _ | _ | _ | h | _)
      rw [held, held, (hitems _).mpr h]
  | obj members ih =>
    have hmembers (members' : List (String × Json)) :
        sortMembers (heldMembers members) = sortMembers (heldMembers members') ↔
          ∀ key, Option.Rel Same (valueOf? key members) (valueOf? key members') :=
      heldMembers_eq_iff fun m hm _ => ih m hm
    constructor
    · intro h
      cases w with
      | obj members' => exact .obj ((hmembers members').mp (obj.inj h))
      | _ => cases h
    · rintro (_ | _ | _ | _ | _ | _ | h)
      rw [held, held, (hmembers _).mpr h]
  | _ =>
    constructor
    · intro h
      cases w <;> cases h
      constructor
    · rintro ⟨⟩
      rfl

/-- Values of finite numbers have the same compact form, as they are held, exactly if they are the
same whatever order their members came in. -/
theorem compact_held_eq_iff (hv : v.Finite) (hw : w.Finite) :
    v.held.compact = w.held.compact ↔ v.Same w := by
  rw [← held_eq_held_iff]
  exact ⟨compact_inj hv.held hw.held, fun h => by rw [h]⟩

end SkaterLedger.Json
