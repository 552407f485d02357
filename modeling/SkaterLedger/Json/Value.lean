import SkaterLedger.Binary64.Basic

/-!
# JSON values

A number is an integer or a binary64 number. An object is a list of members; the objects that the
ledger builds by key have their keys in ascending order, each once.
-/

namespace SkaterLedger

/-- A JSON value. -/
inductive Json where
  /-- The value `null`. -/
  | null
  /-- A truth value. -/
  | bool (b : Bool)
  /-- A number written without point and exponent. -/
  | int (n : Int)
  /-- Any other number. -/
  | real (x : Binary64)
  /-- A string. -/
  | str (s : String)
  /-- An array. -/
  | arr (items : List Json)
  /-- An object. -/
  | obj (members : List (String × Json))

namespace Json

instance : Inhabited Json := ⟨null⟩

/-- The members of a sorted object with one more; the new member replaces one of the same key. -/
def insertMember {α : Type} (key : String) (value : α) : List (String × α) → List (String × α)
  | [] => [(key, value)]
  | (k, v) :: rest =>
    if key < k then (key, value) :: (k, v) :: rest
    else if key = k then (key, value) :: rest
    else (k, v) :: insertMember key value rest

/-- The sorted object of some members, the last of each key. -/
def sortMembers {α : Type} (members : List (String × α)) : List (String × α) :=
  members.foldl (fun sorted (key, value) => insertMember key value sorted) []

/-- A string or `null`. -/
def strOrNull : Option String → Json
  | some s => str s
  | none => null

/-- A number or `null`. -/
def realOrNull : Option Binary64 → Json
  | some x => real x
  | none => null

end Json

end SkaterLedger
