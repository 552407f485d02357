import SkaterLedger.Binary64.Decimal
import SkaterLedger.Text.Lowercase

/-!
# Similarity of names

Two names are the more alike, the fewer letters have to be inserted, deleted or replaced to turn one
into the other. Capital and small letters count as the same.
-/

namespace SkaterLedger.Similarity

/-- One row of the table of edit distances. The row above starts with `diagonal`, and `left` is the
last distance of the new row; the result is the new row after it. -/
def nextRow (x : Char) (left diagonal : Nat) : List Char → List Nat → List Nat
  | y :: ys, up :: row =>
    let distance := min (min (left + 1) (up + 1)) (diagonal + if x == y then 0 else 1)
    distance :: nextRow x distance up ys row
  | _, _ => []

/-- The row of edit distances after one more character of the first text. -/
def advance (ys : List Char) (row : List Nat) (x : Char) : List Nat :=
  match row with
  | [] => []
  | first :: rest => (first + 1) :: nextRow x (first + 1) first ys rest

/-- The least number of insertions, deletions and replacements that turn one text into another. -/
def editDistance (xs ys : List Char) : Nat :=
  ((xs.foldl (advance ys) (List.range (ys.length + 1))).getLast?).getD 0

/-- One hundred. -/
def hundred : Magnitude := .ofNat 100

/-- How alike two texts are, from zero to one: the edit distance as a part of the longer length,
taken from one. -/
def closeness (xs ys : List Char) : Magnitude :=
  let longer := max xs.length ys.length
  if longer == 0 then .one else .one - .ofNat (editDistance xs ys) / .ofNat longer

/-- How alike two names are, from 0 to 100. -/
def ofNames (a b : String) : Magnitude :=
  closeness (Text.lower a.toList) (Text.lower b.toList) * hundred

end SkaterLedger.Similarity
