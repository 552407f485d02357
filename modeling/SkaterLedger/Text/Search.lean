/-!
# Searching a text

Finding, dropping and splitting at the occurrences of a pattern, from left to right and without
overlap.
-/

namespace SkaterLedger.Text

/-- A text cut at the first occurrence of the pattern, which belongs to neither part. -/
def cutAt (pattern : List Char) : List Char → Option (List Char × List Char)
  | [] => if pattern.isEmpty then some ([], []) else none
  | c :: cs =>
    if pattern.isPrefixOf (c :: cs) then some ([], (c :: cs).drop pattern.length)
    else (cutAt pattern cs).map fun (before, after) => (c :: before, after)

/-- Whether the pattern occurs in a text. -/
def occursIn (pattern cs : List Char) : Bool := (cutAt pattern cs).isSome

/-- What stands after the first occurrence of the pattern, nothing without one. -/
def after (pattern cs : List Char) : List Char :=
  match cutAt pattern cs with
  | some (_, rest) => rest
  | none => []

/-- Drops `skip` characters, which belong to an occurrence already found, and then every
occurrence of the pattern. -/
def removeFrom (pattern : List Char) : Nat → List Char → List Char
  | _, [] => []
  | skip + 1, _ :: cs => removeFrom pattern skip cs
  | 0, c :: cs =>
    if pattern.isPrefixOf (c :: cs) then removeFrom pattern (pattern.length - 1) cs
    else c :: removeFrom pattern 0 cs

/-- A text without the occurrences of a pattern, which is not empty. -/
def removeAll (pattern cs : List Char) : List Char := removeFrom pattern 0 cs

/-- Puts a character in front of the first of some pieces. -/
def consFirst (c : Char) : List (List Char) → List (List Char)
  | [] => [[c]]
  | piece :: pieces => (c :: piece) :: pieces

/-- Drops `skip` characters, which belong to an occurrence already found, and splits the rest at
every occurrence of the pattern. -/
def splitFrom (pattern : List Char) : Nat → List Char → List (List Char)
  | _, [] => [[]]
  | skip + 1, _ :: cs => splitFrom pattern skip cs
  | 0, c :: cs =>
    if pattern.isPrefixOf (c :: cs) then [] :: splitFrom pattern (pattern.length - 1) cs
    else consFirst c (splitFrom pattern 0 cs)

/-- The pieces of a text between the occurrences of a pattern, which is not empty. -/
def splitAll (pattern cs : List Char) : List (List Char) := splitFrom pattern 0 cs

/-- A text with every occurrence of a character replaced by a text. -/
def substitute (c : Char) (replacement : List Char) (cs : List Char) : List Char :=
  cs.flatMap fun d => if d == c then replacement else [d]

end SkaterLedger.Text
