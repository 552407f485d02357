/-!
# TOML values

A document is a table of values. A table remembers how it came about, since that decides what may
still be added to it.
-/

namespace SkaterLedger.Toml

/-- How a table came about. -/
inductive TableKind where
  /-- By a header of its own. -/
  | header
  /-- As the parent of a table with a header. -/
  | parent
  /-- By a key with dots. -/
  | dotted
  /-- As a value between braces. -/
  | inline
deriving DecidableEq, Repr

/-- A value. -/
inductive Value where
  /-- A string. -/
  | string (s : String)
  /-- An integer. -/
  | integer (n : Int)
  /-- A number with a point or an exponent, or one of the words `inf` and `nan`. -/
  | float (text : List Char)
  /-- A truth value. -/
  | boolean (b : Bool)
  /-- A date, a time of day or both, as written. -/
  | moment (text : List Char)
  /-- An array. -/
  | array (items : List Value)
  /-- A table. -/
  | table (kind : TableKind) (entries : List (String × Value))
  /-- The tables under headers in double brackets. -/
  | tables (items : List (List (String × Value)))

/-- The keys of a table with their values. -/
abbrev Entries := List (String × Value)

namespace Entries

/-- The value of a key. -/
def find? (key : String) : Entries → Option Value
  | [] => none
  | (k, v) :: rest => if k == key then some v else find? key rest

/-- The entries with another value for a key, which is added at the end if it is new. -/
def set (key : String) (value : Value) : Entries → Entries
  | [] => [(key, value)]
  | (k, v) :: rest => if k == key then (key, value) :: rest else (k, v) :: set key value rest

/-- The entries without a key. -/
def erase (key : String) (entries : Entries) : Entries := entries.filter fun entry => entry.1 != key

/-- Follows a path of keys from a table to a table within it, making the tables that are missing,
and changes that table. Keys with dots (`dotted`) lead neither into tables with headers nor into
values, and paths of headers not into values. -/
def changeAt (dotted : Bool) (change : TableKind → Entries → Option (Entries × α))
    (kind : TableKind) (entries : Entries) : List String → Option (Entries × α)
  | [] => change kind entries
  | key :: path =>
    match find? key entries with
    | none => do
      let made := if dotted then TableKind.dotted else .parent
      let (sub, result) ← changeAt dotted change made [] path
      some (set key (.table made sub) entries, result)
    | some (.table sub inner) =>
      if sub == .inline || (dotted && sub == .header) then none
      else do
        let (inner, result) ← changeAt dotted change sub inner path
        some (set key (.table sub inner) entries, result)
    | some (.tables items) => do
      let (inner, result) ← changeAt dotted change .header (← items.getLast?) path
      some (set key (.tables (items.dropLast ++ [inner])) entries, result)
    | some _ => none

/-- Adds the value of a key with dots, given as the path to its table and the last key. -/
def add (path : List String) (key : String) (value : Value) (kind : TableKind)
    (entries : Entries) : Option Entries :=
  (changeAt true
    (fun kind inner =>
      if (kind == .dotted) == path.isEmpty || (find? key inner).isSome then none
      else some (inner ++ [(key, value)], ()))
    kind entries path).map (·.1)

end Entries

end SkaterLedger.Toml
