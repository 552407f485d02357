import SkaterLedger.Toml.Scalar

/-!
# TOML documents

Reading arrays and tables between braces, and the lines of a document: keys with values, headers of
tables, and comments. A table is put into its place when the next header or the end of the document
closes it.
-/

namespace SkaterLedger.Toml

/-- A text without the blanks, line ends and comments in front. The first argument bounds the number
of lines. -/
def skipLines : Nat → List Char → List Char
  | 0, cs => cs
  | fuel + 1, cs =>
    let rest := skipComment (skipSpace cs)
    match newline? rest with
    | some rest => skipLines fuel rest
    | none => rest

mutual

/-- The value at the start of a text, within `depth` arrays and tables between braces. The first
argument bounds the number of steps. -/
def value? : Nat → Nat → List Char → Option (Value × List Char)
  | 0, _, _ => none
  | fuel + 1, depth, cs =>
    match cs with
    | '[' :: rest =>
      if depthLimit ≤ depth + 1 then none
      else (items? fuel (depth + 1) rest).map fun (items, rest) => (.array items, rest)
    | '\x7b' :: rest =>
      if depthLimit ≤ depth + 1 then none
      else
        match skipSpace rest with
        | '\x7d' :: rest => some (.table .inline [], rest)
        | rest =>
          (members? fuel (depth + 1) [] rest).map fun (entries, rest) =>
            (.table .inline entries, rest)
    | _ => scalar? cs

/-- The items of an array up to its closing bracket. A comma may stand after the last one. -/
def items? : Nat → Nat → List Char → Option (List Value × List Char)
  | 0, _, _ => none
  | fuel + 1, depth, cs =>
    match skipLines cs.length cs with
    | ']' :: rest => some ([], rest)
    | cs => do
      let (item, rest) ← value? fuel depth cs
      match skipLines rest.length rest with
      | ',' :: rest =>
        let (items, rest) ← items? fuel depth rest
        some (item :: items, rest)
      | ']' :: rest => some ([item], rest)
      | _ => none

/-- The entries of a table between braces up to its closing brace, given those before. -/
def members? : Nat → Nat → Entries → List Char → Option (Entries × List Char)
  | 0, _, _, _ => none
  | fuel + 1, depth, entries, cs => do
    let (path, key, rest) ← key? cs
    let (value, rest) ← value? fuel depth (skipSpace (← expect? '=' rest))
    let entries ← Entries.add path key value .inline entries
    match skipSpace rest with
    | ',' :: rest => members? fuel depth entries rest
    | '\x7d' :: rest => some (entries, rest)
    | _ => none

end

/-- What is known between two lines of a document. -/
structure Draft where
  /-- The tables that are closed. -/
  root : Entries
  /-- The path to the open table, empty for the document itself. -/
  path : List String
  /-- Whether the open table is one of several under its name. -/
  isItem : Bool
  /-- The entries of the open table. -/
  current : Entries

namespace Draft

/-- The draft before the first line. -/
def start : Draft := ⟨[], [], false, []⟩

/-- Adds a table to those of its name. -/
def addItem (key : String) (item : Entries) (entries : Entries) : Option Entries :=
  match Entries.find? key entries with
  | none => some (Entries.set key (.tables [item]) entries)
  | some (.tables items) => some (Entries.set key (.tables (items ++ [item])) entries)
  | some _ => none

/-- Puts the open table into its place. -/
def close (d : Draft) : Option Entries :=
  match d.path.getLast? with
  | none => some d.current
  | some key =>
    (Entries.changeAt false
      (fun _ inner =>
        if d.isItem then (addItem key d.current inner).map fun inner => (inner, ())
        else if (Entries.find? key inner).isSome then none
        else some (inner ++ [(key, .table .header d.current)], ()))
      .header d.root d.path.dropLast).map (·.1)

/-- Takes a table out of its parent to fill it further: only a table without a header of its own may
get one. -/
def takeOut (key : String) (inner : Entries) : Option (Entries × Entries) :=
  match Entries.find? key inner with
  | none => some (inner, [])
  | some (.table .parent entries) => some (Entries.erase key inner, entries)
  | some _ => none

/-- Opens the table of a header. -/
def openTable (path : List String) (key : String) (d : Draft) : Option Draft := do
  let root ← d.close
  let (root, entries) ← Entries.changeAt false (fun _ inner => takeOut key inner) .header root path
  some ⟨root, path ++ [key], false, entries⟩

/-- Opens one more table of a header in double brackets. -/
def openItem (path : List String) (key : String) (d : Draft) : Option Draft := do
  let root ← d.close
  let (root, _) ←
    Entries.changeAt false
      (fun _ inner =>
        match Entries.find? key inner with
        | none => some (inner, ())
        | some (.tables _) => some (inner, ())
        | some _ => none)
      .header root path
  some ⟨root, path ++ [key], true, []⟩

/-- Adds an entry to the open table. -/
def addEntry (path : List String) (key : String) (value : Value) (d : Draft) : Option Draft :=
  (Entries.add path key value .header d.current).map fun current => { d with current }

end Draft

/-- Reads one line of a document, which is not empty, and returns the rest of the text. -/
def line? (d : Draft) (cs : List Char) : Option (Draft × List Char) :=
  match cs with
  | '#' :: _ => do some (d, ← lineEnd? cs)
  | '[' :: '[' :: rest => do
    let (path, key, rest) ← key? rest
    let rest ← lineEnd? (← expect? ']' (← expect? ']' rest))
    some (← d.openItem path key, rest)
  | '[' :: rest => do
    let (path, key, rest) ← key? rest
    let rest ← lineEnd? (← expect? ']' rest)
    some (← d.openTable path key, rest)
  | _ =>
    match newline? cs with
    | some rest => some (d, rest)
    | none => do
      let (path, key, rest) ← key? cs
      let rest := skipSpace (← expect? '=' rest)
      let (value, rest) ← value? (2 * rest.length + 2) 0 rest
      some (← d.addEntry path key value, ← lineEnd? rest)

/-- Reads the lines of a document. The first argument bounds their number. -/
def lines? : Nat → Draft → List Char → Option Draft
  | 0, _, _ => none
  | fuel + 1, d, cs =>
    match skipSpace cs with
    | [] => some d
    | cs => do
      let (d, rest) ← line? d cs
      lines? fuel d rest

/-- A text without the byte order mark that may stand in front. -/
def dropMark : List Char → List Char
  | [] => []
  | c :: cs => if c == '\uFEFF' then cs else c :: cs

/-- The table of a document. -/
def parse? (text : String) : Option Entries := do
  let cs := dropMark text.toList
  (← lines? (cs.length + 1) .start cs).close

end SkaterLedger.Toml
