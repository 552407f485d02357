import SkaterLedger.Text.Digit
import SkaterLedger.Toml.Value

/-!
# TOML text

Reading blanks, comments, line ends, strings and keys at the start of a text. Every reader returns
the rest of the text.
-/

namespace SkaterLedger.Toml

/-- Whether a character is a blank within a line. -/
def isSpace (c : Char) : Bool := c == ' ' || c == '\t'

/-- A text without the blanks in front of its next part. -/
def skipSpace (cs : List Char) : List Char := cs.dropWhile isSpace

/-- Whether a character may stand in a comment and, but for its delimiter, in a string. -/
def isPlain (c : Char) : Bool := c == '\t' || (0x20 ≤ c.toNat && c.toNat != 0x7F)

/-- The rest of a text that starts with a line end. -/
def newline? : List Char → Option (List Char)
  | '\n' :: rest => some rest
  | '\r' :: '\n' :: rest => some rest
  | _ => none

/-- A text without the comment in front. -/
def skipComment : List Char → List Char
  | '#' :: rest => rest.dropWhile isPlain
  | cs => cs

/-- The rest of a text after blanks, a comment, and a line end or the end of the text. -/
def lineEnd? (cs : List Char) : Option (List Char) :=
  match skipComment (skipSpace cs) with
  | [] => some []
  | rest => newline? rest

/-- The character of a code point given in hexadecimal. -/
def charOfHex? (digits : List Char) : Option Char := do
  let n ← Text.numberOfHex? digits
  if h : n.isValidChar then some (Char.ofNatAux n h) else none

/-- The character after a backslash, and the rest. -/
def escape? : List Char → Option (Char × List Char)
  | 'b' :: rest => some ('\x08', rest)
  | 't' :: rest => some ('\t', rest)
  | 'n' :: rest => some ('\n', rest)
  | 'f' :: rest => some ('\x0c', rest)
  | 'r' :: rest => some ('\r', rest)
  | '"' :: rest => some ('"', rest)
  | '\\' :: rest => some ('\\', rest)
  | 'u' :: rest =>
    if rest.length < 4 then none else (charOfHex? (rest.take 4)).map fun c => (c, rest.drop 4)
  | 'U' :: rest =>
    if rest.length < 8 then none else (charOfHex? (rest.take 8)).map fun c => (c, rest.drop 8)
  | _ => none

/-- The rest of a string after its quotation mark. The first argument bounds the number of
steps. -/
def basic? : Nat → List Char → Option (List Char × List Char)
  | 0, _ => none
  | _, [] => none
  | _ + 1, '"' :: rest => some ([], rest)
  | fuel + 1, '\\' :: rest => do
    let (c, rest) ← escape? rest
    let (cs, rest) ← basic? fuel rest
    some (c :: cs, rest)
  | fuel + 1, c :: rest =>
    if isPlain c then do
      let (cs, rest) ← basic? fuel rest
      some (c :: cs, rest)
    else none

/-- The rest of a literal string after its apostrophe. -/
def literal? (cs : List Char) : Option (List Char × List Char) :=
  let isInside (c : Char) := isPlain c && c != '\''
  match cs.dropWhile isInside with
  | '\'' :: rest => some (cs.takeWhile isInside, rest)
  | _ => none

/-- A text without the line end in front. -/
def dropNewline (cs : List Char) : List Char := (newline? cs).getD cs

/-- What a run of delimiters in a string of several lines means: three to five of them end the
string, and those beyond three belong to it. -/
def closing? (run : Nat) : Option Nat := if 3 ≤ run then some (min (run - 3) 2) else none

/-- A text without the blanks and line ends in front. -/
def dropBreaks : List Char → List Char
  | ' ' :: rest => dropBreaks rest
  | '\t' :: rest => dropBreaks rest
  | '\n' :: rest => dropBreaks rest
  | '\r' :: '\n' :: rest => dropBreaks rest
  | rest => rest

/-- What follows a backslash at the end of a line: the next character that is neither a blank nor
part of a line end. -/
def continued? (cs : List Char) : Option (List Char) :=
  (newline? (skipSpace cs)).map dropBreaks

/-- The rest of a string of several lines between delimiters `mark`. In a literal one a backslash is
a character like others. The first argument bounds the number of steps. -/
def manyLines? (mark : Char) : Nat → List Char → Option (List Char × List Char)
  | 0, _ => none
  | _, [] => none
  | fuel + 1, c :: rest =>
    if c == mark then
      let run := ((c :: rest).takeWhile (· == mark)).length
      match closing? run with
      | some inside => some (List.replicate inside mark, (c :: rest).drop (inside + 3))
      | none => do
        let (cs, rest) ← manyLines? mark fuel ((c :: rest).drop run)
        some (List.replicate run mark ++ cs, rest)
    else if c == '\\' && mark == '"' then
      match continued? rest with
      | some rest => manyLines? mark fuel rest
      | none => do
        let (c, rest) ← escape? rest
        let (cs, rest) ← manyLines? mark fuel rest
        some (c :: cs, rest)
    else
      match newline? (c :: rest) with
      | some rest => do
        let (cs, rest) ← manyLines? mark fuel rest
        some ('\n' :: cs, rest)
      | none =>
        if isPlain c then do
          let (cs, rest) ← manyLines? mark fuel rest
          some (c :: cs, rest)
        else none

/-- A string of any form. -/
def string? : List Char → Option (List Char × List Char)
  | '"' :: '"' :: '"' :: rest => manyLines? '"' (rest.length + 1) (dropNewline rest)
  | '"' :: rest => basic? (rest.length + 1) rest
  | '\'' :: '\'' :: '\'' :: rest => manyLines? '\'' (rest.length + 1) (dropNewline rest)
  | '\'' :: rest => literal? rest
  | _ => none

/-- Whether a character may stand in a key without quotation marks. -/
def isBare (c : Char) : Bool :=
  ('a' ≤ c && c ≤ 'z') || ('A' ≤ c && c ≤ 'Z') || Text.isAsciiDigit c || c == '_' || c == '-'

/-- A key without dots. -/
def simpleKey? : List Char → Option (String × List Char)
  | '"' :: rest => (basic? (rest.length + 1) rest).map fun (cs, rest) => (String.ofList cs, rest)
  | '\'' :: rest => (literal? rest).map fun (cs, rest) => (String.ofList cs, rest)
  | cs =>
    let bare := cs.takeWhile isBare
    if bare.isEmpty then none else some (String.ofList bare, cs.dropWhile isBare)

/-- The depth that keys and values may not reach. -/
def depthLimit : Nat := 80

/-- A key with dots, with blanks around its parts. The first argument bounds the number of
parts. -/
def keyParts? : Nat → List Char → Option (List String × List Char)
  | 0, _ => none
  | fuel + 1, cs => do
    let (key, rest) ← simpleKey? (skipSpace cs)
    match skipSpace rest with
    | '.' :: rest =>
      let (keys, rest) ← keyParts? fuel rest
      some (key :: keys, rest)
    | rest => some ([key], rest)

/-- The path to the table of a key with dots, its last part, and the rest. -/
def key? (cs : List Char) : Option (List String × String × List Char) := do
  let (keys, rest) ← keyParts? (cs.length + 1) cs
  if depthLimit ≤ keys.length then none
  some (keys.dropLast, ← keys.getLast?, rest)

end SkaterLedger.Toml
