import SkaterLedger.Text.Digit

/-!
# Parse trees of JSON text

A parse tree keeps numbers and strings as they are written. So a part of a document that nobody asks
for has to be well-formed, but its numbers may be out of range and its escapes may name half a
surrogate pair.
-/

namespace SkaterLedger.Json

/-- A number as written. -/
structure Numeral where
  /-- Whether a minus sign stands in front. -/
  negative : Bool
  /-- The digits before the point. -/
  whole : List Char
  /-- The digits after the point, if there is one. -/
  fraction : Option (List Char)
  /-- Whether the exponent has a minus sign, and its digits. -/
  exponent : Option (Bool × List Char)
deriving DecidableEq, Repr

/-- A part of a string as written. -/
inductive Piece where
  /-- A character, written as it is or with a short escape. -/
  | char (c : Char)
  /-- A code unit written with four hexadecimal digits. -/
  | unit (n : Nat)
deriving DecidableEq, Repr

/-- A parse tree. -/
inductive Tree where
  /-- The word `null`. -/
  | null
  /-- The word `true` or `false`. -/
  | bool (b : Bool)
  /-- A number. -/
  | number (n : Numeral)
  /-- A string. -/
  | string (pieces : List Piece)
  /-- An array. -/
  | array (items : List Tree)
  /-- An object. -/
  | object (members : List (List Piece × Tree))

namespace Tree

/-- Whether a character may stand between the parts of a document. -/
def isSpace (c : Char) : Bool := c == ' ' || c == '\t' || c == '\n' || c == '\r'

/-- A text without the space in front of its next part. -/
def skipSpace (cs : List Char) : List Char := cs.dropWhile isSpace

/-- The character that a short escape stands for. -/
def shortEscape? (c : Char) : Option Char :=
  if c == '"' then some '"'
  else if c == '\\' then some '\\'
  else if c == '/' then some '/'
  else if c == 'b' then some '\x08'
  else if c == 'f' then some '\x0c'
  else if c == 'n' then some '\n'
  else if c == 'r' then some '\r'
  else if c == 't' then some '\t'
  else none

/-- The rest of a string after its opening quotation mark, and what follows the closing one. Control
characters have to be escaped. -/
def pieces? : List Char → Option (List Piece × List Char)
  | [] => none
  | '"' :: rest => some ([], rest)
  | '\\' :: 'u' :: a :: b :: c :: d :: rest => do
    let n ← Text.numberOfHex? [a, b, c, d]
    let (pieces, rest) ← pieces? rest
    some (.unit n :: pieces, rest)
  | '\\' :: e :: rest => do
    let c ← shortEscape? e
    let (pieces, rest) ← pieces? rest
    some (.char c :: pieces, rest)
  | c :: rest =>
    if c.toNat < 0x20 || c == '\\' then none
    else do
      let (pieces, rest) ← pieces? rest
      some (.char c :: pieces, rest)

/-- The digits at the start of a text, at least one, and the rest. -/
def digits? (cs : List Char) : Option (List Char × List Char) :=
  let digits := cs.takeWhile Text.isAsciiDigit
  if digits.isEmpty then none else some (digits, cs.dropWhile Text.isAsciiDigit)

/-- The fraction at the start of a text, if a point stands there, and the rest. -/
def fraction? : List Char → Option (Option (List Char) × List Char)
  | '.' :: cs => (digits? cs).map fun (digits, rest) => (some digits, rest)
  | cs => some (none, cs)

/-- The exponent at the start of a text, if its mark stands there, and the rest. -/
def exponent? : List Char → Option (Option (Bool × List Char) × List Char)
  | [] => some (none, [])
  | mark :: cs =>
    if mark != 'e' && mark != 'E' then some (none, mark :: cs)
    else
      let (negative, rest) :=
        match cs with
        | '-' :: rest => (true, rest)
        | '+' :: rest => (false, rest)
        | rest => (false, rest)
      (digits? rest).map fun (digits, rest) => (some (negative, digits), rest)

/-- The number at the start of a text, and the rest. A zero in front of further digits is an
error. -/
def numeral? (cs : List Char) : Option (Numeral × List Char) := do
  let (negative, cs) :=
    match cs with
    | '-' :: rest => (true, rest)
    | rest => (false, rest)
  let (whole, cs) ← digits? cs
  if 1 < whole.length && whole.head? == some '0' then none
  let (fraction, cs) ← fraction? cs
  let (exponent, cs) ← exponent? cs
  some (⟨negative, whole, fraction, exponent⟩, cs)

mutual

/-- The value at the start of a text, and the rest. The first argument bounds the number of
steps. -/
def value? : Nat → List Char → Option (Tree × List Char)
  | 0, _ => none
  | fuel + 1, cs =>
    match skipSpace cs with
    | [] => none
    | '"' :: rest => (pieces? rest).map fun (pieces, rest) => (.string pieces, rest)
    | 'n' :: 'u' :: 'l' :: 'l' :: rest => some (.null, rest)
    | 't' :: 'r' :: 'u' :: 'e' :: rest => some (.bool true, rest)
    | 'f' :: 'a' :: 'l' :: 's' :: 'e' :: rest => some (.bool false, rest)
    | '[' :: rest =>
      match skipSpace rest with
      | ']' :: rest => some (.array [], rest)
      | rest => (items? fuel rest).map fun (items, rest) => (.array items, rest)
    | '\x7b' :: rest =>
      match skipSpace rest with
      | '\x7d' :: rest => some (.object [], rest)
      | rest => (members? fuel rest).map fun (members, rest) => (.object members, rest)
    | rest => (numeral? rest).map fun (n, rest) => (.number n, rest)

/-- The items of an array up to its closing bracket, and the rest. -/
def items? : Nat → List Char → Option (List Tree × List Char)
  | 0, _ => none
  | fuel + 1, cs => do
    let (item, cs) ← value? fuel cs
    match skipSpace cs with
    | ']' :: rest => some ([item], rest)
    | ',' :: rest =>
      let (items, rest) ← items? fuel rest
      some (item :: items, rest)
    | _ => none

/-- The members of an object up to its closing brace, and the rest. -/
def members? : Nat → List Char → Option (List (List Piece × Tree) × List Char)
  | 0, _ => none
  | fuel + 1, cs =>
    match skipSpace cs with
    | '"' :: cs => do
      let (key, cs) ← pieces? cs
      match skipSpace cs with
      | ':' :: cs =>
        let (value, cs) ← value? fuel cs
        match skipSpace cs with
        | '\x7d' :: rest => some ([(key, value)], rest)
        | ',' :: rest =>
          let (members, rest) ← members? fuel rest
          some ((key, value) :: members, rest)
        | _ => none
      | _ => none
    | _ => none

end

/-- The parse tree of a document: one value with nothing but space around it. Every second step
consumes a character. -/
def ofText? (cs : List Char) : Option Tree := do
  let (tree, rest) ← value? (2 * cs.length + 2) cs
  if (skipSpace rest).isEmpty then some tree else none

end Tree

end SkaterLedger.Json
