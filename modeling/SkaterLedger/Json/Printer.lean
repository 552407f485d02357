import SkaterLedger.Binary64.Shortest
import SkaterLedger.Json.Value

/-!
# JSON text

The compact form, on which checksums are taken, and the indented form of the files. Strings keep
every character that JSON allows in them; numbers with a point or an exponent have the fewest digits
that read back. There is no notation for infinity: it is written `null`.
-/

namespace SkaterLedger.Json

/-- The style of the numbers in JSON text. -/
def numberStyle : NumberStyle := ⟨['+'], ['i', 'n', 'f']⟩

/-- One character of a string. -/
def escapeChar (c : Char) : List Char :=
  if c == '"' then ['\\', '"']
  else if c == '\\' then ['\\', '\\']
  else if c == '\n' then ['\\', 'n']
  else if c == '\r' then ['\\', 'r']
  else if c == '\t' then ['\\', 't']
  else if c == '\x08' then ['\\', 'b']
  else if c == '\x0c' then ['\\', 'f']
  else if c.toNat < 0x20 then '\\' :: 'u' :: Text.paddedHex 4 c.toNat
  else [c]

/-- A string between quotation marks. -/
def printString (s : String) : List Char := '"' :: s.toList.flatMap escapeChar ++ ['"']

/-- An integer. -/
def printInt (n : Int) : List Char :=
  if n < 0 then '-' :: Text.decimal n.natAbs else Text.decimal n.natAbs

/-- A number with a point or an exponent. -/
def printReal (x : Binary64) : List Char :=
  if x.isFinite then numberStyle.write x else ['n', 'u', 'l', 'l']

/-- The text of `null` or of a truth value. -/
def printWord : Option Bool → List Char
  | none => ['n', 'u', 'l', 'l']
  | some true => ['t', 'r', 'u', 'e']
  | some false => ['f', 'a', 'l', 's', 'e']

mutual

/-- The compact form of a value: no blanks. -/
def compact : Json → List Char
  | null => printWord none
  | bool b => printWord (some b)
  | int n => printInt n
  | real x => printReal x
  | str s => printString s
  | arr items => '[' :: compactItems items ++ [']']
  | obj members => '\x7b' :: compactMembers members ++ ['\x7d']

/-- The items of an array in compact form. -/
def compactItems : List Json → List Char
  | [] => []
  | [v] => compact v
  | v :: rest => compact v ++ ',' :: compactItems rest

/-- The members of an object in compact form. -/
def compactMembers : List (String × Json) → List Char
  | [] => []
  | [(k, v)] => printString k ++ ':' :: compact v
  | (k, v) :: rest => printString k ++ ':' :: compact v ++ ',' :: compactMembers rest

end

/-- A line feed and the indentation of a depth, two blanks each. -/
def newline (depth : Nat) : List Char := '\n' :: List.replicate (2 * depth) ' '

mutual

/-- The indented form of a value at a depth: every item and member on a line of its own. -/
def indented (depth : Nat) : Json → List Char
  | null => printWord none
  | bool b => printWord (some b)
  | int n => printInt n
  | real x => printReal x
  | str s => printString s
  | arr [] => ['[', ']']
  | arr items => '[' :: indentedItems (depth + 1) items ++ newline depth ++ [']']
  | obj [] => ['\x7b', '\x7d']
  | obj members => '\x7b' :: indentedMembers (depth + 1) members ++ newline depth ++ ['\x7d']

/-- The items of an array in indented form. -/
def indentedItems (depth : Nat) : List Json → List Char
  | [] => []
  | [v] => newline depth ++ indented depth v
  | v :: rest => newline depth ++ indented depth v ++ ',' :: indentedItems depth rest

/-- The members of an object in indented form. -/
def indentedMembers (depth : Nat) : List (String × Json) → List Char
  | [] => []
  | [(k, v)] => newline depth ++ printString k ++ ':' :: ' ' :: indented depth v
  | (k, v) :: rest =>
    newline depth ++ printString k ++ ':' :: ' ' :: indented depth v ++
      ',' :: indentedMembers depth rest

end

/-- The compact form as a string. -/
def toCompact (v : Json) : String := String.ofList (compact v)

/-- The indented form as a string. -/
def toIndented (v : Json) : String := String.ofList (indented 0 v)

end SkaterLedger.Json
