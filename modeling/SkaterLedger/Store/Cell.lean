import SkaterLedger.Failure
import SkaterLedger.Json.Printer

/-!
# Stored values

A cell holds a value of any kind, whatever its column asks for. A column's affinity turns values of
another kind into its own where nothing is lost, and leaves the others as they are.
-/

namespace SkaterLedger

/-- One stored value. -/
inductive Cell where
  /-- No value. -/
  | null
  /-- An integer. -/
  | integer (n : Int)
  /-- A binary64 number. -/
  | real (x : Binary64)
  /-- A text. -/
  | text (s : String)
  /-- Bytes. -/
  | blob (bytes : List UInt8)
deriving DecidableEq, Repr

/-- What a column prefers to store. -/
inductive Affinity where
  /-- Texts. -/
  | text
  /-- Integers. -/
  | integer
  /-- Binary64 numbers. -/
  | real
deriving DecidableEq, Repr

namespace Cell

/-- The kind of a value. -/
def kind : Cell → CellKind
  | null => .null
  | integer _ => .integer
  | real _ => .real
  | text _ => .text
  | blob _ => .blob

/-- A text or no value. -/
def ofText? : Option String → Cell
  | some s => text s
  | none => null

/-- A number or no value. Zero is stored without its sign. -/
def ofReal? : Option Binary64 → Cell
  | some x => real x.withoutNegativeZero
  | none => null

/-- Whether a cell holds a value that the cell of another row holds as well. -/
def sameValue (a b : Cell) : Bool := a != null && a == b

/-- Integers of 64 bits are less than this, `2^63`, and not less than its negative. -/
def integerLimit : Nat := 9223372036854775808

/-- The integer that a number is, if it is one of 64 bits. -/
def integerOfReal? (x : Binary64) : Option Int :=
  let whole := x.magnitude.units / Magnitude.unitsPerOne
  if x.isFinite && x.magnitude.units % Magnitude.unitsPerOne == 0 && whole < integerLimit then
    some (if x.negative then -whole else whole)
  else none

/-- Whether a character may stand around a number. -/
def isNumberSpace (c : Char) : Bool :=
  c == ' ' || c == '\t' || c == '\n' || c == '\x0b' || c == '\x0c' || c == '\r'

/-- The digits of a number without a sign in front. -/
def unsigned : List Char → List Char
  | '-' :: rest => rest
  | '+' :: rest => rest
  | rest => rest

/-- The number that a text writes, with spaces around it allowed: an integer if it is written as one
and has 64 bits. -/
def numberOfText? (s : String) : Option Cell :=
  let body := ((s.toList.dropWhile isNumberSpace).reverse.dropWhile isNumberSpace).reverse
  let digits := unsigned body
  let size := Text.numberOfDigits digits
  (Binary64.ofText? body).map fun x =>
    let fits := size < integerLimit || x.negative && size == integerLimit
    if digits.all Text.isAsciiDigit && fits then integer (if x.negative then -size else size)
    else real x

/-- The value that is stored for a value given to a column. -/
def store (affinity : Affinity) : Cell → Cell
  | null => null
  | blob bytes => blob bytes
  | integer n =>
    match affinity with
    | .text => text (toString n)
    | .integer => integer n
    | .real => real (.ofInt n)
  | real x =>
    match affinity with
    | .text => text (String.ofList (Json.numberStyle.write x))
    | .integer =>
      match integerOfReal? x with
      | some n => integer n
      | none => real x
    | .real => real x.withoutNegativeZero
  | text s =>
    match affinity, numberOfText? s with
    | .text, _ => text s
    | _, none => text s
    | .integer, some (real x) =>
      match integerOfReal? x with
      | some n => integer n
      | none => real x
    | .integer, some number => number
    | .real, some (integer n) => real (.ofInt n)
    | .real, some (real x) => real x.withoutNegativeZero
    | .real, some other => other

/-- Two hexadecimal digits for every byte. -/
def hex (bytes : List UInt8) : List Char := bytes.flatMap fun b => Text.paddedHex 2 b.toNat

/-- A cell in a document. There is no notation for infinity there. -/
def toJson : Cell → Json
  | null => .null
  | integer n => .int n
  | real x => if x.isFinite then .real x else .null
  | text s => .str s
  | blob bytes => .str (String.ofList (hex bytes))

/-- The failure to read a cell as a column of a query's result. -/
def wrongKind (c : Cell) (index : Nat) (column : String) : Failure :=
  .store (.wrongKind c.kind index column)

/-- Reads a text from a column of a query's result. -/
def getText (index : Nat) (column : String) : Cell → Except Failure String
  | text s => .ok s
  | c => .error (c.wrongKind index column)

/-- Reads a text that may be missing. -/
def getText? (index : Nat) (column : String) : Cell → Except Failure (Option String)
  | null => .ok none
  | text s => .ok (some s)
  | c => .error (c.wrongKind index column)

/-- Reads an integer. -/
def getInteger (index : Nat) (column : String) : Cell → Except Failure Int
  | integer n => .ok n
  | c => .error (c.wrongKind index column)

/-- Reads a number that may be missing. -/
def getReal? (index : Nat) (column : String) : Cell → Except Failure (Option Binary64)
  | null => .ok none
  | real x => .ok (some x)
  | integer n => .ok (some (.ofInt n))
  | c => .error (c.wrongKind index column)

end Cell

end SkaterLedger
