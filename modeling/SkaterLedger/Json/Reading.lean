import SkaterLedger.Binary64.Decimal
import SkaterLedger.Json.Tree
import SkaterLedger.Json.Value

/-!
# Values of JSON text

What the numbers and strings of a parse tree mean, and the records that documents are made of. A
number is scaled by one multiplication or division with a rounded power of ten, so a number of many
digits may end up beside its nearest neighbour.
-/

namespace SkaterLedger.Json

/-- The largest integer that digits are gathered into, `2^64 - 1`. -/
def maxSignificand : Nat := 18446744073709551615

/-- The largest exponent that digits are gathered into, `2^31 - 1`. -/
def maxExponent : Nat := 2147483647

/-- Appends digits to a number as long as the result stays within the limit; also returns the digits
left over. -/
def gather (limit start : Nat) : List Char → Nat × List Char
  | [] => (start, [])
  | d :: ds =>
    let next := 10 * start + Text.digitValue d
    if next ≤ limit then gather limit next ds else (start, d :: ds)

/-- The magnitude nearest to a power of ten. -/
def powerOfTen (n : Nat) : Magnitude := Decimal.toMagnitude ⟨1, n⟩

/-- The largest power of ten that is a finite magnitude. -/
def maxPower : Nat := 308

/-- Moves the decimal point of a magnitude by the exponent; `none` beyond the finite magnitudes. The
first argument bounds the number of divisions by the largest power. -/
def scale : Nat → Magnitude → Int → Option Magnitude
  | 0, m, _ => some m
  | fuel + 1, m, e =>
    if e.natAbs ≤ maxPower then
      if 0 ≤ e then
        let scaled := m * powerOfTen e.natAbs
        if scaled.isInfinite then none else some scaled
      else some (m / powerOfTen e.natAbs)
    else if m.rank == 0 then some m
    else if 0 ≤ e then none
    else scale fuel (m / powerOfTen maxPower) (e + maxPower)

/-- A significand times a power of ten. -/
def realOfParts (negative : Bool) (significand : Nat) (e : Int) : Option Json :=
  (scale (e.natAbs / maxPower + 1) (.ofNat significand) e).map fun m => real ⟨negative, m⟩

/-- The size of the least integer, `2^63`. -/
def leastIntegerSize : Nat := 9223372036854775808

/-- A number without point and exponent whose digits fit the significand. Zero with a minus sign and
what lies below the integers of 64 bits are not integers. -/
def intOfParts (negative : Bool) (significand : Nat) : Json :=
  if !negative then int significand
  else if significand == 0 || leastIntegerSize < significand then real ⟨true, .ofNat significand⟩
  else int (-significand)

/-- The value of a number; `none` if it is out of range. -/
def Numeral.value? (n : Numeral) : Option Json :=
  let (significand, skipped) := gather maxSignificand 0 n.whole
  if skipped.isEmpty && n.fraction.isNone && n.exponent.isNone then
    some (intOfParts n.negative significand)
  else
    let places := n.fraction.getD []
    let (significand, dropped) := gather maxSignificand significand places
    let e : Int := skipped.length - (places.length - dropped.length : Nat)
    match n.exponent with
    | none => realOfParts n.negative significand e
    | some (down, digits) =>
      let (shift, excess) := gather maxExponent 0 digits
      if excess.isEmpty then
        realOfParts n.negative significand (if down then e - shift else e + shift)
      else if significand != 0 && !down then none
      else some (real ⟨n.negative, .zero⟩)

/-- Whether a code unit is the first half of a surrogate pair. -/
def isHighSurrogate (n : Nat) : Bool := 0xD800 ≤ n && n ≤ 0xDBFF

/-- Whether a code unit is the second half of a surrogate pair. -/
def isLowSurrogate (n : Nat) : Bool := 0xDC00 ≤ n && n ≤ 0xDFFF

/-- The characters of a string; `none` if half a surrogate pair stands alone. -/
def chars? : List Piece → Option (List Char)
  | [] => some []
  | .char c :: rest => (chars? rest).map (c :: ·)
  | [.unit n] =>
    if isHighSurrogate n || isLowSurrogate n then none else some [Char.ofNat n]
  | .unit n :: .unit m :: rest =>
    if isHighSurrogate n then
      if isLowSurrogate m then
        (chars? rest).map
          (Char.ofNat (0x10000 + (n - 0xD800) * 0x400 + (m - 0xDC00)) :: ·)
      else none
    else if isLowSurrogate n then none
    else (chars? (.unit m :: rest)).map (Char.ofNat n :: ·)
  | .unit n :: .char c :: rest =>
    if isHighSurrogate n || isLowSurrogate n then none
    else (chars? rest).map fun cs => Char.ofNat n :: c :: cs

namespace Tree

/-- The string of a parse tree. -/
def string? : Tree → Option String
  | .string pieces => (chars? pieces).map String.ofList
  | _ => none

mutual

/-- The value of a parse tree whose arrays and objects nest less than `depth` deep. Of the members
of one key the last one counts. -/
def toValue? (depth : Nat) : Tree → Option Json
  | .null => some .null
  | .bool b => some (.bool b)
  | .number n => n.value?
  | .string pieces => (chars? pieces).map fun cs => .str (String.ofList cs)
  | .array items =>
    if depth ≤ 1 then none else (toValues? (depth - 1) items).map .arr
  | .object members =>
    if depth ≤ 1 then none
    else (toMembers? (depth - 1) members).map fun members => .obj (sortMembers members)

/-- The values of the items of an array. -/
def toValues? (depth : Nat) : List Tree → Option (List Json)
  | [] => some []
  | item :: items => do
    let value ← toValue? depth item
    let values ← toValues? depth items
    some (value :: values)

/-- The keys and values of the members of an object. -/
def toMembers? (depth : Nat) : List (List Piece × Tree) → Option (List (String × Json))
  | [] => some []
  | (key, item) :: members => do
    let key ← chars? key
    let value ← toValue? depth item
    let rest ← toMembers? depth members
    some ((String.ofList key, value) :: rest)

end

/-- The nesting that a document may reach, less one. -/
def depthLimit : Nat := 128

/-- A number as binary64. -/
def real? : Tree → Option Binary64
  | .number n =>
    match n.value? with
    | some (.int i) => some (.ofInt i)
    | some (.real x) => some x
    | _ => none
  | _ => none

/-- Reads a part that may be missing or `null`. -/
def optional (read : Tree → Option α) : Option Tree → Option (Option α)
  | none => some none
  | some .null => some none
  | some tree => (read tree).map some

/-- The members of an object with their keys read. -/
def keyed? : List (List Piece × Tree) → Option (List (String × Tree))
  | [] => some []
  | (key, tree) :: members => do
    let key ← chars? key
    let rest ← keyed? members
    some ((String.ofList key, tree) :: rest)

/-- The fields of a record: the members of an object with one of the given names, none of them
twice, or the items of an array in the order of the names. -/
def record? (names : List String) : Tree → Option (List (String × Tree))
  | .object members => do
    let fields ← keyed? members
    let known := fields.filter fun field => names.contains field.1
    if (known.map (·.1)).Nodup then some known else none
  | .array items => if names.length < items.length then none else some (names.zip items)
  | _ => none

end Tree

/-- The value of a document. -/
def parse? (cs : List Char) : Option Json := do
  (← Tree.ofText? cs).toValue? Tree.depthLimit

end SkaterLedger.Json
