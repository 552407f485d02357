import SkaterLedger.Binary64.Decimal

/-!
# Shortest decimal notation

The fewest decimal digits that read back to a magnitude, and among those the nearest to it, laid
out positionally or with an exponent.
-/

namespace SkaterLedger

namespace Magnitude

/-- A power of ten as a quotient: the factor of the numerator and that of the denominator. -/
def powerOfTen (e : Int) : Nat × Nat :=
  if 0 ≤ e then (Nat.pow 10 e.toNat, 1) else (1, Nat.pow 10 (-e).toNat)

/-- The places that make every positive magnitude at least one when the point moves over them. -/
def leadPlaces : Nat := 400

/-- The exponent of the leading decimal digit of a positive finite magnitude. -/
def leadingExponent (m : Magnitude) : Int :=
  (Text.decimal (m.units * Nat.pow 10 leadPlaces / unitsPerOne)).length - 1 - leadPlaces

/-- The two neighbours of a magnitude on the grid of multiples of `10^e`, the nearer one first and
of two equally near ones the even one. -/
def gridNeighbours (m : Magnitude) (e : Int) : List Decimal :=
  let (up, down) := powerOfTen e
  let num := m.units * down
  let den := unitsPerOne * up
  let below := num / den
  let nearest := roundQuotient num den
  if nearest == below then [⟨below, e⟩, ⟨below + 1, e⟩] else [⟨below + 1, e⟩, ⟨below, e⟩]

/-- The number of digits that tells all magnitudes apart. -/
def maxDigits : Nat := 17

/-- The exact decimal notation of a finite magnitude. -/
def exactDecimal (m : Magnitude) : Decimal := ⟨m.units * Nat.pow 5 1074, -1074⟩

/-- The shortest decimal number that reads back to a finite magnitude: the grids are tried from the
coarsest on. -/
def shortest (m : Magnitude) : Decimal :=
  if m.rank == 0 then ⟨0, 0⟩
  else
    let lead := m.leadingExponent
    let grids := (List.range maxDigits).map fun (n : Nat) => lead - n
    let candidates := grids.flatMap m.gridNeighbours
    (candidates.find? fun d => d.toMagnitude == m).getD m.exactDecimal

end Magnitude

/-- How the notation of a number is laid out. -/
structure NumberStyle where
  /-- What stands before an exponent that is not negative. -/
  exponentSign : List Char
  /-- The notation of infinity. -/
  infinity : List Char
deriving DecidableEq, Repr

namespace NumberStyle

/-- The digits of a decimal number without the zeros at their end, with the exponent adjusted. -/
def trimZeros (d : Decimal) : List Char × Int :=
  let digits := Text.decimal d.digits
  let significant := (digits.reverse.dropWhile (· == '0')).reverse
  (significant, d.exponent + (digits.length - significant.length : Nat))

/-- Lays out the digits of a positive number, of which `point` stand before the decimal point. Up to
sixteen places before the point and four zeros after it are written out. -/
def place (style : NumberStyle) (digits : List Char) (point : Int) : List Char :=
  if (digits.length : Int) ≤ point && point ≤ 16 then
    digits ++ List.replicate (point.toNat - digits.length) '0' ++ ['.', '0']
  else if 0 < point && point ≤ 16 then
    digits.take point.toNat ++ '.' :: digits.drop point.toNat
  else if -5 < point && point ≤ 0 then
    '0' :: '.' :: List.replicate (-point).toNat '0' ++ digits
  else
    let e := point - 1
    let exponent :=
      if e < 0 then '-' :: Text.decimal e.natAbs else style.exponentSign ++ Text.decimal e.natAbs
    match digits with
    | [] => []
    | [d] => d :: 'e' :: exponent
    | d :: ds => d :: '.' :: ds ++ 'e' :: exponent

/-- The notation of a number: its shortest decimal number, with at least one place after the point
when there is no exponent. -/
def write (style : NumberStyle) (x : Binary64) : List Char :=
  let body :=
    if x.magnitude.isInfinite then style.infinity
    else if x.isZero then ['0', '.', '0']
    else
      let (digits, exponent) := trimZeros x.magnitude.shortest
      style.place digits (digits.length + exponent)
  if x.negative then '-' :: body else body

end NumberStyle

end SkaterLedger
