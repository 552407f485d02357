import SkaterLedger.Binary64.Basic
import SkaterLedger.Text.Digit

/-!
# Decimal numerals

Reading the decimal notation of a number into the binary64 number nearest to it.
-/

namespace SkaterLedger

/-- A decimal number without sign: a natural number times a power of ten. -/
structure Decimal where
  /-- The number that the digits write. -/
  digits : Nat
  /-- The power of ten. -/
  exponent : Int
deriving DecidableEq, Repr

namespace Decimal

/-- Digits with this many places before the point exceed every finite magnitude. -/
def placesLimit : Int := 400

/-- The magnitude nearest to a decimal number. Exponents far out of range are decided by the number
of places, so that no giant power of ten is ever formed. -/
def toMagnitude (d : Decimal) : Magnitude :=
  let places := (Text.decimal d.digits).length + d.exponent
  if d.digits == 0 then .zero
  else if placesLimit < places then .infinity
  else if places < -placesLimit then .zero
  else if 0 ≤ d.exponent then .ofQuotient (d.digits * Nat.pow 10 d.exponent.toNat) 1
  else .ofQuotient d.digits (Nat.pow 10 (-d.exponent).toNat)

/-- A numeral's exponent: the mark `e` or `E`, an optional sign and at least one digit; 0 for the
empty text. -/
def exponentOf? : List Char → Option Int
  | [] => some 0
  | mark :: cs =>
    if mark != 'e' && mark != 'E' then none
    else
      let (negative, digits) :=
        match cs with
        | '-' :: rest => (true, rest)
        | '+' :: rest => (false, rest)
        | rest => (false, rest)
      if digits.isEmpty || !digits.all Text.isAsciiDigit then none
      else
        let n : Int := Text.numberOfDigits digits
        some (if negative then -n else n)

/-- The decimal number of a numeral without sign: digits with at most one point among or around
them, at least one digit, and an optional exponent. -/
def ofText? (cs : List Char) : Option Decimal :=
  let whole := cs.takeWhile Text.isAsciiDigit
  let rest := cs.dropWhile Text.isAsciiDigit
  let (fraction, tail) :=
    match rest with
    | '.' :: more => (more.takeWhile Text.isAsciiDigit, more.dropWhile Text.isAsciiDigit)
    | _ => ([], rest)
  if whole.isEmpty && fraction.isEmpty then none
  else
    (exponentOf? tail).map fun e =>
      ⟨Text.numberOfDigits (whole ++ fraction), e - fraction.length⟩

end Decimal

namespace Binary64

/-- The number nearest to what a numeral with an optional sign writes. -/
def ofText? (cs : List Char) : Option Binary64 :=
  let (negative, body) :=
    match cs with
    | '-' :: rest => (true, rest)
    | '+' :: rest => (false, rest)
    | _ => (false, cs)
  (Decimal.ofText? body).map fun d => ⟨negative, d.toMagnitude⟩

end Binary64

end SkaterLedger
