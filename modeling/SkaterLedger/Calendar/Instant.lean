import SkaterLedger.Calendar.Date
import SkaterLedger.Text.Digit

/-!
# Instants

Points in time with a resolution of nanoseconds, and their notation in coordinated universal time. A
leap second is the second before it with a thousand million nanoseconds more, so that instants
are ordered by second and nanosecond.
-/

namespace SkaterLedger

/-- A point in time. -/
structure Instant where
  /-- The seconds since the start of 1970, leap seconds not counted. -/
  seconds : Int
  /-- The nanoseconds since that second; `10^9` or more within a leap second. -/
  nanos : Nat
deriving DecidableEq, Repr

/-- A date and the time of day on a clock. -/
structure CivilTime where
  /-- The date. -/
  date : Date
  /-- The hour, from 0. -/
  hour : Nat
  /-- The minute, from 0. -/
  minute : Nat
  /-- The second, from 0; 60 in a leap second. -/
  second : Nat
deriving DecidableEq, Repr

/-- How many digits the fraction of a second has. -/
inductive FractionDigits where
  /-- Always six. -/
  | six
  /-- None, three, six or nine, as few as write the nanoseconds. -/
  | asNeeded
deriving DecidableEq, Repr

namespace Instant

/-- The nanoseconds of a second. -/
def nanosPerSecond : Nat := 1000000000

/-- The seconds of a day. -/
def secondsPerDay : Nat := 86400

/-- Whether an instant lies in a leap second. -/
def isLeapSecond (t : Instant) : Bool := nanosPerSecond ≤ t.nanos

/-- The date and time of day in coordinated universal time. -/
def toCivil (t : Instant) : CivilTime :=
  let second := (t.seconds % secondsPerDay).toNat
  { date := .ofDays (t.seconds / secondsPerDay)
    hour := second / 3600
    minute := second / 60 % 60
    second := second % 60 + if t.isLeapSecond then 1 else 0 }

end Instant

namespace CivilTime

/-- Four digits of a year; with a sign in front beyond those that four digits write. -/
def yearDigits (year : Int) : List Char :=
  let digits := Text.paddedDecimal 4 year.natAbs
  if year < 0 then '-' :: digits else if 9999 < year then '+' :: digits else digits

/-- A date with dashes, as in `2025-10-30`. -/
def dateDigits (d : Date) : List Char :=
  yearDigits d.year ++ '-' :: Text.paddedDecimal 2 d.month ++ '-' :: Text.paddedDecimal 2 d.day

/-- The time of day with colons, as in `19:50:26`. -/
def clockDigits (t : CivilTime) : List Char :=
  Text.paddedDecimal 2 t.hour ++ ':' :: Text.paddedDecimal 2 t.minute ++
    ':' :: Text.paddedDecimal 2 t.second

/-- Date and time without separators, as in `20251030_195026`: the form that file names use. -/
def fileStamp (t : CivilTime) : List Char :=
  yearDigits t.date.year ++ Text.paddedDecimal 2 t.date.month ++ Text.paddedDecimal 2 t.date.day ++
    '_' :: Text.paddedDecimal 2 t.hour ++ Text.paddedDecimal 2 t.minute ++
    Text.paddedDecimal 2 t.second

end CivilTime

namespace Instant

/-- The fraction of a second with a point in front. -/
def fractionDigits (digits : FractionDigits) (nanos : Nat) : List Char :=
  match digits with
  | .six => '.' :: Text.paddedDecimal 6 (nanos / 1000)
  | .asNeeded =>
    if nanos == 0 then []
    else if nanos % 1000000 == 0 then '.' :: Text.paddedDecimal 3 (nanos / 1000000)
    else if nanos % 1000 == 0 then '.' :: Text.paddedDecimal 6 (nanos / 1000)
    else '.' :: Text.paddedDecimal 9 nanos

/-- An instant in the notation of RFC 3339, as in `2025-10-30T19:50:26.000000Z`. -/
def write (digits : FractionDigits) (t : Instant) : List Char :=
  let civil := t.toCivil
  CivilTime.dateDigits civil.date ++ 'T' :: civil.clockDigits ++
    fractionDigits digits (t.nanos % nanosPerSecond) ++ ['Z']

/-- The timestamp that the ledger stores: six digits of the fraction, whatever they are, so that
timestamps sort as texts. -/
def timestamp (t : Instant) : String := String.ofList (t.write .six)

/-- The notation of an instant in documents. -/
def toDocument (t : Instant) : String := String.ofList (t.write .asNeeded)

end Instant

end SkaterLedger
