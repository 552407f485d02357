import SkaterLedger.Calendar.Instant
import SkaterLedger.Text.Blank

/-!
# Reading RFC 3339 timestamps

Two readers: the strict one for the timestamps that the ledger stores, and the lenient one for
those in documents, which allows blanks between the parts, years with a sign and the word `UTC`.
-/

namespace SkaterLedger.Rfc3339

/-- A number of at least `least` and at most `most` ASCII digits at the start of a text, and the
rest. -/
def number? (least most : Nat) (cs : List Char) : Option (Nat × List Char) :=
  let digits := (cs.take most).takeWhile Text.isAsciiDigit
  if digits.length < least then none
  else some (Text.numberOfDigits digits, cs.drop digits.length)

/-- The rest of a text that starts with a given character. -/
def expect? (c : Char) : List Char → Option (List Char)
  | d :: rest => if d == c then some rest else none
  | [] => none

/-- The rest of a text that starts with the separator of date and time. -/
def separator? : List Char → Option (List Char)
  | c :: rest => if c == 'T' || c == 't' || c == ' ' then some rest else none
  | [] => none

/-- The nanoseconds of a fraction at the start of a text, 0 without a point, and the rest. Digits
after the ninth are dropped. -/
def nanos? : List Char → Option (Nat × List Char)
  | '.' :: cs => do
    let (n, rest) ← number? 1 9 cs
    let used := cs.length - rest.length
    some (n * Nat.pow 10 (9 - used), rest.dropWhile Text.isAsciiDigit)
  | cs => some (0, cs)

/-- The offset from universal time in seconds at the start of a text, and the rest. `skip` passes
over what stands between hours and minutes. -/
def offset? (skip : List Char → Option (List Char)) (cs : List Char) :
    Option (Int × List Char) :=
  match cs with
  | [] => none
  | c :: rest =>
    if c == 'Z' || c == 'z' then some (0, rest)
    else if c == '+' || c == '-' || c == '−' then do
      let (hours, rest) ← number? 2 2 rest
      let rest ← skip rest
      let (minutes, rest) ← number? 2 2 rest
      if 60 ≤ minutes then none
      let seconds : Int := hours * 3600 + minutes * 60
      some (if c == '+' then seconds else -seconds, rest)
    else none

/-- The first year of the calendar's range. -/
def firstYear : Int := -262143

/-- The last year of the calendar's range. -/
def lastYear : Int := 262142

/-- Whether a year lies in the calendar's range. -/
def yearInRange (year : Int) : Bool := firstYear ≤ year && year ≤ lastYear

/-- The instant that a local date and time and an offset name. The second 60 is a leap second. -/
def instant? (t : CivilTime) (nanos : Nat) (offset : Int) : Option Instant :=
  if !t.date.isValid || !yearInRange t.date.year || 23 < t.hour || 59 < t.minute ||
      60 < t.second || (Instant.secondsPerDay : Int) ≤ offset.natAbs then none
  else
    let (second, extra) := if t.second == 60 then (59, Instant.nanosPerSecond) else (t.second, 0)
    let secondOfDay := t.hour * 3600 + t.minute * 60 + second
    let seconds : Int := t.date.toDays * Instant.secondsPerDay + secondOfDay - offset
    let instant : Instant := ⟨seconds, nanos + extra⟩
    if yearInRange instant.toCivil.date.year then some instant else none

/-- Reads a timestamp with every part at its width. -/
def strict? (s : String) : Option Instant := do
  let (year, cs) ← number? 4 4 s.toList
  let cs ← expect? '-' cs
  let (month, cs) ← number? 2 2 cs
  let cs ← expect? '-' cs
  let (day, cs) ← number? 2 2 cs
  let cs ← separator? cs
  let (hour, cs) ← number? 2 2 cs
  let cs ← expect? ':' cs
  let (minute, cs) ← number? 2 2 cs
  let cs ← expect? ':' cs
  let (second, cs) ← number? 2 2 cs
  let (nanos, cs) ← nanos? cs
  let (offset, cs) ← offset? (expect? ':') cs
  if cs.isEmpty then instant? ⟨⟨year, month, day⟩, hour, minute, second⟩ nanos offset else none

/-- A year at the start of a text: four digits at most, or a sign and any number of digits. -/
def signedYear? : List Char → Option (Int × List Char)
  | '-' :: cs => (number? 1 cs.length cs).map fun (n, rest) => (-n, rest)
  | '+' :: cs => (number? 1 cs.length cs).map fun (n, rest) => (n, rest)
  | cs => (number? 1 4 cs).map fun (n, rest) => (n, rest)

/-- The offset of the lenient form: also the word `UTC`, and any colons and blanks between hours and
minutes. -/
def lenientOffset? (cs : List Char) : Option (Int × List Char) :=
  if (cs.take 3).map Char.toUpper == ['U', 'T', 'C'] then some (0, cs.drop 3)
  else offset? (fun cs => some (cs.dropWhile fun c => c == ':' || Text.isBlank c)) cs

/-- Reads a timestamp with blanks allowed between its parts and numbers that may lack leading
zeros. -/
def lenient? (s : String) : Option Instant := do
  let (year, cs) ← signedYear? (Text.trimStart s.toList)
  let cs ← expect? '-' (Text.trimStart cs)
  let (month, cs) ← number? 1 2 (Text.trimStart cs)
  let cs ← expect? '-' (Text.trimStart cs)
  let (day, cs) ← number? 1 2 (Text.trimStart cs)
  let cs ← separator? cs
  let (hour, cs) ← number? 1 2 (Text.trimStart cs)
  let cs ← expect? ':' (Text.trimStart cs)
  let (minute, cs) ← number? 1 2 (Text.trimStart cs)
  let cs ← expect? ':' (Text.trimStart cs)
  let (second, cs) ← number? 1 2 (Text.trimStart cs)
  let (nanos, cs) ← nanos? cs
  let (offset, cs) ← lenientOffset? (Text.trimStart cs)
  if (Text.trimStart cs).isEmpty then
    instant? ⟨⟨year, month, day⟩, hour, minute, second⟩ nanos offset
  else none

end SkaterLedger.Rfc3339
