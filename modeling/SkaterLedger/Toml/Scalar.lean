import SkaterLedger.Binary64.Decimal
import SkaterLedger.Calendar.Date
import SkaterLedger.Toml.Text

/-!
# TOML scalars

Reading numbers, dates and times, and scalars of any kind at the start of a text. Every reader
returns the rest of the text.
-/

namespace SkaterLedger.Toml

/-- Digits at the start of a text, with single underscores between them, and the rest. The
underscores are left out. -/
def digitRun? (isDigit : Char → Bool) (cs : List Char) : Option (List Char × List Char) :=
  let run := cs.takeWhile fun c => isDigit c || c == '_'
  let groups := run.splitOnP (· == '_')
  if groups.any List.isEmpty then none else some (groups.flatten, cs.drop run.length)

/-- An optional sign at the start of a text, and the rest. -/
def sign : List Char → List Char × List Char
  | '+' :: rest => (['+'], rest)
  | '-' :: rest => (['-'], rest)
  | rest => ([], rest)

/-- A decimal number without superfluous zeros in front. -/
def decimal? (cs : List Char) : Option (List Char × List Char) :=
  match cs with
  | '0' :: rest =>
    if rest.head?.any fun c => Text.isAsciiDigit c || c == '_' then none
    else some (['0'], rest)
  | _ => digitRun? Text.isAsciiDigit cs

/-- The value of digits to a base. -/
def valueOf (base : Nat) (digits : List Char) : Nat :=
  digits.foldl (fun n c => base * n + (Text.hexValue? c).getD 0) 0

/-- The largest integer, `2^63 - 1`. -/
def maxInteger : Nat := 9223372036854775807

/-- An integer with a prefix for its base. -/
def prefixed? (base : Nat) (cs : List Char) : Option (Value × List Char) := do
  let isDigit (c : Char) := (Text.hexValue? c).any (· < base)
  let (digits, rest) ← digitRun? isDigit cs
  let n := valueOf base digits
  if n ≤ maxInteger then some (.integer n, rest) else none

/-- The fraction of a number, if a point stands at the start of a text. -/
def fraction? : List Char → Option (List Char × List Char)
  | '.' :: cs => (digitRun? Text.isAsciiDigit cs).map fun (digits, rest) => ('.' :: digits, rest)
  | cs => some ([], cs)

/-- The exponent of a number, if its mark stands at the start of a text. -/
def exponent? : List Char → Option (List Char × List Char)
  | c :: cs =>
    if c == 'e' || c == 'E' then
      let (s, rest) := sign cs
      (digitRun? Text.isAsciiDigit rest).map fun (digits, rest) => ('e' :: s ++ digits, rest)
    else some ([], c :: cs)
  | [] => some ([], [])

/-- A number. -/
def number? (cs : List Char) : Option (Value × List Char) :=
  match cs with
  | '0' :: 'x' :: rest => prefixed? 16 rest
  | '0' :: 'o' :: rest => prefixed? 8 rest
  | '0' :: 'b' :: rest => prefixed? 2 rest
  | _ =>
    let (s, body) := sign cs
    match body with
    | 'i' :: 'n' :: 'f' :: rest => some (.float (s ++ ['i', 'n', 'f']), rest)
    | 'n' :: 'a' :: 'n' :: rest => some (.float (s ++ ['n', 'a', 'n']), rest)
    | _ => do
      let (whole, rest) ← decimal? body
      let (fraction, rest) ← fraction? rest
      let (exponent, rest) ← exponent? rest
      if fraction.isEmpty && exponent.isEmpty then
        let n := Text.numberOfDigits whole
        if s == ['-'] then
          if n ≤ maxInteger + 1 then some (.integer (-n), rest) else none
        else if n ≤ maxInteger then some (.integer n, rest) else none
      else
        let text := s ++ whole ++ fraction ++ exponent
        let x ← Binary64.ofText? text
        if x.magnitude.isInfinite && !x.negative then none else some (.float text, rest)

/-- A number of exactly so many digits, at most `most`. -/
def fixed? (width most : Nat) (cs : List Char) : Option (Nat × List Char) :=
  let digits := cs.take width
  let n := Text.numberOfDigits digits
  if digits.length == width && digits.all Text.isAsciiDigit && n ≤ most then
    some (n, cs.drop width)
  else none

/-- The rest of a text that starts with a given character. -/
def expect? (c : Char) : List Char → Option (List Char)
  | d :: rest => if d == c then some rest else none
  | [] => none

/-- The rest after a date. -/
def date? (cs : List Char) : Option (List Char) := do
  let (year, rest) ← fixed? 4 9999 cs
  let (month, rest) ← fixed? 2 12 (← expect? '-' rest)
  let (day, rest) ← fixed? 2 31 (← expect? '-' rest)
  if (Date.mk year month day).isValid then some rest else none

/-- The rest after a time of day. -/
def time? (cs : List Char) : Option (List Char) := do
  let (_, rest) ← fixed? 2 23 cs
  let (_, rest) ← fixed? 2 59 (← expect? ':' rest)
  let (_, rest) ← fixed? 2 60 (← expect? ':' rest)
  match rest with
  | '.' :: rest =>
    if rest.head?.any Text.isAsciiDigit then some (rest.dropWhile Text.isAsciiDigit)
    else none
  | _ => some rest

/-- The rest after an offset, if one stands at the start of a text. -/
def offset? (cs : List Char) : Option (List Char) :=
  match cs with
  | c :: rest =>
    if c == 'Z' || c == 'z' then some rest
    else if c == '+' || c == '-' then do
      let (_, rest) ← fixed? 2 23 rest
      let (_, rest) ← fixed? 2 59 (← expect? ':' rest)
      some rest
    else some cs
  | [] => some []

/-- The rest after a date, after which a time of day and an offset may stand. -/
def dateAndTime? (cs : List Char) : Option (List Char) := do
  let rest ← date? cs
  match rest with
  | c :: more =>
    if c == 'T' || c == 't' || c == ' ' then
      match time? more with
      | some rest => offset? rest
      | none => some rest
    else some rest
  | [] => some []

/-- Whether a text starts like a date or a time of day. -/
def startsMoment (cs : List Char) : Bool :=
  let digits := cs.takeWhile Text.isAsciiDigit
  (digits.length == 4 && (cs.drop 4).head? == some '-') ||
    (digits.length == 2 && (cs.drop 2).head? == some ':')

/-- A date, a time of day or both. -/
def moment? (cs : List Char) : Option (Value × List Char) := do
  let rest ← if (cs.drop 2).head? == some ':' then time? cs else dateAndTime? cs
  some (.moment (cs.take (cs.length - rest.length)), rest)

/-- A scalar. -/
def scalar? (cs : List Char) : Option (Value × List Char) :=
  match cs with
  | '"' :: _ => (string? cs).map fun (s, rest) => (.string (String.ofList s), rest)
  | '\'' :: _ => (string? cs).map fun (s, rest) => (.string (String.ofList s), rest)
  | 't' :: 'r' :: 'u' :: 'e' :: rest => some (.boolean true, rest)
  | 'f' :: 'a' :: 'l' :: 's' :: 'e' :: rest => some (.boolean false, rest)
  | _ => if startsMoment cs then moment? cs else number? cs

end SkaterLedger.Toml
