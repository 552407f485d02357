/-!
# Reading CSV

A record ends at a line feed, a carriage return or both, and lines without any character are no
records. A field that starts with a quotation mark goes on to the next one that is not doubled;
a quotation mark anywhere else is a character like others.

The reader goes through the text once. What it returns starts with the rest of the current record,
whose first field is the rest of the current field. It reads characters as well as bytes, so that a
file may have fields that cannot be decoded.
-/

namespace SkaterLedger.Csv

/-- The symbols that give a text its structure. -/
structure Marks (α : Type) where
  /-- What stands between fields. -/
  comma : α
  /-- The quotation mark. -/
  quote : α
  /-- The line feed. -/
  lineFeed : α
  /-- The carriage return. -/
  carriageReturn : α
  /-- What may stand in front of a text to tell its encoding. -/
  byteOrderMark : List α

/-- The marks of a text of characters. -/
def Marks.ofChars : Marks Char := ⟨',', '"', '\n', '\r', ['\uFEFF']⟩

/-- The marks of a text of bytes. -/
def Marks.ofBytes : Marks UInt8 := ⟨0x2C, 0x22, 0x0A, 0x0D, [0xEF, 0xBB, 0xBF]⟩

/-- Where a reader stands. -/
inductive Place where
  /-- At the start of a line. -/
  | lineStart
  /-- At the start of a field. -/
  | fieldStart
  /-- In a field without quotation marks, or after its closing one. -/
  | inField
  /-- Between quotation marks. -/
  | inQuotes
  /-- After a quotation mark between quotation marks: the closing one, or the first of two. -/
  | afterQuote
deriving DecidableEq, Repr

variable {α : Type}

/-- Puts a symbol in front of the current field. -/
def addSymbol (c : α) : List (List (List α)) → List (List (List α))
  | (field :: fields) :: records => ((c :: field) :: fields) :: records
  | records => records

/-- Puts an empty field in front of the current record. -/
def addField : List (List (List α)) → List (List (List α))
  | record :: records => ([] :: record) :: records
  | [] => []

variable [DecidableEq α]

/-- Whether a symbol ends a record. -/
def Marks.endsLine (marks : Marks α) (c : α) : Bool :=
  c == marks.lineFeed || c == marks.carriageReturn

/-- The rest of the current record and the records after it. The end of the text ends an open
record. -/
def recordsFrom (marks : Marks α) : Place → List α → List (List (List α))
  | .lineStart, [] => []
  | _, [] => [[[]]]
  | .inQuotes, c :: cs =>
    if c == marks.quote then recordsFrom marks .afterQuote cs
    else addSymbol c (recordsFrom marks .inQuotes cs)
  | place, c :: cs =>
    if marks.endsLine c then
      if place == .lineStart then recordsFrom marks .lineStart cs
      else [[]] :: recordsFrom marks .lineStart cs
    else if c == marks.comma then addField (recordsFrom marks .fieldStart cs)
    else if c == marks.quote then
      if place == .inField then addSymbol c (recordsFrom marks .inField cs)
      else if place == .afterQuote then addSymbol c (recordsFrom marks .inQuotes cs)
      else recordsFrom marks .inQuotes cs
    else addSymbol c (recordsFrom marks .inField cs)

/-- A text without the byte order mark that may stand in front. -/
def Marks.dropByteOrderMark (marks : Marks α) (cs : List α) : List α :=
  if marks.byteOrderMark.isPrefixOf cs then cs.drop marks.byteOrderMark.length else cs

/-- The records of a text: their fields as lists of symbols. -/
def records (marks : Marks α) (cs : List α) : List (List (List α)) :=
  recordsFrom marks .lineStart (marks.dropByteOrderMark cs)

end SkaterLedger.Csv
