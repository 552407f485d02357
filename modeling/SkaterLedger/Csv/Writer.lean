/-!
# Writing CSV

A record is its fields with commas between them and a line feed at the end. A field stands between
quotation marks when it holds a comma, a quotation mark or a line end; a quotation mark in it is
written twice.
-/

namespace SkaterLedger.Csv

/-- Whether a character of a field makes quotation marks necessary. -/
def needsQuotes (c : Char) : Bool := c == ',' || c == '"' || c == '\n' || c == '\r'

/-- A field between quotation marks. -/
def quoteField (cs : List Char) : List Char :=
  '"' :: cs.flatMap (fun c => if c == '"' then ['"', '"'] else [c]) ++ ['"']

/-- One field. -/
def writeField (cs : List Char) : List Char := if cs.any needsQuotes then quoteField cs else cs

/-- A record with its line feed. A record of a single empty field is a pair of quotation marks,
since an empty line is no record. -/
def writeRecord (fields : List (List Char)) : List Char :=
  if fields == [[]] then ['"', '"', '\n']
  else [','].intercalate (fields.map writeField) ++ ['\n']

end SkaterLedger.Csv
