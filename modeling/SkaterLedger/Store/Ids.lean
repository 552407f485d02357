import SkaterLedger.Requests.Entry
import SkaterLedger.Text.Digit
import SkaterLedger.Text.Lowercase

/-!
# Ids of stored rows

The ids of competitions, events, skaters and families are made from their names, so that an import
finds what an earlier one has stored.
-/

namespace SkaterLedger

/-- A character of a key: blanks become underscores. -/
def keyChar (c : Char) : Char := if c == ' ' then '_' else c

/-- A character of a skater's key: blanks and dashes become underscores. -/
def nameKeyChar (c : Char) : Char := if c == ' ' || c == '-' then '_' else c

/-- The key of a competition: its name in lower case with underscores for blanks. -/
def competitionKey (name : String) : String :=
  String.ofList ((Text.lower name.toList).map keyChar)

/-- The id of a competition. -/
def competitionId (name : String) : String := "competition:" ++ competitionKey name

/-- The id of an event: the competition's key and the number of the event. -/
def eventId (competition : String) (number : Nat) : String :=
  "event:" ++ competitionKey competition ++ "_" ++ String.ofList (Text.decimal number)

/-- The id of a skater with a first and last name: the last name comes first. -/
def skaterIdOf (firstName lastName : String) : String :=
  "skater:" ++
    String.ofList ((Text.lower (lastName.toList ++ '_' :: firstName.toList)).map nameKeyChar)

/-- The id of the skater of an entry. -/
def Entry.skaterId (e : Entry) : String := skaterIdOf e.firstName e.lastName

/-- The id of the family of a last name. -/
def familyId (lastName : String) : String :=
  "family:" ++ String.ofList ((Text.lower (Text.trim lastName.toList)).map keyChar)

/-- The section of the skaters who did not ask for pictures. -/
def unrequestedSection : String := "Unrequested"

/-- Whether an entry was on the list of requests. -/
def Entry.requestStatus (e : Entry) : String :=
  if e.sectionName = some unrequestedSection then "unrequested" else "requested"

end SkaterLedger
