import SkaterLedger.Contacts.Contact
import SkaterLedger.Contacts.Similarity

/-!
# Contact reports

Finding the stored skaters that contacts name, and what follows from it: addresses to fill in and
siblings to put into one family. Nothing is written here.
-/

namespace SkaterLedger

/-- A skater as stored. -/
structure StoredSkater where
  /-- The skater's id. -/
  id : String
  /-- The first name. -/
  firstName : String
  /-- The last name. -/
  lastName : String
  /-- The address, if there is one. -/
  email : Option String
deriving DecidableEq, Repr

namespace StoredSkater

/-- The weight of the last name, the more reliable one. -/
def lastNameWeight : Magnitude := Decimal.toMagnitude ⟨6, -1⟩

/-- The weight of the first name. -/
def firstNameWeight : Magnitude := Decimal.toMagnitude ⟨4, -1⟩

/-- The least score of a match. -/
def matchThreshold : Magnitude := .ofNat 85

/-- How well a skater fits a first and last name, from 0 to 100. -/
def score (first last : String) (s : StoredSkater) : Magnitude :=
  Similarity.ofNames last s.lastName * lastNameWeight +
    Similarity.ofNames first s.firstName * firstNameWeight

/-- The better of the best skater so far and one more: the first of the skaters that reach the
threshold with the highest score. -/
def better (first last : String) (best : Option (StoredSkater × Magnitude)) (s : StoredSkater) :
    Option (StoredSkater × Magnitude) :=
  let score := s.score first last
  if score < matchThreshold then best
  else
    match best with
    | none => some (s, score)
    | some (b, bestScore) => if bestScore < score then some (s, score) else some (b, bestScore)

/-- The skater that a first and last name fit best, if any fits well enough. -/
def bestMatch? (first last : String) (skaters : List StoredSkater) : Option StoredSkater :=
  (skaters.foldl (better first last) none).map (·.1)

end StoredSkater

/-- A contact with the skaters that its names fit. -/
structure ContactMatch where
  /-- The contact. -/
  contact : Contact
  /-- The first names that fit, each with its skater. -/
  skaters : List (String × StoredSkater)
deriving DecidableEq, Repr

/-- An address to fill in. -/
structure EmailUpdate where
  /-- The skater's id. -/
  skaterId : String
  /-- The skater's last name as stored. -/
  lastName : String
  /-- The first name as the contact has it. -/
  firstName : String
  /-- The address. -/
  email : String
deriving DecidableEq, Repr

/-- Siblings to put into one family. -/
structure FamilyGroup where
  /-- The last name. -/
  lastName : String
  /-- All first names of the contact. -/
  firstNames : List String
  /-- The address, if there is one. -/
  email : Option String
  /-- The ids of the skaters that were found. -/
  skaterIds : List String
deriving DecidableEq, Repr

/-- What a contacts file says about the stored skaters. -/
structure ContactReport where
  /-- The contacts of which at least one name was found. -/
  matched : List ContactMatch
  /-- The contacts of which no name was found. -/
  unmatched : List Contact
  /-- The addresses to fill in. -/
  emailUpdates : List EmailUpdate
  /-- The families to form. -/
  familyGroups : List FamilyGroup
deriving DecidableEq, Repr

namespace ContactMatch

/-- A contact with the skaters found for its names, in the order of the names. -/
def ofContact (skaters : List StoredSkater) (contact : Contact) : ContactMatch where
  contact := contact
  skaters := contact.firstNames.filterMap fun first =>
    (StoredSkater.bestMatch? first contact.lastName skaters).map fun s => (first, s)

/-- The addresses that a match fills in: one for each name found, if the contact has one. -/
def emailUpdates (m : ContactMatch) : List EmailUpdate :=
  match m.contact.email with
  | none => []
  | some email => m.skaters.map fun (first, s) => ⟨s.id, s.lastName, first, email⟩

/-- The family that a match forms: the contact names siblings and more than one was found. -/
def familyGroup? (m : ContactMatch) : Option FamilyGroup :=
  if m.contact.isFamily && 1 < m.skaters.length then
    some ⟨m.contact.lastName, m.contact.firstNames, m.contact.email, m.skaters.map (·.2.id)⟩
  else none

end ContactMatch

namespace ContactReport

/-- The report that says nothing. -/
def empty : ContactReport := ⟨[], [], [], []⟩

/-- The report after one more contact. If none of its names is found, that is all there is to say of
it; otherwise its addresses and its family are noted as well. -/
def record (skaters : List StoredSkater) (r : ContactReport) (contact : Contact) : ContactReport :=
  let found := ContactMatch.ofContact skaters contact
  if found.skaters.isEmpty then { r with unmatched := r.unmatched ++ [contact] }
  else
    { r with
      matched := r.matched ++ [found]
      emailUpdates := r.emailUpdates ++ found.emailUpdates
      familyGroups := r.familyGroups ++ found.familyGroup?.toList }

/-- Looks one contact after another up among the skaters. -/
def validate (contacts : List Contact) (skaters : List StoredSkater) : ContactReport :=
  contacts.foldl (record skaters) empty

/-- The report in one line. -/
def summary (r : ContactReport) : String :=
  toString r.matched.length ++ " contacts matched, " ++ toString r.unmatched.length ++
    " unmatched, " ++ toString r.emailUpdates.length ++ " emails to populate, " ++
    toString r.familyGroups.length ++ " family groups"

end ContactReport

end SkaterLedger
