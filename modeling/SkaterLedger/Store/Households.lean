import SkaterLedger.Contacts.Report
import SkaterLedger.Store.Audit
import SkaterLedger.Store.Ids
import SkaterLedger.Store.Import

/-!
# Families and addresses

Writing what a contact report says: first the families of siblings, then one address per skater,
onto the skater's family and, where it has none of its own, onto the skater. It is one transaction.
-/

namespace SkaterLedger

/-- What writing a contact report did. -/
structure ContactSummary where
  /-- The number of families of siblings. -/
  familiesCreated : Nat
  /-- The number of skaters with an address. -/
  emailsPopulated : Nat
deriving DecidableEq, Repr

/-- The summary in the audit trail. -/
def ContactSummary.toJson (summary : ContactSummary) : Json :=
  .obj [("emails_populated", .int summary.emailsPopulated),
    ("families_created", .int summary.familiesCreated)]

/-- Who writes contact reports. -/
def contactsActor : String := "contact_validation"

/-- The first updates of each skater, given the skaters that had one already. -/
def EmailUpdate.firsts (seen : List String) : List EmailUpdate → List EmailUpdate
  | [] => []
  | u :: updates =>
    if seen.contains u.skaterId then firsts seen updates
    else u :: firsts (u.skaterId :: seen) updates

namespace Store

/-- Stores the family of a last name by its id; an address replaces the one that is there. -/
def upsertFamily (m : Moment) (lastName : String) (email : Option String) (s : Store) :
    Except Failure Store := do
  let rows ← (need .families s.families).mapError fun _ => .upsertFamily (familyId lastName)
  let id := Cell.text (familyId lastName)
  let new : FamilyRow :=
    ⟨id, .text "Family", .text lastName, .ofText? email, .text m.createdAt⟩
  let update (r : FamilyRow) : FamilyRow :=
    match email with
    | some email => { r with email := .text email }
    | none => r
  .ok { s with families := some (upsert (·.id == id) update new rows) }

/-- Links a skater to a family unless it is linked already, after `n` new links. Also returns the
number of new links. -/
def linkFamily (m : Moment) (skater family : String) (s : Store) (n : Nat) :
    Except Failure (Store × Nat) := do
  let rows ← (need .belongsTo s.belongsTo).mapError fun _ => .relate skater family
  let new : LinkRow := ⟨.text (m.linkId n), .text skater, .text family, .text m.createdAt⟩
  let taken := rows.any fun r => (r.inId == new.inId && r.outId == new.outId) || r.id == new.id
  if taken then .ok (s, n) else .ok ({ s with belongsTo := some (rows ++ [new]) }, n + 1)

/-- Links skaters to a family. -/
def linkAll (m : Moment) (family : String) (s : Store) (n : Nat) :
    List String → Except Stop (Store × Nat)
  | [] => .ok (s, n)
  | skater :: skaters => do
    let (s, n) ← s.execute fun s => linkFamily m skater family s n
    linkAll m family s n skaters

/-- Stores the family of siblings and links them to it. -/
def writeGroup (m : Moment) (g : FamilyGroup) (s : Store) (n : Nat) :
    Except Stop (Store × Nat) := do
  let s ← s.execute (upsertFamily m g.lastName g.email)
  linkAll m (familyId g.lastName) s n g.skaterIds

/-- Stores families of siblings. -/
def writeGroups (m : Moment) (s : Store) (n : Nat) :
    List FamilyGroup → Except Stop (Store × Nat)
  | [] => .ok (s, n)
  | g :: groups => do
    let (s, n) ← s.writeGroup m g n
    writeGroups m s n groups

/-- The family that a skater was linked to first. -/
def firstFamily? (skater : String) (s : Store) : Except Failure (Option String) := do
  let rows ← need .belongsTo s.belongsTo
  match rows.find? fun r => r.inId == .text skater with
  | none => .ok none
  | some r => do .ok (some (← r.outId.getText 0 "out_id"))

/-- Sets the address of a family that is stored. -/
def setFamilyEmail (family email : String) (s : Store) : Except Failure Store := do
  let rows ← need .families s.families
  let update (r : FamilyRow) : FamilyRow :=
    if r.id == .text family then { r with email := .text email } else r
  .ok { s with families := some (rows.map update) }

/-- Sets the address of a skater that has none. -/
def fillSkaterEmail (skater email : String) (s : Store) : Except Failure Store := do
  let rows ← need .skaters s.skaters
  let update (r : SkaterRow) : SkaterRow :=
    if r.id == .text skater && (r.email == .null || r.email == .text "") then
      { r with email := .text email }
    else r
  .ok { s with skaters := some (rows.map update) }

/-- Writes an address: onto the skater's family, which is made if there is none, and onto the
skater. -/
def writeEmail (m : Moment) (u : EmailUpdate) (s : Store) (n : Nat) :
    Except Stop (Store × Nat) := do
  let (s, n) ←
    match ← s.execute (firstFamily? u.skaterId) with
    | some family => do .ok (← s.execute (setFamilyEmail family u.email), n)
    | none => do
      let s ← s.execute (upsertFamily m u.lastName (some u.email))
      s.execute fun s => linkFamily m u.skaterId (familyId u.lastName) s n
  .ok (← s.execute (fillSkaterEmail u.skaterId u.email), n)

/-- Writes addresses. -/
def writeEmails (m : Moment) (s : Store) (n : Nat) :
    List EmailUpdate → Except Stop (Store × Nat)
  | [] => .ok (s, n)
  | u :: updates => do
    let (s, n) ← s.writeEmail m u n
    writeEmails m s n updates

/-- The statements that write a contact report. -/
def contactsStatements (m : Moment) (report : ContactReport) (s : Store) :
    Except Stop (ContactSummary × Store) := do
  let updates := EmailUpdate.firsts [] report.emailUpdates
  let (s, n) ← writeGroups m s 0 report.familyGroups
  let (s, _) ← writeEmails m s n updates
  let summary : ContactSummary := ⟨report.familyGroups.length, updates.length⟩
  let s ← s.execute <| insertAudit
    ⟨m.auditId 0, m.auditTime 0, "contacts_applied", "contacts", "contacts:validation",
      summary.toJson, contactsActor⟩
  .ok (summary, s)

/-- The writing of a contact report and the store that it leaves, whether it succeeds or not. -/
def contactsRun (m : Moment) (report : ContactReport) (s : Store) :
    Except Failure ContactSummary × Store :=
  s.transaction (contactsStatements m report)

/-- Writes a contact report: its families, and the first address of each skater. -/
def applyContacts (m : Moment) (report : ContactReport) (s : Store) :
    Except Failure (ContactSummary × Store) :=
  settled (s.contactsRun m report)

end Store

end SkaterLedger
