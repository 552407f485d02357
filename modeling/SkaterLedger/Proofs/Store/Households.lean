import SkaterLedger.Proofs.Outcome
import SkaterLedger.Proofs.Store.Trail
import SkaterLedger.Proofs.Store.Transaction
import SkaterLedger.Store.Households

/-!
# Writing a contact report

Writing a contact report is a series of four kinds of writes: storing a family, linking a skater to
it, setting the address of a family and setting that of a skater. `Respected` says of a relation
between stores that all four respect it; then the whole series does, up to the audit trail. The
first use of it is `SameSchedule`: a contact report leaves alone what was imported of competitions,
their events and the relations of skaters and events (`applyContacts_sameSchedule`).
-/

namespace SkaterLedger

/-- A skater's row after an address was set where there is none. -/
def SkaterRow.fill (skater email : String) (r : SkaterRow) : SkaterRow :=
  if r.id == .text skater && (r.email == .null || r.email == .text "") then
    { r with email := .text email }
  else r

namespace Store

variable {s s' s'' : Store} {m : Moment} {n n' : ℕ}

/-! ## Steps of a report -/

/-- A family is stored in the table of families, by its id. -/
theorem upsertFamily_eq_ok_iff {last : String} {email : Option String} :
    s.upsertFamily m last email = .ok s' ↔ ∃ rows, s.families = some rows ∧
      { s with families := some (upsert (·.id == .text (familyId last))
          (fun r => match email with
            | some email => { r with email := .text email }
            | none => r)
          ⟨.text (familyId last), .text "Family", .text last, .ofText? email, .text m.createdAt⟩
          rows) } = s' := by
  unfold upsertFamily
  refine bind_eq_ok_iff.trans (exists_congr fun rows => ?_)
  rw [mapError_eq_ok_iff, need_eq_ok_iff]
  exact and_congr_right fun _ => ⟨Except.ok.inj, congrArg Except.ok⟩

/-- The address of a family is set in the table of families. -/
theorem setFamilyEmail_eq_ok_iff {family email : String} :
    s.setFamilyEmail family email = .ok s' ↔ ∃ rows, s.families = some rows ∧
      { s with families := some (rows.map fun r =>
          if r.id == .text family then { r with email := .text email } else r) } = s' := by
  simp only [setFamilyEmail, bind_eq_ok_iff, need_eq_ok_iff, Except.ok.injEq]

/-- The address of a skater is set in the table of skaters. -/
theorem fillSkaterEmail_eq_ok_iff {skater email : String} :
    s.fillSkaterEmail skater email = .ok s' ↔ ∃ rows, s.skaters = some rows ∧
      { s with skaters := some (rows.map (SkaterRow.fill skater email)) } = s' := by
  unfold fillSkaterEmail
  simp only [bind_eq_ok_iff, need_eq_ok_iff, Except.ok.injEq]
  rfl

/-- Linking a skater to a family adds a link at the end or changes nothing. -/
theorem linkFamily_cases {skater family : String}
    (h : linkFamily m skater family s n = .ok (s', n')) :
    ∃ rows, s.belongsTo = some rows ∧
      ((∃ r ∈ rows, (r.inId = .text skater ∧ r.outId = .text family) ∨ r.id = .text (m.linkId n)) ∧
        s' = s ∧ n' = n ∨
      (∀ r ∈ rows, ¬(r.inId = .text skater ∧ r.outId = .text family) ∧
          r.id ≠ .text (m.linkId n)) ∧
        s' = { s with belongsTo := some (rows ++
          [⟨.text (m.linkId n), .text skater, .text family, .text m.createdAt⟩]) } ∧
        n' = n + 1) := by
  unfold linkFamily at h
  obtain ⟨rows, hrows, h⟩ := bind_eq_ok_iff.mp h
  refine ⟨rows, need_eq_ok_iff.mp (mapError_eq_ok_iff.mp hrows), ?_⟩
  dsimp only at h
  split at h
  · rename_i htaken
    obtain ⟨rfl, rfl⟩ := Prod.mk.inj (Except.ok.inj h)
    exact .inl ⟨by simpa using htaken, rfl, rfl⟩
  · rename_i hfree
    obtain ⟨rfl, rfl⟩ := Prod.mk.inj (Except.ok.inj h)
    refine .inr ⟨fun r hr => not_or.mp fun htaken => hfree ?_, rfl, rfl⟩
    exact List.any_eq_true.mpr ⟨r, hr, by simpa using htaken⟩

/-! ## Series of writes -/

/-- Skaters are linked to a family one after another. -/
theorem linkAll_cons_eq_ok_iff {family skater : String} {skaters : List String} :
    linkAll m family s n (skater :: skaters) = .ok (s', n') ↔
      ∃ s₁ n₁, linkFamily m skater family s n = .ok (s₁, n₁) ∧
        linkAll m family s₁ n₁ skaters = .ok (s', n') :=
  execute_bind_eq_ok_iff.trans Prod.exists

/-- The family of siblings is stored and then they are linked to it. -/
theorem writeGroup_eq_ok_iff {g : FamilyGroup} :
    writeGroup m g s n = .ok (s', n') ↔
      ∃ s₁, s.upsertFamily m g.lastName g.email = .ok s₁ ∧
        linkAll m (familyId g.lastName) s₁ n g.skaterIds = .ok (s', n') :=
  execute_bind_eq_ok_iff

/-- Families of siblings are stored one after another. -/
theorem writeGroups_cons_eq_ok_iff {g : FamilyGroup} {groups : List FamilyGroup} :
    writeGroups m s n (g :: groups) = .ok (s', n') ↔
      ∃ s₁ n₁, writeGroup m g s n = .ok (s₁, n₁) ∧
        writeGroups m s₁ n₁ groups = .ok (s', n') :=
  bind_eq_ok_iff.trans Prod.exists

/-- Addresses are written one after another. -/
theorem writeEmails_cons_eq_ok_iff {u : EmailUpdate} {updates : List EmailUpdate} :
    writeEmails m s n (u :: updates) = .ok (s', n') ↔
      ∃ s₁ n₁, writeEmail m u s n = .ok (s₁, n₁) ∧
        writeEmails m s₁ n₁ updates = .ok (s', n') :=
  bind_eq_ok_iff.trans Prod.exists

/-- An address is written onto the family that the skater has, or onto one that is stored and linked
first, and then onto the skater. -/
theorem writeEmail_cases {u : EmailUpdate} (h : writeEmail m u s n = .ok (s', n')) :
    (∃ family s₁, s.firstFamily? u.skaterId = .ok (some family) ∧
      s.setFamilyEmail family u.email = .ok s₁ ∧ n' = n ∧
      s₁.fillSkaterEmail u.skaterId u.email = .ok s') ∨
    ∃ s₁ s₂, s.firstFamily? u.skaterId = .ok none ∧
      s.upsertFamily m u.lastName (some u.email) = .ok s₁ ∧
      linkFamily m u.skaterId (familyId u.lastName) s₁ n = .ok (s₂, n') ∧
      s₂.fillSkaterEmail u.skaterId u.email = .ok s' := by
  unfold writeEmail at h
  obtain ⟨found, hfound, h⟩ := execute_bind_eq_ok_iff.mp h
  cases found with
  | some family =>
    obtain ⟨s₁, hset, h⟩ := execute_bind_eq_ok_iff.mp h
    obtain ⟨⟨s₂, n₂⟩, hsame, h⟩ := bind_eq_ok_iff.mp h
    obtain ⟨rfl, rfl⟩ := Prod.mk.inj (Except.ok.inj hsame)
    obtain ⟨s₃, hfill, h⟩ := execute_bind_eq_ok_iff.mp h
    obtain ⟨rfl, rfl⟩ := Prod.mk.inj (Except.ok.inj h)
    exact .inl ⟨family, _, hfound, hset, rfl, hfill⟩
  | none =>
    obtain ⟨s₁, hnew, h⟩ := execute_bind_eq_ok_iff.mp h
    obtain ⟨⟨s₂, n₂⟩, hlink, h⟩ := execute_bind_eq_ok_iff.mp h
    obtain ⟨s₃, hfill, h⟩ := execute_bind_eq_ok_iff.mp h
    obtain ⟨rfl, rfl⟩ := Prod.mk.inj (Except.ok.inj h)
    exact .inr ⟨s₁, s₂, hfound, hnew, hlink, hfill⟩

/-- What the audit trail is told of a report. -/
def contactsEvent (m : Moment) (report : ContactReport) : AuditEvent where
  eventId := m.auditId 0
  timestamp := m.auditTime 0
  eventType := "contacts_applied"
  entityType := "contacts"
  entityId := "contacts:validation"
  data := ContactSummary.toJson
    ⟨report.familyGroups.length, (EmailUpdate.firsts [] report.emailUpdates).length⟩
  actor := contactsActor

/-- A report is written by writing its families, then its addresses, and telling the audit trail. -/
theorem applyContacts_eq_ok_iff {report : ContactReport} {summary : ContactSummary} :
    s.applyContacts m report = .ok (summary, s') ↔
      ∃ s₁ n₁ s₂ n₂, writeGroups m s 0 report.familyGroups = .ok (s₁, n₁) ∧
        writeEmails m s₁ n₁ (EmailUpdate.firsts [] report.emailUpdates) = .ok (s₂, n₂) ∧
        s₂.insertAudit (contactsEvent m report) = .ok s' ∧
        summary = ⟨report.familyGroups.length,
          (EmailUpdate.firsts [] report.emailUpdates).length⟩ := by
  unfold applyContacts contactsRun
  rw [settled_transaction_eq_ok_iff]
  constructor
  · intro h
    unfold contactsStatements at h
    obtain ⟨⟨s₁, n₁⟩, hgroups, h⟩ := bind_eq_ok_iff.mp h
    obtain ⟨⟨s₂, n₂⟩, hemails, h⟩ := bind_eq_ok_iff.mp h
    obtain ⟨s₃, haudit, h⟩ := execute_bind_eq_ok_iff.mp h
    obtain ⟨rfl, rfl⟩ := Prod.mk.inj (Except.ok.inj h)
    exact ⟨s₁, n₁, s₂, n₂, hgroups, hemails, haudit, rfl⟩
  · rintro ⟨s₁, n₁, s₂, n₂, hgroups, hemails, haudit, rfl⟩
    exact bind_eq_ok_iff.mpr ⟨(s₁, n₁), hgroups, bind_eq_ok_iff.mpr ⟨(s₂, n₂), hemails,
      execute_bind_eq_ok_iff.mpr ⟨s', haudit, rfl⟩⟩⟩

/-- Once its families and addresses are written, the audit trail is told of a report. -/
theorem applyContacts_eq {report : ContactReport} {s₁ s₂ : Store} {n₁ n₂ : ℕ}
    (hgroups : writeGroups m s 0 report.familyGroups = .ok (s₁, n₁))
    (hemails : writeEmails m s₁ n₁ (EmailUpdate.firsts [] report.emailUpdates) = .ok (s₂, n₂)) :
    s.applyContacts m report = (s₂.insertAudit (contactsEvent m report)).map fun s' =>
      (⟨report.familyGroups.length, (EmailUpdate.firsts [] report.emailUpdates).length⟩, s') := by
  cases haudit : s₂.insertAudit (contactsEvent m report) with
  | error failure =>
    have htell : s₂.execute (insertAudit (contactsEvent m report)) = .error ⟨failure, s₂⟩ :=
      execute_eq_error_iff.mpr ⟨haudit, rfl⟩
    have hstop : contactsStatements m report s = .error ⟨failure, s₂⟩ := by
      unfold contactsEvent at htell
      simp only [contactsStatements, hgroups, hemails, htell, bind, Except.bind]
    unfold applyContacts contactsRun
    rw [transaction_of_error hstop]
    rfl
  | ok s' => exact applyContacts_eq_ok_iff.mpr ⟨s₁, n₁, s₂, n₂, hgroups, hemails, haudit, rfl⟩

/-! ## What single writes respect, all of them do -/

/-- A relation between earlier and later stores that storing families and linking skaters to them
respects. -/
structure GroupsRespected (m : Moment) (R : Store → Store → Prop) : Prop where
  /-- Doing nothing respects it. -/
  refl : ∀ s, R s s
  /-- What two steps respect, both together do. -/
  trans : ∀ {s s' s''}, R s s' → R s' s'' → R s s''
  /-- Storing a family respects it. -/
  upsertFamily : ∀ {s s' last email}, s.upsertFamily m last email = .ok s' → R s s'
  /-- Linking a skater to a family respects it. -/
  linkFamily : ∀ {s s' skater family n n'},
    linkFamily m skater family s n = .ok (s', n') → R s s'

/-- A relation between earlier and later stores that every single write of a report respects. -/
structure Respected (m : Moment) (R : Store → Store → Prop) : Prop where
  /-- Doing nothing respects it. -/
  refl : ∀ s, R s s
  /-- What two steps respect, both together do. -/
  trans : ∀ {s s' s''}, R s s' → R s' s'' → R s s''
  /-- Storing a family respects it. -/
  upsertFamily : ∀ {s s' last email}, s.upsertFamily m last email = .ok s' → R s s'
  /-- Linking a skater to a family respects it. -/
  linkFamily : ∀ {s s' skater family n n'},
    linkFamily m skater family s n = .ok (s', n') → R s s'
  /-- Setting a family's address respects it. -/
  setFamilyEmail : ∀ {s s' family email}, s.setFamilyEmail family email = .ok s' → R s s'
  /-- Setting a skater's address respects it. -/
  fillSkaterEmail : ∀ {s s' skater email}, s.fillSkaterEmail skater email = .ok s' → R s s'

section Closure

variable {R : Store → Store → Prop}

namespace GroupsRespected

/-- So does linking skaters to a family. -/
theorem linkAll (hR : GroupsRespected m R) {family : String} {skaters : List String}
    (h : linkAll m family s n skaters = .ok (s', n')) : R s s' := by
  induction skaters generalizing s n with
  | nil =>
    obtain ⟨rfl, -⟩ := Prod.mk.inj (Except.ok.inj h)
    exact hR.refl s
  | cons skater skaters ih =>
    obtain ⟨s₁, n₁, hlink, hrest⟩ := linkAll_cons_eq_ok_iff.mp h
    exact hR.trans (hR.linkFamily hlink) (ih hrest)

/-- So does storing the family of siblings. -/
theorem writeGroup (hR : GroupsRespected m R) {g : FamilyGroup}
    (h : writeGroup m g s n = .ok (s', n')) : R s s' := by
  obtain ⟨s₁, hfamily, hlinks⟩ := writeGroup_eq_ok_iff.mp h
  exact hR.trans (hR.upsertFamily hfamily) (hR.linkAll hlinks)

/-- So does storing families of siblings. -/
theorem writeGroups (hR : GroupsRespected m R) {groups : List FamilyGroup}
    (h : writeGroups m s n groups = .ok (s', n')) : R s s' := by
  induction groups generalizing s n with
  | nil =>
    obtain ⟨rfl, -⟩ := Prod.mk.inj (Except.ok.inj h)
    exact hR.refl s
  | cons g groups ih =>
    obtain ⟨s₁, n₁, hgroup, hrest⟩ := writeGroups_cons_eq_ok_iff.mp h
    exact hR.trans (hR.writeGroup hgroup) (ih hrest)

end GroupsRespected

namespace Respected

/-- Families and links are written by some of these writes. -/
theorem groups (hR : Respected m R) : GroupsRespected m R :=
  ⟨hR.refl, hR.trans, hR.upsertFamily, hR.linkFamily⟩

/-- So does linking skaters to a family. -/
theorem linkAll (hR : Respected m R) {family : String} {skaters : List String}
    (h : linkAll m family s n skaters = .ok (s', n')) : R s s' :=
  hR.groups.linkAll h

/-- So does storing the family of siblings. -/
theorem writeGroup (hR : Respected m R) {g : FamilyGroup}
    (h : writeGroup m g s n = .ok (s', n')) : R s s' :=
  hR.groups.writeGroup h

/-- So does storing families of siblings. -/
theorem writeGroups (hR : Respected m R) {groups : List FamilyGroup}
    (h : writeGroups m s n groups = .ok (s', n')) : R s s' :=
  hR.groups.writeGroups h

/-- So does writing an address, whether the skater has a family already or not. -/
theorem writeEmail (hR : Respected m R) {u : EmailUpdate}
    (h : writeEmail m u s n = .ok (s', n')) : R s s' := by
  rcases writeEmail_cases h with ⟨family, s₁, -, hset, -, hfill⟩ | ⟨s₁, s₂, -, hnew, hlink, hfill⟩
  · exact hR.trans (hR.setFamilyEmail hset) (hR.fillSkaterEmail hfill)
  · exact hR.trans (hR.upsertFamily hnew)
      (hR.trans (hR.linkFamily hlink) (hR.fillSkaterEmail hfill))

/-- So does writing addresses. -/
theorem writeEmails (hR : Respected m R) {updates : List EmailUpdate}
    (h : writeEmails m s n updates = .ok (s', n')) : R s s' := by
  induction updates generalizing s n with
  | nil =>
    obtain ⟨rfl, -⟩ := Prod.mk.inj (Except.ok.inj h)
    exact hR.refl s
  | cons u updates ih =>
    obtain ⟨s₁, n₁, hemail, hrest⟩ := writeEmails_cons_eq_ok_iff.mp h
    exact hR.trans (hR.writeEmail hemail) (ih hrest)

end Respected

end Closure

/-! ## What a report leaves alone -/

/-- Two stores hold the same competitions, events and relations. -/
structure SameSchedule (s s' : Store) : Prop where
  /-- The competitions are the same. -/
  competitions : s'.competitions = s.competitions
  /-- The events are the same. -/
  events : s'.events = s.events
  /-- The relations are the same. -/
  competedIn : s'.competedIn = s.competedIn

/-- Every single write of a report keeps the schedule. -/
theorem sameSchedule_respected : Respected m SameSchedule where
  refl _ := ⟨rfl, rfl, rfl⟩
  trans h h' := ⟨h'.competitions.trans h.competitions, h'.events.trans h.events,
    h'.competedIn.trans h.competedIn⟩
  upsertFamily h := by
    obtain ⟨_, _, rfl⟩ := upsertFamily_eq_ok_iff.mp h
    exact ⟨rfl, rfl, rfl⟩
  linkFamily h := by
    obtain ⟨rows, -, ⟨-, rfl, -⟩ | ⟨-, rfl, -⟩⟩ := linkFamily_cases h
    · exact ⟨rfl, rfl, rfl⟩
    · exact ⟨rfl, rfl, rfl⟩
  setFamilyEmail h := by
    obtain ⟨_, _, rfl⟩ := setFamilyEmail_eq_ok_iff.mp h
    exact ⟨rfl, rfl, rfl⟩
  fillSkaterEmail h := by
    obtain ⟨_, _, rfl⟩ := fillSkaterEmail_eq_ok_iff.mp h
    exact ⟨rfl, rfl, rfl⟩

/-- Writing a contact report keeps the schedule. -/
theorem applyContacts_sameSchedule {report : ContactReport} {summary : ContactSummary}
    (h : s.applyContacts m report = .ok (summary, s')) : SameSchedule s s' := by
  obtain ⟨s₁, n₁, s₂, n₂, hgroups, hemails, haudit, -⟩ := applyContacts_eq_ok_iff.mp h
  obtain ⟨_, _, _, rfl⟩ := insertAudit_eq_ok_iff.mp haudit
  have hR : Respected m SameSchedule := sameSchedule_respected
  have hwritten := hR.trans (hR.writeGroups hgroups) (hR.writeEmails hemails)
  exact ⟨hwritten.competitions, hwritten.events, hwritten.competedIn⟩

end Store

end SkaterLedger
