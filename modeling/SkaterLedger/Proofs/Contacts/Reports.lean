import Mathlib.Data.List.Basic
import Mathlib.Data.List.Induction
import SkaterLedger.Contacts.Report

/-!
# What a contact report accounts for

A report is put together contact by contact, and each contact may add to three of its four lists or
to the other one only. `ContactReport.Accounts` says what the lists are for all contacts at once, in
terms of nothing but the skaters that the single names fit best. One more contact keeps the account
(`ContactReport.Accounts.record`), and only one report has it (`ContactReport.Accounts.eq`), so that
it says all there is to say (`ContactReport.validate_iff_accounts`).
-/

namespace SkaterLedger

/-! ## One name -/

namespace StoredSkater

variable {first last : String} {s : StoredSkater} {skaters : List StoredSkater}

/-- The best skater so far after some more skaters is one of these or the best one before. -/
theorem foldl_better_cases {best : Option (StoredSkater × Magnitude)}
    {found : StoredSkater × Magnitude}
    (h : skaters.foldl (better first last) best = some found) :
    best = some found ∨ found.1 ∈ skaters := by
  induction skaters generalizing best with
  | nil => exact .inl h
  | cons s skaters ih =>
    rw [List.foldl_cons] at h
    rcases ih h with hbest | hmem
    · -- What was best after one skater is that skater or what was best before.
      unfold better at hbest
      dsimp only at hbest
      split at hbest
      · exact .inl hbest
      · split at hbest
        · obtain rfl := Option.some.inj hbest
          exact .inr List.mem_cons_self
        · split at hbest
          · obtain rfl := Option.some.inj hbest
            exact .inr List.mem_cons_self
          · exact .inl hbest
    · exact .inr (List.mem_cons_of_mem _ hmem)

/-- The skater that names fit best is one of the skaters. -/
theorem mem_of_bestMatch? (h : bestMatch? first last skaters = some s) : s ∈ skaters := by
  unfold bestMatch? at h
  obtain ⟨found, hfound, rfl⟩ := Option.map_eq_some_iff.mp h
  rcases foldl_better_cases hfound with hnone | hmem
  · cases hnone
  · exact hmem

end StoredSkater

/-! ## Accounts -/

/-- Whether a first name fits a skater, with the last name of a contact. -/
def Contact.fits (skaters : List StoredSkater) (contact : Contact) (first : String) : Bool :=
  (StoredSkater.bestMatch? first contact.lastName skaters).isSome

/-- Whether some first name of a contact fits a skater. -/
def Contact.isFound (skaters : List StoredSkater) (contact : Contact) : Bool :=
  contact.firstNames.any (contact.fits skaters)

/-- What a match tells of its contact. -/
structure ContactMatch.Tells (skaters : List StoredSkater) (m : ContactMatch) : Prop where
  /-- It has the first names that fit a skater, in order. -/
  names : m.skaters.map Prod.fst = m.contact.firstNames.filter (m.contact.fits skaters)
  /-- Each of them comes with the skater that it fits best. -/
  best : ∀ p ∈ m.skaters,
    StoredSkater.bestMatch? p.1 m.contact.lastName skaters = some p.2

/-- What a report says of contacts and skaters. -/
structure ContactReport.Accounts (contacts : List Contact) (skaters : List StoredSkater)
    (report : ContactReport) : Prop where
  /-- The contacts none of whose first names fits a skater are left over, in order. -/
  unmatched : report.unmatched = contacts.filter fun contact => !contact.isFound skaters
  /-- The others are matched, in order. -/
  matched : report.matched.map ContactMatch.contact = contacts.filter (Contact.isFound skaters)
  /-- A match has the names that fit and their skaters. -/
  tells : ∀ m ∈ report.matched, m.Tells skaters
  /-- For each of these names there is an update, in order, if the contact has an address. -/
  emailUpdates : report.emailUpdates = report.matched.flatMap fun m =>
    m.contact.email.toList.flatMap fun email =>
      m.skaters.map fun p => ⟨p.2.id, p.2.lastName, p.1, email⟩
  /-- There is a group for each match with more than one name of a contact of siblings, in order. -/
  familyGroups : report.familyGroups =
    (report.matched.filter fun m => m.contact.isFamily && 1 < m.skaters.length).map fun m =>
      ⟨m.contact.lastName, m.contact.firstNames, m.contact.email, m.skaters.map fun p => p.2.id⟩

variable {contacts : List Contact} {skaters : List StoredSkater} {contact : Contact}
  {report : ContactReport}

/-! ## One contact -/

namespace ContactMatch

variable {m : ContactMatch}

/-- The match that is made of a contact tells what it should. -/
theorem ofContact_tells (skaters : List StoredSkater) (contact : Contact) :
    (ofContact skaters contact).Tells skaters where
  names := by
    unfold ofContact
    rw [List.map_filterMap, ← List.filterMap_eq_filter]
    refine List.filterMap_congr fun first _ => ?_
    cases hbest : StoredSkater.bestMatch? first contact.lastName skaters <;>
      simp [Option.guard, Contact.fits, hbest]
  best := by
    intro p hp
    unfold ofContact at hp
    obtain ⟨first, -, hfound⟩ := List.mem_filterMap.mp hp
    obtain ⟨s, hs, rfl⟩ := Option.map_eq_some_iff.mp hfound
    exact hs

/-- A match that tells this is the one that is made of its contact. -/
theorem Tells.eq_ofContact (h : m.Tells skaters) : m = ofContact skaters m.contact := by
  let pair (first : String) : Option (String × StoredSkater) :=
    (StoredSkater.bestMatch? first m.contact.lastName skaters).map fun s => (first, s)
  have hpairs : ∀ p ∈ m.skaters, pair p.1 = some p := fun p hp => by
    dsimp only [pair]
    rw [h.best p hp, Option.map_some]
  have hfits (first : String) : (if m.contact.fits skaters first then pair first else none) =
      pair first := by
    dsimp only [pair]
    unfold Contact.fits
    cases StoredSkater.bestMatch? first m.contact.lastName skaters <;> rfl
  have hskaters : m.skaters = (ofContact skaters m.contact).skaters :=
    calc m.skaters
      _ = m.skaters.filterMap fun p => pair p.1 := by
          rw [List.filterMap_congr hpairs, List.filterMap_some]
      _ = (m.skaters.map Prod.fst).filterMap pair := by
          rw [List.filterMap_map]
          rfl
      _ = m.contact.firstNames.filterMap pair := by
          rw [h.names, List.filterMap_filter]
          exact List.filterMap_congr fun first _ => hfits first
  cases m
  exact congrArg (ContactMatch.mk _) hskaters

/-- The match of a contact is without skaters if none of the names is found. -/
theorem isEmpty_ofContact (skaters : List StoredSkater) (contact : Contact) :
    (ofContact skaters contact).skaters.isEmpty = !contact.isFound skaters := by
  have hnames := (ofContact_tells skaters contact).names
  rw [← List.isEmpty_map, hnames]
  unfold Contact.isFound
  rw [Bool.eq_iff_iff]
  simp [List.isEmpty_iff, List.filter_eq_nil_iff, ofContact]

/-- The updates of a match, with the address or without one. -/
theorem emailUpdates_eq : m.emailUpdates = m.contact.email.toList.flatMap fun email =>
    m.skaters.map fun p => ⟨p.2.id, p.2.lastName, p.1, email⟩ := by
  unfold emailUpdates
  cases m.contact.email with
  | none => rfl
  | some email => exact (List.flatMap_singleton _ _).symm

/-- The family of a match, if it has one. -/
theorem toList_familyGroup? : m.familyGroup?.toList =
    ([m].filter fun m => m.contact.isFamily && 1 < m.skaters.length).map fun m =>
      ⟨m.contact.lastName, m.contact.firstNames, m.contact.email,
        m.skaters.map fun p => p.2.id⟩ := by
  unfold familyGroup?
  rw [List.filter_singleton]
  cases m.contact.isFamily && 1 < m.skaters.length <;> rfl

end ContactMatch

/-! ## All contacts -/

namespace ContactReport

/-- A contact that is not found is left over. -/
theorem record_of_not_found (h : contact.isFound skaters = false) :
    report.record skaters contact = { report with unmatched := report.unmatched ++ [contact] } := by
  have hempty := ContactMatch.isEmpty_ofContact skaters contact
  unfold record
  simp [hempty, h]

/-- A contact that is found adds its match, with the updates and the family of that. -/
theorem record_of_found (h : contact.isFound skaters = true) :
    let m := ContactMatch.ofContact skaters contact
    report.record skaters contact =
      { report with
        matched := report.matched ++ [m]
        emailUpdates := report.emailUpdates ++ m.emailUpdates
        familyGroups := report.familyGroups ++ m.familyGroup?.toList } := by
  have hempty := ContactMatch.isEmpty_ofContact skaters contact
  unfold record
  simp [hempty, h]

/-- A report that says nothing accounts for no contacts. -/
theorem accounts_nil (skaters : List StoredSkater) : empty.Accounts [] skaters where
  unmatched := rfl
  matched := rfl
  tells := by simp [empty]
  emailUpdates := rfl
  familyGroups := rfl

/-- One more contact keeps the account. -/
theorem Accounts.record (h : report.Accounts contacts skaters) (contact : Contact) :
    (report.record skaters contact).Accounts (contacts ++ [contact]) skaters := by
  cases hfound : contact.isFound skaters with
  | false =>
    have hleft : [contact].filter (Contact.isFound skaters) = [] := by simp [hfound]
    have hrest : [contact].filter (fun c => !c.isFound skaters) = [contact] := by simp [hfound]
    rw [record_of_not_found hfound]
    exact
      { h with
        unmatched := by rw [List.filter_append, hrest, h.unmatched]
        matched := by rw [List.filter_append, hleft, List.append_nil, h.matched] }
  | true =>
    have hleft : [contact].filter (Contact.isFound skaters) = [contact] := by simp [hfound]
    have hrest : [contact].filter (fun c => !c.isFound skaters) = [] := by simp [hfound]
    rw [record_of_found hfound]
    exact
      { unmatched := by rw [List.filter_append, hrest, List.append_nil, h.unmatched]
        matched := by
          rw [List.filter_append, hleft, List.map_append, h.matched]
          rfl
        tells := List.forall_mem_append.mpr ⟨h.tells,
          List.forall_mem_singleton.mpr (ContactMatch.ofContact_tells skaters contact)⟩
        emailUpdates := by
          rw [List.flatMap_append, List.flatMap_singleton, ← h.emailUpdates,
            ContactMatch.emailUpdates_eq]
        familyGroups := by
          rw [List.filter_append, List.map_append, ← h.familyGroups,
            ContactMatch.toList_familyGroup?] }

/-- The report on contacts accounts for them. -/
theorem validate_accounts (contacts : List Contact) (skaters : List StoredSkater) :
    (validate contacts skaters).Accounts contacts skaters := by
  induction contacts using List.reverseRecOn with
  | nil => exact accounts_nil skaters
  | append_singleton contacts contact ih =>
    unfold validate at ih ⊢
    rw [List.foldl_append]
    exact ih.record contact

/-- The matches are those of the contacts that are found. -/
theorem Accounts.matched_eq (h : report.Accounts contacts skaters) : report.matched =
    (contacts.filter (Contact.isFound skaters)).map (ContactMatch.ofContact skaters) := by
  have hsame : ∀ m ∈ report.matched, ContactMatch.ofContact skaters m.contact = m :=
    fun m hm => (h.tells m hm).eq_ofContact.symm
  rw [← h.matched, List.map_map]
  exact (List.map_id' _).symm.trans (List.map_congr_left fun m hm => (hsame m hm).symm)

/-- A group is that of a match with more than one name. -/
theorem Accounts.exists_match (h : report.Accounts contacts skaters) {g : FamilyGroup}
    (hg : g ∈ report.familyGroups) : ∃ m ∈ report.matched, 1 < m.skaters.length ∧
      g = ⟨m.contact.lastName, m.contact.firstNames, m.contact.email,
        m.skaters.map fun p => p.2.id⟩ := by
  rw [h.familyGroups] at hg
  obtain ⟨m, hm, rfl⟩ := List.mem_map.mp hg
  obtain ⟨hm, hboth⟩ := List.mem_filter.mp hm
  rw [Bool.and_eq_true, decide_eq_true_eq] at hboth
  exact ⟨m, hm, hboth.2, rfl⟩

/-- There is one report only that accounts for some contacts. -/
theorem Accounts.eq {report' : ContactReport} (h : report.Accounts contacts skaters)
    (h' : report'.Accounts contacts skaters) : report = report' := by
  have hmatched : report.matched = report'.matched := h.matched_eq.trans h'.matched_eq.symm
  have hunmatched : report.unmatched = report'.unmatched := h.unmatched.trans h'.unmatched.symm
  have hupdates : report.emailUpdates = report'.emailUpdates := by
    rw [h.emailUpdates, h'.emailUpdates, hmatched]
  have hgroups : report.familyGroups = report'.familyGroups := by
    rw [h.familyGroups, h'.familyGroups, hmatched]
  calc report
    _ = ⟨report.matched, report.unmatched, report.emailUpdates, report.familyGroups⟩ := rfl
    _ = report' := by rw [hmatched, hunmatched, hupdates, hgroups]

/-- A report on contacts accounts for every one of them, and nothing else does. A contact is matched
exactly if one of its first names fits a skater, and then with the names that fit; so a contact is
either matched or left over, as often as it is among the contacts. -/
theorem validate_iff_accounts (contacts : List Contact) (skaters : List StoredSkater) :
    (∀ report, report = validate contacts skaters ↔ report.Accounts contacts skaters) ∧
      ((validate contacts skaters).matched.map ContactMatch.contact ++
        (validate contacts skaters).unmatched).Perm contacts ∧
      ((validate contacts skaters).matched.map ContactMatch.contact).Disjoint
        (validate contacts skaters).unmatched := by
  have haccounts := validate_accounts contacts skaters
  refine ⟨fun report => ⟨?_, fun h => h.eq haccounts⟩, ?_, ?_⟩
  · rintro rfl
    exact haccounts
  · rw [haccounts.matched, haccounts.unmatched]
    exact List.filter_append_perm _ _
  · rw [haccounts.matched, haccounts.unmatched]
    intro contact hfound hleft
    have hfound := (List.mem_filter.mp hfound).2
    have hleft := (List.mem_filter.mp hleft).2
    rw [hfound] at hleft
    exact Bool.noConfusion hleft

end ContactReport

end SkaterLedger
