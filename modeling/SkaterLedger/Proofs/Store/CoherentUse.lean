import SkaterLedger.Proofs.Contacts.Reports
import SkaterLedger.Proofs.Store.Coherence
import SkaterLedger.Proofs.Store.Usage
import SkaterLedger.Store.Query

/-!
# Stores hang together whatever is done with them

From single writes to whole actions, and from these to any number of them. An import stores the
competition first, each skater before the skater's events, and each event before its relation, so
that relations always lead to rows that are there. A contact report may have been made long before
it is written; the skaters that it names were stored when it was made, and skaters are never taken
away.
-/

namespace SkaterLedger

/-! ## Which skaters a report names -/

/-- All skaters that a report names have one of some ids. -/
structure ContactReport.Within (ids : List Cell) (report : ContactReport) : Prop where
  /-- Those that it puts into families have. -/
  groups : ∀ g ∈ report.familyGroups, ∀ id ∈ g.skaterIds, .text id ∈ ids
  /-- Those that it gives an address have. -/
  updates : ∀ u ∈ report.emailUpdates, .text u.skaterId ∈ ids

/-- A report names only skaters that were looked through for it. -/
theorem ContactReport.validate_within {contacts : List Contact} {skaters : List StoredSkater}
    {ids : List Cell} (h : ∀ s ∈ skaters, .text s.id ∈ ids) :
    (ContactReport.validate contacts skaters).Within ids := by
  have haccounts := ContactReport.validate_accounts contacts skaters
  have hfound : ∀ m ∈ (ContactReport.validate contacts skaters).matched, ∀ p ∈ m.skaters,
      .text p.2.id ∈ ids := fun m hm p hp =>
    h _ (StoredSkater.mem_of_bestMatch? ((haccounts.tells m hm).best p hp))
  constructor
  · intro g hg id hid
    obtain ⟨m, hm, -, rfl⟩ := haccounts.exists_match hg
    obtain ⟨p, hp, rfl⟩ := List.mem_map.mp hid
    exact hfound m hm p hp
  · intro u hu
    rw [haccounts.emailUpdates] at hu
    obtain ⟨m, hm, hu⟩ := List.mem_flatMap.mp hu
    obtain ⟨email, -, hu⟩ := List.mem_flatMap.mp hu
    obtain ⟨p, hp, rfl⟩ := List.mem_map.mp hu
    exact hfound m hm p hp

/-- The first updates of skaters are some of the updates. -/
theorem EmailUpdate.mem_of_mem_firsts {seen : List String} {updates : List EmailUpdate}
    {u : EmailUpdate} (hu : u ∈ EmailUpdate.firsts seen updates) : u ∈ updates := by
  induction updates generalizing seen with
  | nil => cases hu
  | cons v updates ih =>
    unfold EmailUpdate.firsts at hu
    split at hu
    · exact List.mem_cons_of_mem _ (ih hu)
    · rcases List.mem_cons.mp hu with rfl | hu
      · exact List.mem_cons_self
      · exact List.mem_cons_of_mem _ (ih hu)

/-- The skaters that are read from a store have the ids of its rows. -/
theorem Store.mem_ids_of_storedSkaters {s : Store} {rows : List SkaterRow}
    {skaters : List StoredSkater} (hrows : s.skaters = some rows)
    (h : s.storedSkaters = .ok skaters) : ∀ a ∈ skaters, .text a.id ∈ rows.map SkaterRow.id := by
  unfold storedSkaters at h
  obtain ⟨rows', hrows', h⟩ := bind_eq_ok_iff.mp h
  obtain rfl : rows = rows' := Option.some.inj (hrows.symm.trans (need_eq_ok_iff.mp hrows'))
  intro a ha
  obtain ⟨i, hi, rfl⟩ := List.getElem_of_mem ha
  have hread := mapM_eq_ok_iff.mp h
  have hlt : i < rows.length := by
    rw [hread.length_eq]
    exact hi
  have hrow : skaterOfRow rows[i] = .ok skaters[i] := hread.get hlt hi
  unfold skaterOfRow at hrow
  obtain ⟨id, hid, hrow⟩ := bind_eq_ok_iff.mp hrow
  obtain ⟨_, _, hrow⟩ := bind_eq_ok_iff.mp hrow
  obtain ⟨_, _, hrow⟩ := bind_eq_ok_iff.mp hrow
  obtain ⟨_, _, hrow⟩ := bind_eq_ok_iff.mp hrow
  rw [← Except.ok.inj hrow, ← Cell.getText_eq_ok_iff.mp hid]
  exact List.mem_map_of_mem (List.getElem_mem hlt)

/-! ## Whole actions -/

namespace Contents

variable {c c' : Contents} {s : Store} {m : Moment} {n k : ℕ} {holds : Contents → Prop}

/-- What continues a store continues the one before. -/
theorem Continues.after (h : c'.Continues s holds) (hext : c.Extends c') : c.Continues s holds := by
  obtain ⟨c₂, hs, hc₂, hext₂, hholds⟩ := h
  exact ⟨c₂, hs, hc₂, hext.trans hext₂, hholds⟩

namespace Coherent

section Import

variable {competition : String} {e : Entry} {number : ℕ} {numbers : List ℕ} {entries : List Entry}

/-- Storing one event of an entry and its relation. -/
theorem importEvent (hc : c.Coherent)
    (hcompetition : .text (competitionId competition) ∈ c.competitions.map CompetitionRow.id)
    (hskater : .text e.skaterId ∈ c.skaters.map SkaterRow.id)
    (h : Store.importEvent m competition e c.toStore n number = .ok s) :
    c.Continues s fun _ => True := by
  obtain ⟨s₁, hevent, h⟩ := Store.importEvent_eq_ok_iff.mp h
  obtain ⟨c₁, rfl, hc₁, hext₁, hmem⟩ := hc.upsertEvent hcompetition hevent
  refine (hc₁.addRelation ?_ h).after hext₁
  exact ⟨hext₁.skaters hskater, hmem⟩

/-- Storing the events of an entry. -/
theorem importEvents (hc : c.Coherent)
    (hcompetition : .text (competitionId competition) ∈ c.competitions.map CompetitionRow.id)
    (hskater : .text e.skaterId ∈ c.skaters.map SkaterRow.id)
    (h : Store.importEvents m competition e c.toStore n numbers = .ok s) :
    c.Continues s fun _ => True := by
  induction numbers generalizing c n with
  | nil =>
    obtain rfl := Except.ok.inj h
    exact ⟨c, rfl, hc, .refl c, trivial⟩
  | cons number numbers ih =>
    obtain ⟨s₁, hevent, h⟩ := Store.importEvents_cons_eq_ok_iff.mp h
    obtain ⟨c₁, rfl, hc₁, hext₁, -⟩ := hc.importEvent hcompetition hskater hevent
    exact (ih hc₁ (hext₁.competitions hcompetition) (hext₁.skaters hskater) h).after hext₁

/-- Storing entries. -/
theorem importAll (hc : c.Coherent)
    (hcompetition : .text (competitionId competition) ∈ c.competitions.map CompetitionRow.id)
    (h : Store.importAll m competition c.toStore n entries = .ok s) :
    c.Continues s fun _ => True := by
  induction entries generalizing c n with
  | nil =>
    obtain rfl := Except.ok.inj h
    exact ⟨c, rfl, hc, .refl c, trivial⟩
  | cons e entries ih =>
    obtain ⟨s₁, s₂, hskater, hevents, h⟩ := Store.importAll_cons_eq_ok_iff.mp h
    -- The skater and the competition are there before the events are.
    obtain ⟨c₁, rfl, hc₁, hext₁, hmem⟩ := hc.upsertSkater hskater
    have hcompetition₁ := hext₁.competitions hcompetition
    obtain ⟨c₂, rfl, hc₂, hext₂, -⟩ := hc₁.importEvents hcompetition₁ hmem hevents
    exact (ih hc₂ (hext₂.competitions hcompetition₁) h).after (hext₁.trans hext₂)

/-- Importing entries for a competition. -/
theorem importEntries (hc : c.Coherent) {summary : ImportSummary}
    (h : c.toStore.importEntries m competition entries = .ok (summary, s)) :
    c.Continues s fun _ => True := by
  obtain ⟨s₁, s₂, hcompetition, hall, haudit, -⟩ :=
    Store.importEntries_eq_ok_iff.mp h
  obtain ⟨c₁, rfl, hc₁, hext₁, hmem⟩ := hc.upsertCompetition hcompetition
  obtain ⟨c₂, rfl, hc₂, hext₂, -⟩ := hc₁.importAll hmem hall
  exact (hc₂.insertAudit haudit).after (hext₁.trans hext₂)

end Import

section Cleanup

variable {items : List PlanItem}

/-- Carrying out items one after another, of which some may fail. -/
theorem foldl_advance (hc : c.Coherent) {p : CleanupProgress} (hp : c.toStore = p.store) :
    c.Continues (items.foldl (Store.advance m) p).store fun _ => True := by
  induction items generalizing c p with
  | nil => exact ⟨c, hp, hc, .refl c, trivial⟩
  | cons item items ih =>
    rw [List.foldl_cons]
    rcases Store.advance_cases m p item with
      ⟨rows, log, hrows, hlog, hpresent, hadmits, hadvance⟩ | ⟨failure, drawn, hadvance⟩
    · have hitem : c.toStore.deleteItem m p.drawn item =
          (.ok (), p.store.afterDeletions m p.drawn [item] rows log) := by
        rw [hp]
        exact Store.deleteItem_eq_ok_iff.mpr ⟨rows, log, hrows, hlog, hpresent, hadmits, rfl⟩
      obtain ⟨c₁, hs₁, hc₁, hext₁, -⟩ := hc.deleteItem hitem
      rw [hadvance]
      exact (ih hc₁ hs₁).after hext₁
    · rw [hadvance]
      exact ih hc hp

/-- Carrying out the items of a plan. -/
theorem cleanup (hc : c.Coherent) {report : CleanupReport}
    (h : c.toStore.cleanup m items = .ok (report, s)) : c.Continues s fun _ => True := by
  obtain ⟨_, _, _, rfl, -, -, -, rfl⟩ := Store.cleanup_eq_ok_iff.mp h
  exact hc.foldl_advance rfl

end Cleanup

section Report

variable {family : String} {skaters : List String} {g : FamilyGroup} {groups : List FamilyGroup}
  {u : EmailUpdate} {updates : List EmailUpdate}

/-- Linking skaters that are stored to a family that is stored. -/
theorem linkAll (hc : c.Coherent) (hfamily : .text family ∈ c.families.map FamilyRow.id)
    (hskaters : ∀ id ∈ skaters, .text id ∈ c.skaters.map SkaterRow.id)
    (h : Store.linkAll m family c.toStore n skaters = .ok (s, k)) :
    c.Continues s fun _ => True := by
  induction skaters generalizing c n with
  | nil =>
    obtain ⟨rfl, -⟩ := Prod.mk.inj (Except.ok.inj h)
    exact ⟨c, rfl, hc, .refl c, trivial⟩
  | cons skater skaters ih =>
    rw [List.forall_mem_cons] at hskaters
    obtain ⟨s₁, n₁, hlink, h⟩ := Store.linkAll_cons_eq_ok_iff.mp h
    obtain ⟨c₁, rfl, hc₁, hext₁, -⟩ := hc.linkFamily hskaters.1 hfamily hlink
    refine (ih hc₁ (hext₁.families hfamily) (fun id hid => ?_) h).after hext₁
    exact hext₁.skaters (hskaters.2 id hid)

/-- Storing the family of siblings that are stored. -/
theorem writeGroup (hc : c.Coherent)
    (hskaters : ∀ id ∈ g.skaterIds, .text id ∈ c.skaters.map SkaterRow.id)
    (h : Store.writeGroup m g c.toStore n = .ok (s, k)) : c.Continues s fun _ => True := by
  obtain ⟨s₁, hfamily, h⟩ := Store.writeGroup_eq_ok_iff.mp h
  obtain ⟨c₁, rfl, hc₁, hext₁, hmem⟩ := hc.upsertFamily hfamily
  exact (hc₁.linkAll hmem (fun id hid => hext₁.skaters (hskaters id hid)) h).after hext₁

/-- Storing families of siblings that are stored. -/
theorem writeGroups (hc : c.Coherent)
    (hskaters : ∀ g ∈ groups, ∀ id ∈ g.skaterIds, .text id ∈ c.skaters.map SkaterRow.id)
    (h : Store.writeGroups m c.toStore n groups = .ok (s, k)) : c.Continues s fun _ => True := by
  induction groups generalizing c n with
  | nil =>
    obtain ⟨rfl, -⟩ := Prod.mk.inj (Except.ok.inj h)
    exact ⟨c, rfl, hc, .refl c, trivial⟩
  | cons g groups ih =>
    rw [List.forall_mem_cons] at hskaters
    obtain ⟨s₁, n₁, hgroup, h⟩ := Store.writeGroups_cons_eq_ok_iff.mp h
    obtain ⟨c₁, rfl, hc₁, hext₁, -⟩ := hc.writeGroup hskaters.1 hgroup
    refine (ih hc₁ (fun g hg id hid => ?_) h).after hext₁
    exact hext₁.skaters (hskaters.2 g hg id hid)

/-- Writing the address of a skater that is stored. -/
theorem writeEmail (hc : c.Coherent) (hskater : .text u.skaterId ∈ c.skaters.map SkaterRow.id)
    (h : Store.writeEmail m u c.toStore n = .ok (s, k)) : c.Continues s fun _ => True := by
  rcases Store.writeEmail_cases h with
    ⟨family, s₁, -, hset, -, hfill⟩ | ⟨s₁, s₂, -, hnew, hlink, hfill⟩
  · obtain ⟨c₁, rfl, hc₁, hext₁, -⟩ := hc.setFamilyEmail hset
    exact (hc₁.fillSkaterEmail hfill).after hext₁
  · obtain ⟨c₁, rfl, hc₁, hext₁, hmem⟩ := hc.upsertFamily hnew
    obtain ⟨c₂, rfl, hc₂, hext₂, -⟩ := hc₁.linkFamily (hext₁.skaters hskater) hmem hlink
    exact (hc₂.fillSkaterEmail hfill).after (hext₁.trans hext₂)

/-- Writing addresses of skaters that are stored. -/
theorem writeEmails (hc : c.Coherent)
    (hskaters : ∀ u ∈ updates, .text u.skaterId ∈ c.skaters.map SkaterRow.id)
    (h : Store.writeEmails m c.toStore n updates = .ok (s, k)) : c.Continues s fun _ => True := by
  induction updates generalizing c n with
  | nil =>
    obtain ⟨rfl, -⟩ := Prod.mk.inj (Except.ok.inj h)
    exact ⟨c, rfl, hc, .refl c, trivial⟩
  | cons u updates ih =>
    rw [List.forall_mem_cons] at hskaters
    obtain ⟨s₁, n₁, hemail, h⟩ := Store.writeEmails_cons_eq_ok_iff.mp h
    obtain ⟨c₁, rfl, hc₁, hext₁, -⟩ := hc.writeEmail hskaters.1 hemail
    exact (ih hc₁ (fun u hu => hext₁.skaters (hskaters.2 u hu)) h).after hext₁

/-- Writing a contact report that names stored skaters. -/
theorem applyContacts (hc : c.Coherent) {report : ContactReport} {summary : ContactSummary}
    (hreport : report.Within (c.skaters.map SkaterRow.id))
    (h : c.toStore.applyContacts m report = .ok (summary, s)) : c.Continues s fun _ => True := by
  obtain ⟨s₁, n₁, s₂, n₂, hgroups, hemails, haudit, -⟩ := Store.applyContacts_eq_ok_iff.mp h
  obtain ⟨c₁, rfl, hc₁, hext₁, -⟩ := hc.writeGroups hreport.groups hgroups
  have hskaters : ∀ u ∈ EmailUpdate.firsts [] report.emailUpdates,
      .text u.skaterId ∈ c₁.skaters.map SkaterRow.id := fun u hu =>
    hext₁.skaters (hreport.updates u (EmailUpdate.mem_of_mem_firsts hu))
  obtain ⟨c₂, rfl, hc₂, hext₂, -⟩ := hc₁.writeEmails hskaters hemails
  exact (hc₂.insertAudit haudit).after (hext₁.trans hext₂)

end Report

end Coherent

end Contents

/-! ## Runs -/

/-- A contact report that is written was made from contacts and the skaters that the store holds or
once held. -/
def Action.FromSkaters (u : Usage) : Action → Prop
  | .applyContacts _ report => ∃ s ∈ u.store :: u.past, ∃ contacts skaters,
      s.storedSkaters = .ok skaters ∧ report = .validate contacts skaters
  | _ => True

/-- Whatever the action, what is coherent stays so; a report has to name stored skaters. -/
theorem Contents.Coherent.perform {c : Contents} (hc : c.Coherent) {a : Action} {s : Store}
    (hreport : ∀ m report, a = .applyContacts m report →
      report.Within (c.skaters.map SkaterRow.id)) (h : a.perform c.toStore = .ok s) :
    c.Continues s fun _ => True := by
  cases a with
  | importEntries m competition entries =>
    obtain ⟨⟨summary, s₁⟩, himport, rfl⟩ := map_eq_ok_iff.mp h
    exact hc.importEntries himport
  | cleanup m items =>
    obtain ⟨⟨report, s₁⟩, hcleanup, rfl⟩ := map_eq_ok_iff.mp h
    exact hc.cleanup hcleanup
  | applyContacts m report =>
    obtain ⟨⟨summary, s₁⟩, hcontacts, rfl⟩ := map_eq_ok_iff.mp h
    exact hc.applyContacts (hreport m report rfl) hcontacts

namespace Usage

variable {u : Usage} {c : Contents}

/-- A store is coherent, and the skaters of its earlier states are still there. -/
structure Coherent (u : Usage) (c : Contents) : Prop where
  /-- The store holds this. -/
  holds : c.toStore = u.store
  /-- It is coherent. -/
  coherent : c.Coherent
  /-- Skaters that were there are there. -/
  past : ∀ s ∈ u.past, ∃ rows, s.skaters = some rows ∧
    rows.map SkaterRow.id ⊆ c.skaters.map SkaterRow.id

/-- A store that was just set up. -/
theorem fresh_coherent : fresh.Coherent ⟨[], [], [], [], [], [], .empty⟩ where
  holds := rfl
  coherent := ⟨.nil, .nil, .nil, .nil, .nil, .nil, List.nodup_nil, .nil, List.nodup_nil⟩
  past := by simp [fresh]

/-- A report that was made from skaters that the store holds or once held names stored skaters. -/
theorem Coherent.within (hu : u.Coherent c) {m : Moment} {report : ContactReport}
    (h : Action.FromSkaters u (.applyContacts m report)) :
    report.Within (c.skaters.map SkaterRow.id) := by
  obtain ⟨s, hs, contacts, skaters, hread, rfl⟩ := h
  obtain ⟨rows, hrows, hkept⟩ : ∃ rows, s.skaters = some rows ∧
      rows.map SkaterRow.id ⊆ c.skaters.map SkaterRow.id := by
    rcases List.mem_cons.mp hs with rfl | hs
    · exact ⟨c.skaters, by rw [← hu.holds]; rfl, List.Subset.refl _⟩
    · exact hu.past s hs
  exact ContactReport.validate_within fun a ha =>
    hkept (Store.mem_ids_of_storedSkaters hrows hread a ha)

/-- What is done with a coherent store leaves it coherent. -/
theorem Coherent.step (hu : u.Coherent c) {a : Action} (ha : a.FromSkaters u) :
    ∃ c', (u.step a).Coherent c' := by
  cases h : a.perform u.store with
  | error failure =>
    rw [step_of_error h]
    exact ⟨c, hu⟩
  | ok s =>
    rw [← hu.holds] at h
    obtain ⟨c', hs, hc', hext, -⟩ := hu.coherent.perform
      (fun m report heq => hu.within (heq ▸ ha)) h
    rw [hu.holds] at h
    refine ⟨c', ?_, hc', ?_⟩
    · rw [hs, step_store_of_ok h]
    · rw [step_past_of_ok h]
      refine List.forall_mem_cons.mpr ⟨⟨c.skaters, by rw [← hu.holds]; rfl, hext.skaters⟩, ?_⟩
      -- The skaters of a state before that were among those that the action found.
      intro s' hs'
      obtain ⟨rows, hrows, hkept⟩ := hu.past s' hs'
      exact ⟨rows, hrows, List.Subset.trans hkept hext.skaters⟩

/-- Whatever a store has been through, as long as the contact reports were made from its own
skaters, late or not: it has all its tables, and they hang together. -/
theorem reachable_coherent (hu : Reachable Action.FromSkaters u) :
    ∃ c : Contents, c.toStore = u.store ∧ c.Coherent := by
  have hall : ∃ c, u.Coherent c := by
    induction hu with
    | fresh => exact ⟨_, fresh_coherent⟩
    | step _ hallowed ih =>
      obtain ⟨c, hc⟩ := ih
      exact hc.step hallowed
  obtain ⟨c, hc⟩ := hall
  exact ⟨c, hc.holds, hc.coherent⟩

/-- A competition is imported and then again under another name with the same key, a report made in
between is written late, and it is written once more after an import and a cleanup. -/
theorem reachable_coherent_renamed :
    let e : Entry := ⟨"Kei", "Ito", [3], none, .sent, none, none, [], none⟩
    let m (k : ℕ) : Moment := ⟨⟨k, 0⟩, fun n => .ofNat (10 * k + n), fun n => .ofNat (10 * k + n),
      fun n => .ofNat (10 * k + n), fun n => ⟨k, n + 1⟩⟩
    let contact := Contact.ofRow "Kei and Kay" "Ito" (some "ito@example.org")
    let skater : StoredSkater := ⟨"skater:ito_kei", "Kei", "Ito", none⟩
    let imported := fresh.step (.importEntries (m 1) "Pony" [e])
    let write (k : ℕ) := Action.applyContacts (m k) (.validate [contact] [skater])
    let renamed := imported.step (.importEntries (m 2) "PONY" [e, { e with firstName := "Kay" }])
    let again := (renamed.step (write 3)).step (.importEntries (m 4) "Pony" [e])
    let item : PlanItem := ⟨"competed_in:0000000000000000000000000000000a", "", "", ""⟩
    let u := (again.step (.cleanup (m 5) [item])).step (write 6)
    imported.store.storedSkaters = .ok [skater] ∧ Reachable Action.FromSkaters u ∧
      ∃ c : Contents, c.toStore = u.store ∧ c.Coherent := by
  intro e m contact skater imported write renamed again item u
  have hread : imported.store.storedSkaters = .ok [skater] := by
    dsimp only [imported, skater, e, m]
    rfl
  have hlate {v : Usage} (hv : imported.store ∈ v.store :: v.past) (k : ℕ) :
      (write k).FromSkaters v := ⟨imported.store, hv, [contact], [skater], hread, rfl⟩
  have himported : imported.store ∈ imported.store :: imported.past := List.mem_cons_self
  have hrenamed := mem_states_step himported (.importEntries (m 2) "PONY"
    [e, { e with firstName := "Kay" }])
  have hagain := mem_states_step (mem_states_step hrenamed (write 3))
    (.importEntries (m 4) "Pony" [e])
  have hcleaned := mem_states_step hagain (.cleanup (m 5) [item])
  have hu : Reachable Action.FromSkaters u :=
    .step (.step (.step (.step (.step (.step .fresh trivial) trivial) (hlate hrenamed 3)) trivial)
      trivial) (hlate hcleaned 6)
  exact ⟨hread, hu, reachable_coherent hu⟩

end Usage

end SkaterLedger
