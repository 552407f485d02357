import SkaterLedger.Proofs.Store.ImportAccount
import SkaterLedger.Proofs.Store.Reported
import SkaterLedger.Proofs.Store.Tables

/-!
# An account of a contact report

What a contact report does to each table, told without the steps in which it does it
(`Store.applyContacts_account`). Which family gets which address depends on where the earliest links
of skaters lead once the report is written (`ContactReport.addressFor?`): addresses of skaters come
after those of groups, so that they count more, and among either the last one counts.
-/

namespace SkaterLedger

namespace ContactReport

/-- The first update of each skater, in the order in which the skaters come first. -/
def firstUpdates (report : ContactReport) : List EmailUpdate :=
  firstOfEach EmailUpdate.skaterId report.emailUpdates

/-- Every sibling of a group with the family of the group. -/
def siblings (report : ContactReport) : List (String × String) :=
  report.familyGroups.flatMap fun g => g.skaterIds.map (·, familyId g.lastName)

/-- The first updates of those skaters who have no link, even once the siblings are linked. -/
def homeless (report : ContactReport) (links : List LinkRow) : List EmailUpdate :=
  report.firstUpdates.filter fun u =>
    !(LinkRow.hasLink links u.skaterId || (report.siblings.map Prod.fst).contains u.skaterId)

/-- The address that a report has for the family of an id, by the links that there are in the end:
that of the last first update of a skater whose earliest link leads to it, or else the last one
among the groups of the family. -/
def addressFor? (report : ContactReport) (links : List LinkRow) (id : Cell) : Option String :=
  let routed := report.firstUpdates.reverse.find? fun u =>
    LinkRow.home? links u.skaterId == some id
  let grouped := report.familyGroups.reverse.findSome? fun g =>
    if id == .text (familyId g.lastName) then g.email else none
  (routed.map EmailUpdate.email).or grouped

end ContactReport

/-- A skater with the address of the first update about the skater, if there was none. -/
def SkaterRow.fillFirst (updates : List EmailUpdate) (r : SkaterRow) : SkaterRow :=
  match updates.find? fun u => r.id == .text u.skaterId with
  | some u => if r.email = .null ∨ r.email = .text "" then { r with email := .text u.email } else r
  | none => r

/-- What a contact report makes of what was in the store. -/
structure Contents.Reports (m : Moment) (report : ContactReport) (summary : ContactSummary)
    (c c' : Contents) : Prop where
  /-- The family of every group is stored, and all siblings are linked to it. -/
  siblings : ∀ g ∈ report.familyGroups, .text (familyId g.lastName) ∈ c'.families.map FamilyRow.id ∧
    ∀ skater ∈ g.skaterIds,
      ∃ r ∈ c'.links, r.inId = .text skater ∧ r.outId = .text (familyId g.lastName)
  /-- Every skater with an update has a link. -/
  linked : ∀ u ∈ report.emailUpdates, ∃ r ∈ c'.links, r.inId = .text u.skaterId
  /-- The links stay, and behind them there are new ones: for siblings who were not linked to the
  families of their groups, and then for skaters with an update who still had no link. -/
  links : c'.links = c.links ++ LinkRow.rowsOf m (LinkRow.unlinked c.links report.siblings ++
    (report.homeless c.links).map fun u => (u.skaterId, familyId u.lastName))
  /-- The skaters stay in place, and those without an address have that of their first update. -/
  skaters : c'.skaters = c.skaters.map (SkaterRow.fillFirst report.emailUpdates)
  /-- The families stay in place, behind them are those that were not there, and all have the
  addresses that the report has for them. -/
  families : c'.families = (c.families ++ FamilyRow.added m c.families
    (report.familyGroups.map FamilyGroup.lastName ++
      (report.homeless c.links).map EmailUpdate.lastName)).map fun r =>
        match report.addressFor? c'.links r.id with
        | some email => { r with email := .text email }
        | none => r
  /-- The competitions stay. -/
  competitions : c'.competitions = c.competitions
  /-- The events stay. -/
  events : c'.events = c.events
  /-- The relations stay. -/
  relations : c'.relations = c.relations
  /-- The summary counts the groups. -/
  summaryFamilies : summary.familiesCreated = report.familyGroups.length
  /-- The summary counts the different skaters with an update. -/
  summaryEmails :
    summary.emailsPopulated = (report.emailUpdates.map EmailUpdate.skaterId).toFinset.card
  /-- The audit trail has one more row, which tells of the report and holds the summary. -/
  log : c'.log = c.log.extend ⟨m.auditId 0, m.auditTime 0, "contacts_applied", "contacts",
    "contacts:validation", summary.toJson, contactsActor⟩

section Account

variable {m : Moment} {report : ContactReport} {c c' : Contents} {s : Store}
  {summary : ContactSummary} {updates : List EmailUpdate} {u : EmailUpdate}
  {links links' : List LinkRow} {as : List FamilyAddress} {id : Cell}

/-! ## First updates -/

/-- An update at the end is a first one if there was none of its skater. -/
theorem EmailUpdate.firsts_concat (seen : List String) : EmailUpdate.firsts seen (updates ++ [u]) =
    if u.skaterId ∈ seen ∨ u.skaterId ∈ updates.map EmailUpdate.skaterId then
      EmailUpdate.firsts seen updates
    else EmailUpdate.firsts seen updates ++ [u] := by
  induction updates generalizing seen with
  | nil => simp [EmailUpdate.firsts]
  | cons v updates ih =>
    rw [List.cons_append]
    unfold EmailUpdate.firsts
    by_cases hseen : seen.contains v.skaterId
    · -- An update of a skater who had one makes no difference.
      rw [if_pos hseen, if_pos hseen, ih]
      have hmem : v.skaterId ∈ seen := List.contains_iff_mem.mp hseen
      by_cases heq : u.skaterId = v.skaterId
      · simp [heq, hmem]
      · simp [heq]
    · rw [if_neg hseen, if_neg hseen, ih]
      by_cases heq : u.skaterId = v.skaterId
      · simp [heq]
      · by_cases hrest : u.skaterId ∈ seen ∨ u.skaterId ∈ updates.map EmailUpdate.skaterId
        · rw [if_pos (by simpa [heq] using hrest), if_pos (by simpa [heq] using hrest)]
        · rw [if_neg (by simpa [heq] using hrest), if_neg (by simpa [heq] using hrest),
            List.cons_append]

/-- The updates that are written are the first ones of their skaters. -/
theorem EmailUpdate.firsts_eq_firstOfEach :
    EmailUpdate.firsts [] updates = firstOfEach EmailUpdate.skaterId updates := by
  induction updates using List.reverseRecOn with
  | nil => rfl
  | append_singleton updates u ih =>
    rw [EmailUpdate.firsts_concat, firstOfEach_concat, ih]
    simp only [List.not_mem_nil, false_or]

/-- The skaters of the first updates are those of the updates, each once. -/
theorem ContactReport.map_skaterId_firstUpdates : report.firstUpdates.map EmailUpdate.skaterId =
    (report.emailUpdates.map EmailUpdate.skaterId).eraseDups :=
  map_firstOfEach

/-- There are as many first updates as different skaters. -/
theorem ContactReport.length_firstUpdates : report.firstUpdates.length =
    (report.emailUpdates.map EmailUpdate.skaterId).toFinset.card := by
  calc report.firstUpdates.length
    _ = (report.firstUpdates.map EmailUpdate.skaterId).length := (List.length_map _).symm
    _ = (report.emailUpdates.map EmailUpdate.skaterId).eraseDups.length := by
        rw [ContactReport.map_skaterId_firstUpdates]
    _ = (report.emailUpdates.map EmailUpdate.skaterId).toFinset.card := length_eraseDups _

/-- A skater without an update stays as it is. -/
theorem SkaterRow.fillFirst_of_not_mem {r : SkaterRow}
    (h : ∀ v ∈ updates, r.id ≠ .text v.skaterId) : r.fillFirst updates = r := by
  have hnone : updates.find? (fun v => r.id == .text v.skaterId) = none :=
    List.find?_eq_none.mpr fun v hv heq => h v hv (eq_of_beq heq)
  unfold fillFirst
  rw [hnone]

/-- The update at the end is the first one of a skater who has no update before. -/
theorem SkaterRow.fillFirst_concat_of_not_mem {r : SkaterRow}
    (h : ∀ v ∈ updates, r.id ≠ .text v.skaterId) :
    r.fillFirst (updates ++ [u]) = r.fill u.skaterId u.email := by
  have hnone : updates.find? (fun v => r.id == .text v.skaterId) = none :=
    List.find?_eq_none.mpr fun v hv heq => h v hv (eq_of_beq heq)
  unfold fillFirst
  rw [List.find?_append, hnone, Option.none_or]
  by_cases hid : r.id = .text u.skaterId
  · simp [fill, hid]
  · simp [fill, hid]

/-- The update at the end is not the first one of a skater who has an update before. -/
theorem SkaterRow.fillFirst_concat_of_mem {r : SkaterRow}
    (h : ∃ v ∈ updates, r.id = .text v.skaterId) :
    r.fillFirst (updates ++ [u]) = r.fillFirst updates := by
  have hsome : (updates.find? fun v => r.id == .text v.skaterId).isSome := by
    obtain ⟨v, hv, hid⟩ := h
    exact List.find?_isSome.mpr ⟨v, hv, beq_iff_eq.mpr hid⟩
  obtain ⟨v, hv⟩ := Option.isSome_iff_exists.mp hsome
  unfold fillFirst
  rw [List.find?_append, hv, Option.some_or]

/-- Setting the addresses of the first updates where there is none is setting the address of a
skater's first update. -/
theorem SkaterRow.fillAll_firstOfEach (r : SkaterRow) :
    r.fillAll (firstOfEach EmailUpdate.skaterId updates) = r.fillFirst updates := by
  induction updates using List.reverseRecOn with
  | nil => rfl
  | append_singleton updates u ih =>
    rw [firstOfEach_concat]
    by_cases hmem : ∃ v ∈ updates, r.id = .text v.skaterId
    · rw [fillFirst_concat_of_mem hmem]
      split
      · exact ih
      · -- This is a first update, so that it is about another skater.
        rename_i hnew
        have hother : r.id ≠ .text u.skaterId := by
          intro heq
          obtain ⟨v, hv, hid⟩ := hmem
          apply hnew
          rw [Cell.text.inj (heq.symm.trans hid)]
          exact List.mem_map_of_mem hv
        rw [fillAll_concat, fill_of_hasAddress, ih]
        rw [fillAll_id]
        exact fun heq => absurd heq hother
    · have hnone : ∀ v ∈ updates, r.id ≠ .text v.skaterId := fun v hv hid => hmem ⟨v, hv, hid⟩
      rw [fillFirst_of_not_mem hnone] at ih
      rw [fillFirst_concat_of_not_mem hnone]
      split
      · -- Here it is not one, so that it is about another skater as well.
        rename_i hseen
        obtain ⟨v, hv, heq⟩ := List.mem_map.mp hseen
        have hother : r.id ≠ .text u.skaterId := heq ▸ hnone v hv
        rw [ih, fill_of_hasAddress fun heq => absurd heq hother]
      · rw [fillAll_concat, ih]

/-! ## Addresses of families -/

/-- Of the addresses that first updates and groups give to a family, the last one is that which the
report has for it. -/
theorem ContactReport.last?_eq_addressFor?
    (hrouted : List.Forall₂ (fun u a => a.email = u.email ∧
      LinkRow.home? links u.skaterId = some (.text a.family)) report.firstUpdates as) :
    FamilyAddress.last? ((report.familyGroups.flatMap fun g =>
      Store.givenTo g.lastName g.email) ++ as) id = report.addressFor? links id := by
  have hupdates : FamilyAddress.last? as id = (report.firstUpdates.reverse.find? fun u =>
      LinkRow.home? links u.skaterId == some id).map EmailUpdate.email := by
    unfold FamilyAddress.last?
    -- The addresses are looked at from the last one, and so are the updates that they come from.
    have hreverse := List.forall₂_reverse_iff.mpr hrouted
    generalize report.firstUpdates.reverse = us at hreverse ⊢
    generalize as.reverse = bs at hreverse ⊢
    induction hreverse with
    | nil => rfl
    | @cons u a us bs hhead _ ih =>
      rw [List.find?_cons, List.find?_cons, hhead.2]
      by_cases hid : id = .text a.family
      · simp [hid, hhead.1]
      · have hgiven : (id == Cell.text a.family) = false := beq_eq_false_iff_ne.mpr hid
        have hhome : (some (Cell.text a.family) == some id) = false :=
          beq_eq_false_iff_ne.mpr fun heq => hid (Option.some.inj heq).symm
        rw [hgiven, hhome]
        exact ih
  have hgroups : FamilyAddress.last? (report.familyGroups.flatMap fun g =>
      Store.givenTo g.lastName g.email) id = report.familyGroups.reverse.findSome? fun g =>
        if id == .text (familyId g.lastName) then g.email else none := by
    unfold FamilyAddress.last?
    rw [List.reverse_flatMap, List.find?_flatMap, List.map_findSome?]
    congr 1
    funext g
    cases hemail : g.email with
    | none => simp [Store.givenTo, hemail]
    | some email =>
      by_cases hid : id = .text (familyId g.lastName)
      · simp [Store.givenTo, hemail, hid]
      · simp [Store.givenTo, hemail, hid]
  rw [FamilyAddress.last?_append, hupdates, hgroups]
  rfl

/-- A family that is given these addresses has the address that the report has for it, or else the
one that it had. -/
theorem ContactReport.relabel_eq
    (hrouted : List.Forall₂ (fun u a => a.email = u.email ∧
      LinkRow.home? links u.skaterId = some (.text a.family)) report.firstUpdates as)
    (r : FamilyRow) :
    r.relabel ((report.familyGroups.flatMap fun g => Store.givenTo g.lastName g.email) ++ as) =
      match report.addressFor? links r.id with
      | some email => { r with email := .text email }
      | none => r := by
  have hlast : FamilyAddress.last? _ r.id = _ := ContactReport.last?_eq_addressFor? hrouted
  cases haddress : report.addressFor? links r.id with
  | none => exact FamilyRow.relabel_of_last?_eq_none (hlast.trans haddress)
  | some email => exact FamilyRow.relabel_of_last?_eq_some (hlast.trans haddress)

/-! ## Links of skaters -/

/-- Every pair of a sibling and a family is linked, whatever other pairs come after. -/
theorem ContactReport.exists_link_of_sibling {skater family : String}
    {pairs : List (String × String)} (hlinks : links' = links ++
      LinkRow.rowsOf m (LinkRow.unlinked links report.siblings ++ pairs))
    (h : (skater, family) ∈ report.siblings) :
    ∃ r ∈ links', r.inId = .text skater ∧ r.outId = .text family := by
  obtain ⟨new, hnew⟩ := LinkRow.rowsOf_append m (LinkRow.unlinked links report.siblings) pairs
  have hlinked : LinkRow.isLinked links' (skater, family) = true := by
    rw [hlinks, hnew, ← List.append_assoc, LinkRow.isLinked_append, LinkRow.isLinked_unlinked h,
      Bool.true_or]
  exact LinkRow.exists_of_isLinked hlinked

/-- Every skater with an update has a link if the addresses of the first updates went to where
links of their skaters lead. -/
theorem ContactReport.exists_link_of_update
    (hrouted : List.Forall₂ (fun u a => a.email = u.email ∧
      LinkRow.home? links u.skaterId = some (.text a.family)) report.firstUpdates as)
    (h : u ∈ report.emailUpdates) : ∃ r ∈ links, r.inId = .text u.skaterId := by
  have hfirsts : ∀ v ∈ report.firstUpdates, ∃ r ∈ links, r.inId = .text v.skaterId := by
    have hboth := hrouted.imp (S := fun v _ => (∃ r ∈ links, r.inId = .text v.skaterId) ∧ True)
      fun v a hv => by
        obtain ⟨r, hr, hin, -⟩ := LinkRow.exists_of_home? hv.2
        exact ⟨⟨r, hr, hin⟩, trivial⟩
    exact ((List.forall₂_and_left _ _).mp hboth).1
  -- The skater's first update need not be this one.
  have hskater : u.skaterId ∈ report.firstUpdates.map EmailUpdate.skaterId := by
    rw [ContactReport.map_skaterId_firstUpdates, List.mem_eraseDups]
    exact List.mem_map_of_mem h
  obtain ⟨v, hv, heq⟩ := List.mem_map.mp hskater
  rw [← heq]
  exact hfirsts v hv

/-! ## The report as a whole -/

namespace Store

/-- The pairs of a skater and a family that a report can link are no more than the links that
writing it can add. -/
theorem length_siblings_add (report : ContactReport) :
    report.siblings.length + report.firstUpdates.length ≤ report.linkCount := by
  have hsiblings : report.siblings.length =
      (report.familyGroups.map fun g => g.skaterIds.length).sum := by
    unfold ContactReport.siblings
    rw [List.length_flatMap]
    simp only [List.length_map]
  have hupdates := EmailUpdate.length_firsts_le [] report.emailUpdates
  rw [EmailUpdate.firsts_eq_firstOfEach] at hupdates
  rw [hsiblings]
  exact Nat.add_le_add_left hupdates _

/-- What is left of a report in families and links: the families have the addresses of the groups and
then those of the first updates, which went to where the earliest links of their skaters lead. -/
theorem applyContacts_wrote (hkeyed : Shape.families.KeysHold c.families)
    (hfresh : m.FreshLinks c.toStore report.linkCount)
    (h : c.toStore.applyContacts m report = .ok (summary, c'.toStore)) :
    c'.links = c.links ++ LinkRow.rowsOf m (LinkRow.unlinked c.links report.siblings ++
        (report.homeless c.links).map fun u => (u.skaterId, familyId u.lastName)) ∧
      ∃ as, c'.families = FamilyRow.stored m c.families
          (report.familyGroups.map FamilyGroup.lastName ++
            (report.homeless c.links).map EmailUpdate.lastName)
          ((report.familyGroups.flatMap fun g => givenTo g.lastName g.email) ++ as) ∧
        List.Forall₂ (fun u a => a.email = u.email ∧
          LinkRow.home? c'.links u.skaterId = some (.text a.family)) report.firstUpdates as := by
  have hlength := length_siblings_add report
  obtain ⟨s₁, n₁, s₂, n₂, hgroups, hemails, haudit, -⟩ := applyContacts_eq_ok_iff.mp h
  rw [EmailUpdate.firsts_eq_firstOfEach] at hemails
  -- The groups leave the pairs of siblings and families that were not linked.
  have hcount : ([] : List (String × String)).length +
      (report.familyGroups.map fun g => g.skaterIds.length).sum ≤ report.linkCount := by
    unfold ContactReport.linkCount
    rw [List.length_nil]
    omega
  obtain ⟨pairs, hpairs, rfl, hw₁⟩ :=
    Wrote.writeGroups hkeyed hfresh Wrote.start (by simp) hcount hgroups
  obtain rfl : pairs = LinkRow.unlinked c.links report.siblings := hpairs
  -- The addresses then add those of the skaters who still have no link.
  have hnodup : (report.firstUpdates.map EmailUpdate.skaterId).Nodup := by
    rw [ContactReport.map_skaterId_firstUpdates]
    exact Relation.nodup_eraseDups _
  have hcount₁ : (LinkRow.unlinked c.links report.siblings).length + report.firstUpdates.length ≤
      report.linkCount :=
    (Nat.add_le_add_right (LinkRow.length_unlinked_le _ _) _).trans hlength
  obtain ⟨homeless, as, hhomeless, hw₂, hrouted⟩ :=
    Wrote.writeEmails hkeyed hfresh hw₁ hnodup hcount₁ hemails
  simp only [LinkRow.hasLink_unlinked] at hhomeless
  obtain rfl : homeless = report.homeless c.links := hhomeless
  -- The row of the audit trail makes no difference to families and links.
  obtain ⟨log, -, -, hstore⟩ := insertAudit_eq_ok_iff.mp haudit
  have hlinks := Option.some.inj ((congrArg Store.belongsTo hstore).symm.trans hw₂.links)
  have hfamilies := Option.some.inj ((congrArg Store.families hstore).symm.trans hw₂.families)
  rw [← hlinks] at hrouted
  exact ⟨hlinks, as, hfamilies, hrouted⟩

/-- What a contact report does to a store, if the ids of its families tell them apart and the ids of
the new links are new. -/
theorem applyContacts_account (hkeyed : Shape.families.KeysHold c.families)
    (hfresh : m.FreshLinks c.toStore report.linkCount)
    (h : c.toStore.applyContacts m report = .ok (summary, s)) :
    ∃ c', c'.toStore = s ∧ c.Reports m report summary c' := by
  have hperform : (Action.applyContacts m report).perform c.toStore = .ok s :=
    map_eq_ok_iff.mpr ⟨_, h, rfl⟩
  obtain ⟨c', rfl⟩ := exists_contents_of_perform hperform
  obtain ⟨hlinks, as, hfamilies, hrouted⟩ := applyContacts_wrote hkeyed hfresh h
  have hskaters := Option.some.inj (applyContacts_skaters h)
  have hschedule := applyContacts_sameSchedule h
  obtain ⟨log, hlog, hlog'⟩ := applyContacts_trail h
  obtain rfl : c.log = log := Option.some.inj hlog
  obtain ⟨_, _, _, _, -, -, -, rfl⟩ := applyContacts_eq_ok_iff.mp h
  rw [EmailUpdate.firsts_eq_firstOfEach] at hskaters
  refine ⟨c', rfl, ?_⟩
  exact {
    siblings := fun g hg => ⟨by
      rw [hfamilies]
      apply FamilyRow.mem_map_id_stored_iff.mpr
      exact .inr ⟨g.lastName, List.mem_append_left _ (List.mem_map_of_mem hg), rfl⟩,
      fun skater hskater => ContactReport.exists_link_of_sibling hlinks
        (List.mem_flatMap.mpr ⟨g, hg, List.mem_map_of_mem hskater⟩)⟩
    linked := fun u hu => ContactReport.exists_link_of_update hrouted hu
    links := hlinks
    skaters := by
      rw [hskaters]
      exact List.map_congr_left fun r _ => SkaterRow.fillAll_firstOfEach r
    families := by
      rw [hfamilies]
      exact List.map_congr_left fun r _ => ContactReport.relabel_eq hrouted r
    competitions := Option.some.inj hschedule.competitions
    events := Option.some.inj hschedule.events
    relations := Option.some.inj hschedule.competedIn
    summaryFamilies := rfl
    summaryEmails := by
      rw [EmailUpdate.firsts_eq_firstOfEach]
      exact ContactReport.length_firstUpdates
    log := Option.some.inj hlog' }

/-- Two groups share a family that is stored, and only one of them has an address; a skater has two
updates, another one is linked to a family of another name, and a third one has neither a link nor
an address. -/
theorem applyContacts_account_shared :
    let m : Moment := ⟨⟨9, 0⟩, .ofNat, .ofNat, .ofNat, fun n => ⟨9, n + 1⟩⟩
    let skater (id : String) (email : Cell) : SkaterRow :=
      ⟨.text id, .text "", .text "", email, .text ""⟩
    let report : ContactReport :=
      ⟨[], [], [⟨"skater:oda_mei", "Oda", "Mei", "mei@example.org"⟩,
        ⟨"skater:ueda_aki", "Ueda", "Aki", "aki@example.org"⟩,
        ⟨"skater:oda_mei", "Oda", "Mei", "other@example.org"⟩,
        ⟨"skater:abe_jun", "ABE", "Jun", "jun@example.org"⟩],
        [⟨"Ito", ["Kei", "Kay"], some "ito@example.org", ["skater:ito_kei", "skater:ito_kay"]⟩,
          ⟨"ITO", ["Kei"], none, ["skater:ito_kei"]⟩, ⟨"Abe", ["Jun"], none, []⟩]⟩
    let c : Contents :=
      { competitions := []
        events := []
        skaters := [skater "skater:oda_mei" (.text ""), skater "skater:ueda_aki" .null,
          skater "skater:abe_jun" (.text "old@example.org")]
        families := [⟨.text "family:ito", .text "Family", .text "Ito", .null, .text ""⟩,
          ⟨.text "family:mori", .text "Family", .text "Mori", .null, .text ""⟩]
        relations := []
        links := [⟨.text "belongs_to:old", .text "skater:oda_mei", .text "family:mori", .text ""⟩]
        log := .empty }
    ∃ summary s, c.toStore.applyContacts m report = .ok (summary, s) ∧
      ∃ c', c'.toStore = s ∧ c.Reports m report summary c' := by
  intro m skater report c
  have hkeyed : Shape.families.KeysHold c.families :=
    Shape.families_keysHold_iff.mpr (by simp [c])
  have hfresh : m.FreshLinks c.toStore report.linkCount := by
    refine ⟨?_, by decide⟩
    intro rows hrows
    obtain rfl := Option.some.inj hrows
    decide
  obtain ⟨summary, s, hs⟩ : ∃ summary s, c.toStore.applyContacts m report = .ok (summary, s) := by
    dsimp only [c, skater, report, m]
    exact ⟨_, _, rfl⟩
  exact ⟨summary, s, hs, applyContacts_account hkeyed hfresh hs⟩

end Store

end Account

end SkaterLedger
