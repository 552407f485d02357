import SkaterLedger.Proofs.Contacts.Reports
import SkaterLedger.Proofs.Store.ReportAccount

/-!
# Siblings

A family group is formed of a contact of whose first names more than one fits a skater. Every name
is looked up on its own, so two of them can fit the same skater best, and then the id of that skater
is in the group twice (`FamilyGroup.Formed`). In the store it makes no difference: a skater is
linked to a family once, however often a group has its id (`Contents.Reports.exists_between`).
-/

namespace SkaterLedger

/-- The first names of a family group that fit a skater. -/
def FamilyGroup.found (skaters : List StoredSkater) (g : FamilyGroup) : List String :=
  g.firstNames.filter fun first => (StoredSkater.bestMatch? first g.lastName skaters).isSome

/-- What a family group is formed of. -/
structure FamilyGroup.Formed (skaters : List StoredSkater) (g : FamilyGroup) : Prop where
  /-- It has more than one id. -/
  several : 1 < g.skaterIds.length
  /-- For each of the first names that fit there is the id of the skater that the name fits best, in
  order. -/
  ids : List.Forall₂ (fun first id => ∃ s ∈ skaters,
    StoredSkater.bestMatch? first g.lastName skaters = some s ∧ s.id = id) (g.found skaters)
    g.skaterIds
  /-- The ids are different exactly if no two of these names fit the same skater best. -/
  distinct : g.skaterIds.Nodup ↔ (g.found skaters).Pairwise fun a b =>
    StoredSkater.bestMatch? a g.lastName skaters ≠ StoredSkater.bestMatch? b g.lastName skaters

variable {contacts : List Contact} {skaters : List StoredSkater}

/-! ## Groups of a report -/

/-- Names of a match fit the same skater best exactly if the ids of their skaters are the same,
where ids tell skaters apart. -/
theorem ContactMatch.Tells.id_eq_iff {m : ContactMatch} (h : m.Tells skaters)
    (hids : (skaters.map StoredSkater.id).Nodup) {p q : String × StoredSkater}
    (hp : p ∈ m.skaters) (hq : q ∈ m.skaters) : p.2.id = q.2.id ↔
      StoredSkater.bestMatch? p.1 m.contact.lastName skaters =
        StoredSkater.bestMatch? q.1 m.contact.lastName skaters := by
  have hstored {p : String × StoredSkater} (hp : p ∈ m.skaters) : p.2 ∈ skaters :=
    StoredSkater.mem_of_bestMatch? (h.best p hp)
  rw [h.best p hp, h.best q hq, Option.some.injEq]
  exact ⟨List.inj_on_of_nodup_map hids (hstored hp) (hstored hq), congrArg StoredSkater.id⟩

/-- The groups of a report are formed of first names that fit skaters. -/
theorem ContactReport.formed_of_mem_familyGroups (hids : (skaters.map StoredSkater.id).Nodup)
    {g : FamilyGroup} (hg : g ∈ (validate contacts skaters).familyGroups) : g.Formed skaters := by
  have haccounts := validate_accounts contacts skaters
  obtain ⟨m, hmatched, hseveral, rfl⟩ := haccounts.exists_match hg
  have hm := haccounts.tells m hmatched
  have hfound : FamilyGroup.found skaters ⟨m.contact.lastName, m.contact.firstNames,
      m.contact.email, m.skaters.map fun p => p.2.id⟩ = m.skaters.map Prod.fst := hm.names.symm
  refine ⟨by rw [List.length_map]; exact hseveral, ?_, ?_⟩
  · rw [hfound, List.forall₂_map_left_iff, List.forall₂_map_right_iff, List.forall₂_same]
    intro p hp
    have hbest := hm.best p hp
    exact ⟨p.2, StoredSkater.mem_of_bestMatch? hbest, hbest, rfl⟩
  · rw [hfound, List.Nodup, List.pairwise_map, List.pairwise_map]
    exact List.Pairwise.iff_of_mem fun {p q} hp hq => not_congr (hm.id_eq_iff hids hp hq)

/-! ## Groups in the store -/

/-- A skater that a report has linked to the family of a group is linked to it by one link: either
there was one before, or there is a new one, however often the pair is among the siblings. -/
theorem Contents.Reports.exists_between {c c' : Contents} {m : Moment} {report : ContactReport}
    {summary : ContactSummary} (h : c.Reports m report summary c')
    (hkeys : Shape.belongsTo.KeysHold c.links) {p : String × String} (hp : p ∈ report.siblings) :
    ∃ r, LinkRow.between c'.links p = [r] := by
  have hhomeless :
      ((report.homeless c.links).map fun u => (u.skaterId, familyId u.lastName)).count p = 0 := by
    -- Who is a sibling is not given a family of its own.
    refine List.count_eq_zero.mpr fun hmem => ?_
    obtain ⟨u, hu, rfl⟩ := List.mem_map.mp hmem
    have hskater : (report.siblings.map Prod.fst).contains u.skaterId = true :=
      List.contains_iff_mem.mpr (List.mem_map_of_mem hp)
    have hnone := (List.mem_filter.mp hu).2
    rw [hskater, Bool.or_true] at hnone
    exact Bool.noConfusion hnone
  have hnew : (LinkRow.between c.links p).length +
      (LinkRow.unlinked c.links report.siblings).count p = 1 := by
    cases hlinked : LinkRow.isLinked c.links p with
    | true =>
      have hzero : (LinkRow.unlinked c.links report.siblings).count p = 0 :=
        List.count_eq_zero.mpr fun hmem =>
          Bool.noConfusion (hlinked.symm.trans (LinkRow.mem_unlinked_iff.mp hmem).2)
      have hpos := List.length_pos_of_ne_nil (LinkRow.between_ne_nil_iff.mpr hlinked)
      have hle := LinkRow.length_between_le hkeys (p := p)
      omega
    | false =>
      have hnil : LinkRow.between c.links p = [] := by
        by_contra hne
        exact Bool.noConfusion (hlinked.symm.trans (LinkRow.between_ne_nil_iff.mp hne))
      have hone : (LinkRow.unlinked c.links report.siblings).count p = 1 :=
        List.count_eq_one_of_mem (Relation.nodup_eraseDups _)
          (LinkRow.mem_unlinked_iff.mpr ⟨hp, hlinked⟩)
      rw [hnil, hone]
      rfl
  have hlength : (LinkRow.between c'.links p).length = 1 := by
    rw [h.links, LinkRow.between_append, List.length_append, LinkRow.length_between_rowsOf,
      List.count_append, hhomeless, Nat.add_zero, hnew]
  exact List.length_eq_one_iff.mp hlength

namespace Store

/-- What family groups are formed of, and what becomes of them. A group of a report on skaters whose
ids are different has more than one id, all of stored skaters: one for each first name that fits, in
order, and the same id twice exactly if two of these names fit the same skater best. Once the report
is written to a store, every skater of a group is linked to the family of the group by one link,
also if the group has its id twice or the skater was linked to the family before. -/
theorem siblings (hids : (skaters.map StoredSkater.id).Nodup) :
    (∀ g ∈ (ContactReport.validate contacts skaters).familyGroups, g.Formed skaters) ∧
      ∀ {c : Contents} {m : Moment} {summary : ContactSummary} {s : Store},
        Shape.families.KeysHold c.families → Shape.belongsTo.KeysHold c.links →
        m.FreshLinks c.toStore (ContactReport.validate contacts skaters).linkCount →
        c.toStore.applyContacts m (.validate contacts skaters) = .ok (summary, s) →
        ∀ g ∈ (ContactReport.validate contacts skaters).familyGroups, ∀ skater ∈ g.skaterIds,
          ∃ r, LinkRow.between (s.belongsTo.getD []) (skater, familyId g.lastName) = [r] := by
  refine ⟨fun g hg => ContactReport.formed_of_mem_familyGroups hids hg, ?_⟩
  intro c m summary s hfamilies hlinks hfresh h g hg skater hskater
  obtain ⟨c', rfl, hreports⟩ := applyContacts_account hfamilies hfresh h
  exact hreports.exists_between hlinks
    (List.mem_flatMap.mpr ⟨g, hg, List.mem_map_of_mem hskater⟩)

/-- Three siblings of whom two fit the same skater best: the skater is in the group twice, and
linked to the family once. -/
theorem siblings_alike :
    let skaters : List StoredSkater :=
      [⟨"skater:lee_ann", "Ann", "Lee", none⟩, ⟨"skater:lee_bea", "Bea", "Lee", none⟩]
    let report := ContactReport.validate [.ofRow "Ann, Anne and Bea" "Lee" none] skaters
    let g : FamilyGroup := ⟨"Lee", ["Ann", "Anne", "Bea"], none,
      ["skater:lee_ann", "skater:lee_ann", "skater:lee_bea"]⟩
    let m : Moment := ⟨⟨9, 0⟩, .ofNat, .ofNat, .ofNat, fun n => ⟨9, n + 1⟩⟩
    let row (id first : String) : SkaterRow := ⟨.text id, .text first, .text "Lee", .null, .text ""⟩
    let c : Contents :=
      { competitions := []
        events := []
        skaters := [row "skater:lee_ann" "Ann", row "skater:lee_bea" "Bea"]
        families := []
        relations := []
        links := []
        log := .empty }
    c.toStore.storedSkaters = .ok skaters ∧ report.familyGroups = [g] ∧ g.Formed skaters ∧
      ∃ summary s, c.toStore.applyContacts m report = .ok (summary, s) ∧
        ∀ skater ∈ g.skaterIds,
          ∃ r, LinkRow.between (s.belongsTo.getD []) (skater, familyId g.lastName) = [r] := by
  intro skaters report g m row c
  have hids : (skaters.map StoredSkater.id).Nodup := by decide
  have hgroups : report.familyGroups = [g] := by decide +kernel
  have hmem : g ∈ report.familyGroups := hgroups ▸ List.mem_singleton_self g
  have hfresh : m.FreshLinks c.toStore report.linkCount := by
    refine ⟨?_, by decide +kernel⟩
    intro rows hrows
    obtain rfl := Option.some.inj hrows
    exact fun r hr => absurd hr List.not_mem_nil
  obtain ⟨⟨summary, s⟩, hs⟩ : Succeeds (c.toStore.applyContacts m report) := by decide +kernel
  obtain ⟨hformed, hlinked⟩ := @siblings [.ofRow "Ann, Anne and Bea" "Lee" none] skaters hids
  exact ⟨by decide +kernel, hgroups, hformed g hmem, summary, s, hs,
    hlinked (c := c) .nil .nil hfresh hs g hmem⟩

/-- A contacts file with two names that fit one skater, the only one stored: the report forms a
family of this skater alone, and has its id twice. -/
theorem siblings_of_one :
    let skaters : List StoredSkater := [⟨"skater:lee_ann", "Ann", "Lee", none⟩]
    ∃ contacts, Contact.readText "First Name,Last Name\nAnn and Anne,Lee\n" = .ok contacts ∧
      (skaters.map StoredSkater.id).Nodup ∧
      (ContactReport.validate contacts skaters).familyGroups =
        [⟨"Lee", ["Ann", "Anne"], none, ["skater:lee_ann", "skater:lee_ann"]⟩] := by
  refine ⟨[.ofRow "Ann and Anne" "Lee" none], ?_, ?_, ?_⟩
  · decide +kernel
  · decide
  · decide +kernel

end Store

end SkaterLedger
