import SkaterLedger.Proofs.Store.Addresses
import SkaterLedger.Proofs.Store.CoherentUse
import SkaterLedger.Proofs.Store.Reimport
import SkaterLedger.Proofs.Store.Tables
import SkaterLedger.Store.Query

/-!
# Planning over what is stored

The relations of a store can always be planned over, and the plan shows skaters and events by name.
Two things are behind it. Every relation was added by an import, which makes well-formed ids whatever
the names are, so that no id can stop the plan. And a relation leads to a skater and an event that
are stored, an event to a competition that is, and all of them keep their names; contact reports may
name skaters and families that are not stored, but they are not about what was imported. So the
coherence of a store is shown here for its schedule only, which any report keeps.
-/

namespace SkaterLedger

/-! ## The schedule stays coherent -/

namespace Contents

/-- What was imported: neither families nor links, and nothing of the audit trail. -/
def schedule (c : Contents) : Contents := { c with families := [], links := [], log := .empty }

variable {c c' : Contents} {s : Store} {m : Moment}

/-- What is coherent has a coherent schedule. -/
theorem Coherent.schedule (hc : c.Coherent) : c.schedule.Coherent :=
  { hc with
    families := .nil
    links := .nil
    linkedOnce := List.nodup_nil
    trail := .nil
    tracedOnce := List.nodup_nil }

/-- An import leaves a coherent schedule: it writes the schedule as if there were nothing else. -/
theorem Coherent.schedule_imported (hc : c.schedule.Coherent) {competition : String}
    {entries : List Entry} {summary : ImportSummary}
    (h : c.toStore.importEntries m competition entries = .ok (summary, s)) :
    s = (c.imported m competition entries).toStore ∧
      (c.imported m competition entries).schedule.Coherent := by
  obtain ⟨hfresh, -, -, rfl⟩ := Store.importEntries_toStore_iff.mp h
  have hroom : AuditLog.empty.lastId < AuditLog.maxId := by decide
  have hadmits : c.schedule.log.Admits [(ImportSummary.ofEntries competition entries).event m] :=
    AuditLog.admits_singleton_iff.mpr ⟨hroom, by simp [Contents.schedule, AuditLog.empty]⟩
  have halone : c.schedule.toStore.importEntries m competition entries = .ok
      (.ofEntries competition entries, (c.schedule.imported m competition entries).toStore) :=
    Store.importEntries_toStore_iff.mpr ⟨hfresh, hadmits, rfl, rfl⟩
  obtain ⟨c₁, hs, hc₁, -, -⟩ := hc.importEntries halone
  obtain rfl : c₁ = c.schedule.imported m competition entries := by
    cases c₁
    simpa [toStore, Contents.imported] using hs
  exact ⟨rfl, hc₁.schedule⟩

/-- So whatever it leaves has one. -/
theorem Coherent.schedule_importEntries (hc : c.schedule.Coherent) {competition : String}
    {entries : List Entry} {summary : ImportSummary}
    (h : c.toStore.importEntries m competition entries = .ok (summary, s)) :
    ∃ c' : Contents, c'.toStore = s ∧ c'.schedule.Coherent := by
  obtain ⟨rfl, hc'⟩ := hc.schedule_imported h
  exact ⟨_, rfl, hc'⟩

/-- The schedule stays coherent when relations are taken away and skaters get other addresses. -/
theorem Coherent.schedule_of_fewer (hc : c.schedule.Coherent)
    (hcompetitions : c'.competitions = c.competitions) (hevents : c'.events = c.events)
    (hrelations : c'.relations.Sublist c.relations) {change : SkaterRow → SkaterRow}
    (hchange : ∀ r, { change r with email := r.email } = r)
    (hskaters : c'.skaters = c.skaters.map change) : c'.schedule.Coherent := by
  have hid (r : SkaterRow) : (change r).id = r.id := by
    have hsame := congrArg SkaterRow.id (hchange r)
    exact hsame
  have hids : c'.skaters.map SkaterRow.id = c.skaters.map SkaterRow.id := by
    rw [hskaters, map_id_map hid]
  have hnamed : Identified SkaterRow.id SkaterRow.Named c'.skaters := by
    rw [hskaters]
    refine hc.skaters.map hid fun r _ hr => ?_
    obtain ⟨first, last, hfirst, hlast, hname⟩ := hr
    have hsameFirst := congrArg SkaterRow.firstName (hchange r)
    have hsameLast := congrArg SkaterRow.lastName (hchange r)
    exact ⟨first, last, hsameFirst.trans hfirst, hsameLast.trans hlast, (hid r).trans hname⟩
  have hplaced : Identified RelationRow.id (RelationRow.Placed c'.skaters c'.events)
      c'.relations := by
    refine (hc.relations.sublist hrelations).imp fun r _ hr => hr.mono ?_ ?_
    · rw [hids]
      exact List.Subset.refl _
    · rw [hevents]
      exact List.Subset.refl _
  refine ⟨?_, ?_, hnamed, .nil, hplaced, .nil, List.nodup_nil, .nil, List.nodup_nil⟩
  · show Identified CompetitionRow.id CompetitionRow.Named c'.competitions
    rw [hcompetitions]
    exact hc.competitions
  · show Identified EventRow.id (EventRow.Placed c'.competitions) c'.events
    rw [hcompetitions, hevents]
    exact hc.events

/-- Whatever the action, it leaves a coherent schedule. -/
theorem Coherent.schedule_perform (hc : c.schedule.Coherent) {a : Action}
    (h : a.perform c.toStore = .ok s) : ∃ c' : Contents, c'.toStore = s ∧ c'.schedule.Coherent := by
  obtain ⟨c', rfl⟩ := Store.exists_contents_of_perform h
  cases a with
  | importEntries m competition entries =>
    obtain ⟨⟨summary, s₁⟩, himport, hs⟩ := map_eq_ok_iff.mp h
    exact hs ▸ hc.schedule_importEntries himport
  | cleanup m items =>
    obtain ⟨⟨report, s₁⟩, hcleanup, rfl⟩ := map_eq_ok_iff.mp h
    have hothers := Store.cleanup_others hcleanup
    obtain ⟨rows, hrows, hsub, -⟩ := Store.cleanup_competedIn rfl hcleanup
    obtain rfl : c'.relations = rows := Option.some.inj hrows
    refine ⟨c', rfl, hc.schedule_of_fewer (Option.some.inj (congrArg Store.competitions hothers))
      (Option.some.inj (congrArg Store.events hothers)) hsub (fun _ => rfl)
      ((Option.some.inj (congrArg Store.skaters hothers)).trans (List.map_id _).symm)⟩
  | applyContacts m report =>
    obtain ⟨⟨summary, s₁⟩, hcontacts, rfl⟩ := map_eq_ok_iff.mp h
    have hsame := Store.applyContacts_sameSchedule hcontacts
    refine ⟨c', rfl, hc.schedule_of_fewer (Option.some.inj hsame.competitions)
      (Option.some.inj hsame.events) ?_ (SkaterRow.fillAll_others _)
      (Option.some.inj (Store.applyContacts_skaters hcontacts))⟩
    rw [Option.some.inj hsame.competedIn]

end Contents

/-! ## What labels show -/

namespace Store

/-- A label shows the skater of an id: the one row of the id has the names that the label gives, the
last name first. -/
def ShowsSkater (s : Store) (id label : String) : Prop :=
  ∃ skaters r first last, s.skaters = some skaters ∧
    (skaters.filter fun r => r.id == .text id) = [r] ∧
    r.firstName = .text first ∧ r.lastName = .text last ∧ label = last ++ ", " ++ first

/-- A label shows the event of an id: the one row of the id has the number that the label gives, and
the one row of its competition has the name. -/
def ShowsEvent (s : Store) (id label : String) : Prop :=
  ∃ events r competitions c name, ∃ number : ℕ, s.events = some events ∧
    (events.filter fun r => r.id == .text id) = [r] ∧ r.eventNumber = .integer number ∧
    s.competitions = some competitions ∧
    (competitions.filter fun c => c.id == r.competition) = [c] ∧ c.name = .text name ∧
    label = name ++ " #" ++ toString number

/-- A skater and an event are called by their names, and not by their ids. -/
structure Names (s : Store) (subject target subjectLabel targetLabel : String) : Prop where
  /-- The skater's label shows the skater. -/
  skater : s.ShowsSkater subject subjectLabel
  /-- The event's label shows the event. -/
  event : s.ShowsEvent target targetLabel
  /-- Neither label is the id. -/
  notIds : subjectLabel ≠ subject ∧ targetLabel ≠ target

variable {skaters : List SkaterRow} {events : List EventRow} {competitions : List CompetitionRow}
  {names : List (String × String)} {id label : String}

/-- A skater's row that is named by its id has the label of its names. -/
theorem subjectLabel_of_named {r : SkaterRow} (hr : r.Named) :
    ∃ first last, r.firstName = .text first ∧ r.lastName = .text last ∧
      r.id = .text (skaterIdOf first last) ∧
      subjectLabel r = .ok (skaterIdOf first last, last ++ ", " ++ first) := by
  obtain ⟨first, last, hfirst, hlast, hid⟩ := hr
  refine ⟨first, last, hfirst, hlast, hid, ?_⟩
  unfold subjectLabel
  rw [hfirst, hlast, hid]
  rfl

/-- The row of an event whose competition is stored has the label of the competition's name. -/
theorem targetLabel_of_placed
    (hcompetitions : Identified CompetitionRow.id CompetitionRow.Named competitions) {r : EventRow}
    (hr : r.Placed competitions) :
    ∃ c name, ∃ number : ℕ, (competitions.filter fun c => c.id == r.competition) = [c] ∧
      c.name = .text name ∧ r.eventNumber = .integer number ∧
      r.id = .text (eventId name number) ∧
      targetLabel competitions r = .ok (eventId name number, name ++ " #" ++ toString number) := by
  obtain ⟨c, hc, hcompetition, name, number, hname, hnumber, hid⟩ := hr
  -- The competition is the only one of its id, so that the name is not that of another one.
  have hone : (competitions.filter fun c => c.id == r.competition) = [c] := by
    rw [hcompetition]
    exact hcompetitions.filter_eq_singleton hc
  -- No competition's id is missing, so looking for the same value is looking for the same id.
  have hsame : (competitions.filter fun c => c.id.sameValue r.competition) = [c] := by
    rw [← hone]
    refine List.filter_congr fun c' hc' => ?_
    obtain ⟨name', -, hid'⟩ := hcompetitions.each c' hc'
    rw [Cell.sameValue, hid']
    rfl
  have hfind : (competitions.find? fun c => c.id.sameValue r.competition) = some c := by
    rw [← List.head?_filter, hsame]
    rfl
  refine ⟨c, name, number, hone, hname, hnumber, hid, ?_⟩
  unfold targetLabel
  rw [hid, hnumber, hfind]
  dsimp only
  rw [hname]
  rfl

/-- The label that is found for the id of a row is the label of the row. -/
theorem mem_of_shows {ρ : Type} {rows : List ρ} {labelOf : ρ → Except Failure (String × String)}
    (hnames : rows.mapM labelOf = .ok names) (hshows : Labels.Shows names id label) {r : ρ}
    (hr : r ∈ rows) {label' : String} (hlabel : labelOf r = .ok (id, label')) :
    ∃ r' ∈ rows, labelOf r' = .ok (id, label) := by
  rcases hshows with ⟨before, after, rfl, -⟩ | ⟨hnone, -⟩
  · exact exists_of_mem_mapM hnames (List.mem_append_right _ List.mem_cons_self)
  · -- The row has a label under the id, so the id is not without one.
    obtain ⟨found, hfound, hread⟩ := exists_mem_of_mapM hnames hr
    obtain rfl := Except.ok.inj (hlabel.symm.trans hread)
    exact absurd rfl (hnone _ hfound)

/-- The skater of an id is shown by the label that is found for it. -/
theorem showsSkater_of_shows {s : Store} (htable : s.skaters = some skaters)
    (hskaters : Identified SkaterRow.id SkaterRow.Named skaters)
    (hnames : skaters.mapM subjectLabel = .ok names) (hid : .text id ∈ skaters.map SkaterRow.id)
    (hshows : Labels.Shows names id label) : s.ShowsSkater id label ∧ label ≠ id := by
  obtain ⟨r, hr, hrid⟩ := List.mem_map.mp hid
  obtain ⟨first, last, -, -, hrid', hread⟩ := subjectLabel_of_named (hskaters.each r hr)
  obtain rfl : skaterIdOf first last = id := Cell.text.inj (hrid'.symm.trans hrid)
  obtain ⟨r', hr', hread'⟩ := mem_of_shows hnames hshows hr hread
  obtain ⟨first', last', hfirst, hlast, hr'id, hlabel⟩ :=
    subjectLabel_of_named (hskaters.each r' hr')
  obtain ⟨hsame, rfl⟩ := Prod.mk.inj (Except.ok.inj (hlabel.symm.trans hread'))
  refine ⟨⟨skaters, r', first', last', htable, ?_, hfirst, hlast, rfl⟩, fun heq => ?_⟩
  · rw [← hsame, ← hr'id]
    exact hskaters.filter_eq_singleton hr'
  · -- The label has a blank between the names, and the id has none.
    have hblank : ' ' ∈ (last' ++ ", " ++ first').toList := by simp
    rw [heq] at hblank
    exact blank_not_mem_skaterIdOf first last hblank

/-- The event of an id is shown by the label that is found for it. -/
theorem showsEvent_of_shows {s : Store} (htable : s.events = some events)
    (htable' : s.competitions = some competitions)
    (hcompetitions : Identified CompetitionRow.id CompetitionRow.Named competitions)
    (hevents : Identified EventRow.id (EventRow.Placed competitions) events)
    (hnames : events.mapM (targetLabel competitions) = .ok names)
    (hid : .text id ∈ events.map EventRow.id) (hshows : Labels.Shows names id label) :
    s.ShowsEvent id label ∧ label ≠ id := by
  obtain ⟨r, hr, hrid⟩ := List.mem_map.mp hid
  obtain ⟨c, name, number, -, -, -, hrid', hread⟩ :=
    targetLabel_of_placed hcompetitions (hevents.each r hr)
  obtain rfl : eventId name number = id := Cell.text.inj (hrid'.symm.trans hrid)
  obtain ⟨r', hr', hread'⟩ := mem_of_shows hnames hshows hr hread
  obtain ⟨c', name', number', hone, hname, hnumber, hr'id, hlabel⟩ :=
    targetLabel_of_placed hcompetitions (hevents.each r' hr')
  obtain ⟨hsame, rfl⟩ := Prod.mk.inj (Except.ok.inj (hlabel.symm.trans hread'))
  refine ⟨⟨events, r', competitions, c', name', number', htable, ?_, hnumber, htable', hone, hname,
    rfl⟩, fun heq => ?_⟩
  · rw [← hsame, ← hr'id]
    exact hevents.filter_eq_singleton hr'
  · -- The label has a blank in front of the number, and the id has none.
    have hblank : ' ' ∈ (name' ++ " #" ++ toString number').toList := by simp
    rw [heq] at hblank
    exact blank_not_mem_eventId name number hblank

end Store

/-- A store with a coherent schedule has labels for all its skaters and events, and those that are
found for a relation show its skater and its event. -/
theorem Contents.Coherent.labels {c : Contents} (hc : c.schedule.Coherent) :
    ∃ labels, c.toStore.labels = .ok labels ∧
      ∀ row ∈ c.relations, ∀ r, Store.relationOfRow row = .ok r → ∀ subjectLabel targetLabel,
        Labels.Shows labels.subjects r.subject subjectLabel →
        Labels.Shows labels.targets r.target targetLabel →
        c.toStore.Names r.subject r.target subjectLabel targetLabel := by
  have hcompetitions : Identified CompetitionRow.id CompetitionRow.Named c.competitions :=
    hc.competitions
  have hevents : Identified EventRow.id (EventRow.Placed c.competitions) c.events := hc.events
  have hskaters : Identified SkaterRow.id SkaterRow.Named c.skaters := hc.skaters
  obtain ⟨subjects, hsubjects⟩ : Succeeds (c.skaters.mapM Store.subjectLabel) := by
    refine succeeds_mapM_iff.mpr fun r hr => ?_
    obtain ⟨first, last, -, -, -, hlabel⟩ := Store.subjectLabel_of_named (hskaters.each r hr)
    exact ⟨_, hlabel⟩
  obtain ⟨targets, htargets⟩ : Succeeds (c.events.mapM (Store.targetLabel c.competitions)) := by
    refine succeeds_mapM_iff.mpr fun r hr => ?_
    obtain ⟨_, _, _, -, -, -, -, hlabel⟩ :=
      Store.targetLabel_of_placed hcompetitions (hevents.each r hr)
    exact ⟨_, hlabel⟩
  refine ⟨⟨subjects, targets⟩, ?_, ?_⟩
  · unfold Store.labels
    exact bind_eq_ok_iff.mpr ⟨c.skaters, rfl, bind_eq_ok_iff.mpr ⟨subjects, hsubjects,
      bind_eq_ok_iff.mpr ⟨c.events, rfl, bind_eq_ok_iff.mpr ⟨c.competitions, rfl,
        bind_eq_ok_iff.mpr ⟨targets, htargets, rfl⟩⟩⟩⟩⟩
  · intro row hrow r hread subjectLabel targetLabel hsubject htarget
    -- The relation leads to a skater and an event that are stored, and so to their labels.
    obtain ⟨hskater, hevent⟩ : row.Placed c.skaters c.events := hc.relations.each row hrow
    obtain ⟨-, hin, hout⟩ := Store.ids_of_relationOfRow hread
    rw [hin] at hskater
    rw [hout] at hevent
    obtain ⟨hskaterShown, hskaterNe⟩ :=
      Store.showsSkater_of_shows (s := c.toStore) rfl hskaters hsubjects hskater hsubject
    obtain ⟨heventShown, heventNe⟩ := Store.showsEvent_of_shows (s := c.toStore) rfl rfl
      hcompetitions hevents htargets hevent htarget
    exact ⟨hskaterShown, heventShown, hskaterNe, heventNe⟩

/-! ## Runs -/

namespace Usage

variable {u : Usage} {allowed : Usage → Action → Prop}

/-- Whatever a store has been through, it has all its tables, and its schedule is coherent. -/
theorem Reachable.schedule (hu : Reachable allowed u) :
    ∃ c : Contents, c.toStore = u.store ∧ c.schedule.Coherent := by
  refine hu.store_induction
    (P := fun s => ∃ c : Contents, c.toStore = s ∧ c.schedule.Coherent) ?_ ?_
  · obtain ⟨hholds, hcoherent, -⟩ := fresh_coherent
    exact ⟨_, hholds, hcoherent.schedule⟩
  · rintro _ s a ⟨c, rfl, hc⟩ h
    exact hc.schedule_perform h

/-- Whatever a store has been through, the relations that were ever added can be read and have
well-formed ids. -/
theorem Reachable.added_wellFormed (hu : Reachable allowed u) :
    ∀ row ∈ u.added, ∃ r, Store.relationOfRow row = .ok r ∧ r.WellFormed := by
  induction hu with
  | fresh => simp [Usage.fresh]
  | @step u a hu _ ih =>
    obtain ⟨rows, history, hconsistent⟩ := hu.consistent
    -- Only an import adds relations, and it makes all their ids itself.
    cases a with
    | importEntries m competition entries =>
      cases h : Action.perform u.store (.importEntries m competition entries) with
      | error failure =>
        rw [step_of_error h]
        exact ih
      | ok s =>
        rw [hconsistent.added_import h, List.forall_mem_append]
        refine ⟨ih, fun row hrow => ?_⟩
        have hread := Store.readAs_iff.mp (Store.reads_importedRows m competition 0 entries)
        obtain ⟨r, hr, hrow⟩ := exists_mem_of_mapM hread hrow
        exact ⟨r, hrow, wellFormed_of_mem_importedRelations r hr⟩
    | cleanup m items =>
      rw [hconsistent.added_cleanup]
      exact ih
    | applyContacts m report =>
      rw [hconsistent.added_applyContacts]
      exact ih

/-- Whatever a store has been through, its relations can be read, and their ids are well-formed. -/
theorem Reachable.exists_relations (hu : Reachable allowed u) :
    ∃ relations, u.store.relations = .ok relations ∧ ∀ r ∈ relations, r.WellFormed := by
  obtain ⟨rows, history, hconsistent⟩ := hu.consistent
  -- The relations that are there are some of those that were added.
  have hrows : ∀ row ∈ rows, ∃ r, Store.relationOfRow row = .ok r ∧ r.WellFormed :=
    fun row hrow => hu.added_wellFormed row (hconsistent.kept.subset hrow)
  obtain ⟨relations, hread⟩ : Succeeds (rows.mapM Store.relationOfRow) := by
    refine succeeds_mapM_iff.mpr fun row hrow => ?_
    obtain ⟨r, hr, -⟩ := hrows row hrow
    exact ⟨r, hr⟩
  refine ⟨relations, Store.relations_eq_ok_iff.mpr
    ⟨rows, hconsistent.table, Store.readAs_iff.mpr hread⟩, fun r hr => ?_⟩
  obtain ⟨row, hrow, hrow'⟩ := exists_of_mem_mapM hread hr
  obtain ⟨r', hr', hwellFormed⟩ := hrows row hrow
  obtain rfl := Except.ok.inj (hrow'.symm.trans hr')
  exact hwellFormed

/-- Whatever a store has been through, whatever the names of skaters and competitions are and
whatever contact reports say: the relations and the labels can be read, a plan can be made of them,
and it calls the skater and the event of each pair, and of each relation that it deletes, by the names
that the store holds for them. -/
theorem plan_names (hu : Reachable allowed u) :
    ∃ relations labels plan, u.store.relations = .ok relations ∧ u.store.labels = .ok labels ∧
      DeletionPlan.make labels relations = .ok plan ∧ u.store.plan = .ok plan ∧
      (∀ d ∈ plan.groups, u.store.Names d.subject d.target d.subjectLabel d.targetLabel) ∧
      ∀ item ∈ plan.items, ∃ r ∈ relations, r.id = item.id ∧
        u.store.Names r.subject r.target item.subject item.target := by
  obtain ⟨c, hstore, hc⟩ := hu.schedule
  obtain ⟨relations, hrelations, hwellFormed⟩ := hu.exists_relations
  obtain ⟨labels, hlabels, hshown⟩ := hc.labels
  rw [← hstore] at hrelations ⊢
  have hmake : DeletionPlan.make labels relations = .ok (.build labels relations) :=
    DeletionPlan.make_eq_ok_iff.mpr ⟨hwellFormed, rfl⟩
  have hspecified := DeletionPlan.specified_of_make hmake
  -- The labels of a group show the skater and the event of all relations of its pair.
  have hnames : ∀ d ∈ (DeletionPlan.build labels relations).groups, ∀ r ∈ relations,
      r.pair = d.pair → c.toStore.Names r.subject r.target d.subjectLabel d.targetLabel := by
    intro d hd r hr hpair
    have hsubject : r.subject = d.subject := congrArg Prod.fst hpair
    have htarget : r.target = d.target := congrArg Prod.snd hpair
    have hdecision := hspecified.groups d hd
    obtain ⟨rows, hrows, hreads⟩ := Store.relations_eq_ok_iff.mp hrelations
    obtain rfl : c.relations = rows := Option.some.inj hrows
    obtain ⟨row, hrow, hread⟩ := exists_of_mem_mapM (Store.readAs_iff.mp hreads) hr
    exact hshown row hrow r hread _ _ (hsubject ▸ hdecision.subjectLabel)
      (htarget ▸ hdecision.targetLabel)
  refine ⟨relations, labels, _, hrelations, hlabels, hmake, ?_, ?_, ?_⟩
  · unfold Store.plan
    exact bind_eq_ok_iff.mpr ⟨relations, hrelations, bind_eq_ok_iff.mpr ⟨labels, hlabels, hmake⟩⟩
  · intro d hd
    -- A pair has a group only if it has relations, and one of them leads to the labels.
    have hpair : d.pair ∈ relations.map Relation.pair := by
      have hcount := (hspecified.mem_pairs d.pair).mp (List.mem_map_of_mem hd)
      exact List.count_pos_iff.mp (by omega)
    obtain ⟨r, hr, hrd⟩ := List.mem_map.mp hpair
    have hsubject : r.subject = d.subject := congrArg Prod.fst hrd
    have htarget : r.target = d.target := congrArg Prod.snd hrd
    rw [← hsubject, ← htarget]
    exact hnames d hd r hr hrd
  · intro item hitem
    rw [hspecified.items] at hitem
    -- An item carries the labels of the group that it comes from.
    obtain ⟨d, hd, hitem⟩ := List.mem_flatMap.mp hitem
    obtain ⟨scored, hscored, rfl⟩ := List.mem_map.mp hitem
    obtain ⟨r, hr, hid⟩ :=
      (hspecified.groups d hd).exists_of_mem_delete (List.mem_map_of_mem hscored)
    obtain ⟨hr, hrd⟩ : r ∈ relations ∧ r.pair = d.pair := by
      simpa [Relation.ofPair] using hr
    exact ⟨r, hr, hid, hnames d hd r hr hrd⟩

/-- A competition is imported, imported again under another name with the same key, one of its
relations is deleted, a contact report names a skater that is not stored, and a competition and a
skater without names are imported. -/
theorem plan_names_odd :
    let e : Entry := ⟨"Kei", "Ito", [3, 4], none, .sent, none, none, [], none⟩
    let m (k : ℕ) : Moment := ⟨⟨k, 0⟩, fun n => .ofNat (10 * k + n), fun n => .ofNat (10 * k + n),
      fun n => .ofNat (10 * k + n), fun n => ⟨k, n + 1⟩⟩
    let item : PlanItem := ⟨"competed_in:0000000000000000000000000000000a", "", "", ""⟩
    let report : ContactReport := ⟨[], [], [⟨"skater:ghost", "Ghost", "", "ghost@example.org"⟩],
      [⟨"", [], none, ["skater:ito_kei", "skater:none"]⟩]⟩
    let imported := fresh.step (.importEntries (m 1) "Pony" [e])
    let renamed := imported.step (.importEntries (m 2) "PONY" [e])
    let reported := (renamed.step (.cleanup (m 3) [item])).step (.applyContacts (m 4) report)
    let u := reported.step (.importEntries (m 5) "" [⟨"", "", [0, 0], none, .sent, none, none, [],
      none⟩])
    Reachable (fun _ _ => True) u ∧
      ∃ relations labels plan, u.store.relations = .ok relations ∧ u.store.labels = .ok labels ∧
        DeletionPlan.make labels relations = .ok plan ∧ u.store.plan = .ok plan ∧
        (∀ d ∈ plan.groups, u.store.Names d.subject d.target d.subjectLabel d.targetLabel) ∧
        ∀ item ∈ plan.items, ∃ r ∈ relations, r.id = item.id ∧
          u.store.Names r.subject r.target item.subject item.target := by
  intro e m item report imported renamed reported u
  have hu : Reachable (fun _ _ => True) u :=
    .step (.step (.step (.step (.step .fresh trivial) trivial) trivial) trivial) trivial
  exact ⟨hu, plan_names hu⟩

end Usage

end SkaterLedger
