import Mathlib.Data.List.Nodup
import SkaterLedger.Proofs.Store.Cleanup
import SkaterLedger.Proofs.Store.Households
import SkaterLedger.Proofs.Store.Identity
import SkaterLedger.Proofs.Store.Ids
import SkaterLedger.Proofs.Store.Import
import SkaterLedger.Proofs.Store.Trail
import SkaterLedger.Store.Households
import SkaterLedger.Store.Import

/-!
# Stores that hang together

No table of the store checks that the rows of another one are there; that they are is up to the way
in which rows are written. `Contents.Coherent` says what holds of a store with all its tables: ids
are unique, the ids of competitions, events, skaters and families are those of what the rows hold
now, and relations and links lead to rows that are stored. This module shows it of every single
write. A competition may get another name with the same key, and then its events are still its
events: the id of an event tells no more of the name than its key.
-/

namespace SkaterLedger

/-! ## Rows as they should be -/

/-- The id of a competition is that of its name. -/
def CompetitionRow.Named (r : CompetitionRow) : Prop :=
  ∃ name, r.name = .text name ∧ r.id = .text (competitionId name)

/-- The id of a skater is that of its first and last name. -/
def SkaterRow.Named (r : SkaterRow) : Prop :=
  ∃ first last, r.firstName = .text first ∧ r.lastName = .text last ∧
    r.id = .text (skaterIdOf first last)

/-- The id of a family is that of its last name. -/
def FamilyRow.Named (r : FamilyRow) : Prop :=
  ∃ last, r.lastName = .text last ∧ r.id = .text (familyId last)

/-- An event belongs to a competition that is stored, and its id is made of the competition's key
and the event's number. -/
def EventRow.Placed (competitions : List CompetitionRow) (r : EventRow) : Prop :=
  ∃ c ∈ competitions, r.competition = c.id ∧ ∃ name number, c.name = .text name ∧
    r.eventNumber = .integer (number : ℕ) ∧ r.id = .text (eventId name number)

/-- A relation leads from a skater that is stored to an event that is stored. -/
def RelationRow.Placed (skaters : List SkaterRow) (events : List EventRow) (r : RelationRow) :
    Prop :=
  r.inId ∈ skaters.map SkaterRow.id ∧ r.outId ∈ events.map EventRow.id

/-- A link leads from a skater that is stored to a family that is stored. -/
def LinkRow.Placed (skaters : List SkaterRow) (families : List FamilyRow) (r : LinkRow) : Prop :=
  r.inId ∈ skaters.map SkaterRow.id ∧ r.outId ∈ families.map FamilyRow.id

/-! ## Stores with all their tables -/

/-- What a store with all its tables holds. -/
structure Contents where
  /-- The competitions. -/
  competitions : List CompetitionRow
  /-- The events. -/
  events : List EventRow
  /-- The skaters. -/
  skaters : List SkaterRow
  /-- The families. -/
  families : List FamilyRow
  /-- Which skater takes part in which event. -/
  relations : List RelationRow
  /-- Which skater belongs to which family. -/
  links : List LinkRow
  /-- The audit trail. -/
  log : AuditLog

namespace Contents

/-- The store that holds this. -/
def toStore (c : Contents) : Store where
  competitions := some c.competitions
  events := some c.events
  skaters := some c.skaters
  families := some c.families
  competedIn := some c.relations
  belongsTo := some c.links
  auditLog := some c.log

/-- The rows have the ids that they should have, all different in each table, and lead to rows that
are there. -/
structure Coherent (c : Contents) : Prop where
  /-- The competitions have the ids of their names. -/
  competitions : Identified CompetitionRow.id CompetitionRow.Named c.competitions
  /-- The events have the ids of their numbers in competitions that are there. -/
  events : Identified EventRow.id (EventRow.Placed c.competitions) c.events
  /-- The skaters have the ids of their names. -/
  skaters : Identified SkaterRow.id SkaterRow.Named c.skaters
  /-- The families have the ids of their names. -/
  families : Identified FamilyRow.id FamilyRow.Named c.families
  /-- The relations are between skaters and events that are there. -/
  relations : Identified RelationRow.id (RelationRow.Placed c.skaters c.events) c.relations
  /-- The links are between skaters and families that are there. -/
  links : Identified LinkRow.id (LinkRow.Placed c.skaters c.families) c.links
  /-- No skater is linked to a family twice. -/
  linkedOnce : (c.links.map fun r => (r.inId, r.outId)).Nodup
  /-- The rows of the audit trail have numbers up to the last one. -/
  trail : Identified AuditRow.id (fun r => r.id ≤ c.log.lastId) c.log.rows
  /-- No event is in the audit trail twice. -/
  tracedOnce : (c.log.rows.map AuditRow.eventId).Nodup

/-- What rows lead to is still there. -/
structure Extends (c c' : Contents) : Prop where
  /-- The competitions are. -/
  competitions : c.competitions.map CompetitionRow.id ⊆ c'.competitions.map CompetitionRow.id
  /-- The events are. -/
  events : c.events.map EventRow.id ⊆ c'.events.map EventRow.id
  /-- The skaters are. -/
  skaters : c.skaters.map SkaterRow.id ⊆ c'.skaters.map SkaterRow.id
  /-- The families are. -/
  families : c.families.map FamilyRow.id ⊆ c'.families.map FamilyRow.id

variable {c c' c'' : Contents}

/-- A store has what it has. -/
theorem Extends.refl (c : Contents) : c.Extends c :=
  ⟨List.Subset.refl _, List.Subset.refl _, List.Subset.refl _, List.Subset.refl _⟩

/-- What two steps leave in place, both together do. -/
theorem Extends.trans (h : c.Extends c') (h' : c'.Extends c'') : c.Extends c'' :=
  ⟨List.Subset.trans h.competitions h'.competitions, List.Subset.trans h.events h'.events,
    List.Subset.trans h.skaters h'.skaters, List.Subset.trans h.families h'.families⟩

/-- A store is coherent, and what some rows led to before is still there. -/
def Continues (c : Contents) (s : Store) (holds : Contents → Prop) : Prop :=
  ∃ c', c'.toStore = s ∧ c'.Coherent ∧ c.Extends c' ∧ holds c'

end Contents

/-! ## What rows lead to stays -/

section Placed

variable {competitions competitions' : List CompetitionRow} {skaters skaters' : List SkaterRow}
  {events events' : List EventRow} {families families' : List FamilyRow}

/-- An event stays in place if its competition is still there, under a name with the same id. -/
theorem EventRow.Placed.of_renamed {r : EventRow} (h : r.Placed competitions)
    (hkept : ∀ c ∈ competitions, ∀ name, c.name = .text name → ∃ c' ∈ competitions', ∃ name',
      c'.id = c.id ∧ c'.name = .text name' ∧ competitionId name' = competitionId name) :
    r.Placed competitions' := by
  obtain ⟨c, hc, hcompetition, name, number, hname, hnumber, hid⟩ := h
  obtain ⟨c', hc', name', hsame, hname', hkey⟩ := hkept c hc name hname
  refine ⟨c', hc', hcompetition.trans hsame.symm, name', number, hname', hnumber, ?_⟩
  rw [hid, eventId_eq_iff.mpr ⟨(competitionId_eq_iff.mp hkey).symm, rfl⟩]

/-- A relation stays in place if the skaters and events are still there. -/
theorem RelationRow.Placed.mono {r : RelationRow} (h : r.Placed skaters events)
    (hskaters : skaters.map SkaterRow.id ⊆ skaters'.map SkaterRow.id)
    (hevents : events.map EventRow.id ⊆ events'.map EventRow.id) : r.Placed skaters' events' :=
  ⟨hskaters h.1, hevents h.2⟩

/-- A link stays in place if the skaters and families are still there. -/
theorem LinkRow.Placed.mono {r : LinkRow} (h : r.Placed skaters families)
    (hskaters : skaters.map SkaterRow.id ⊆ skaters'.map SkaterRow.id)
    (hfamilies : families.map FamilyRow.id ⊆ families'.map FamilyRow.id) :
    r.Placed skaters' families' :=
  ⟨hskaters h.1, hfamilies h.2⟩

end Placed

namespace Contents.Coherent

variable {c : Contents} {s : Store} {m : Moment} {holds : Contents → Prop}

/-! ## Tables of which nothing is lost -/

/-- The skaters may change as long as their ids stay. -/
theorem withSkaters (hc : c.Coherent) {rows : List SkaterRow}
    (hs : { c.toStore with skaters := some rows } = s)
    (hrows : Identified SkaterRow.id SkaterRow.Named rows)
    (hgrown : c.skaters.map SkaterRow.id ⊆ rows.map SkaterRow.id)
    (hholds : holds { c with skaters := rows }) :
    c.Continues s holds :=
  ⟨{ c with skaters := rows }, hs,
    { hc with
      skaters := hrows
      relations := hc.relations.imp fun _ _ hr => hr.mono hgrown (List.Subset.refl _)
      links := hc.links.imp fun _ _ hr => hr.mono hgrown (List.Subset.refl _) },
    { Extends.refl c with skaters := hgrown }, hholds⟩

/-- The events may change as long as their ids stay. -/
theorem withEvents (hc : c.Coherent) {rows : List EventRow}
    (hs : { c.toStore with events := some rows } = s)
    (hrows : Identified EventRow.id (EventRow.Placed c.competitions) rows)
    (hgrown : c.events.map EventRow.id ⊆ rows.map EventRow.id)
    (hholds : holds { c with events := rows }) :
    c.Continues s holds :=
  ⟨{ c with events := rows }, hs,
    { hc with
      events := hrows
      relations := hc.relations.imp fun _ _ hr => hr.mono (List.Subset.refl _) hgrown },
    { Extends.refl c with events := hgrown }, hholds⟩

/-- The families may change as long as their ids stay. -/
theorem withFamilies (hc : c.Coherent) {rows : List FamilyRow}
    (hs : { c.toStore with families := some rows } = s)
    (hrows : Identified FamilyRow.id FamilyRow.Named rows)
    (hgrown : c.families.map FamilyRow.id ⊆ rows.map FamilyRow.id)
    (hholds : holds { c with families := rows }) :
    c.Continues s holds :=
  ⟨{ c with families := rows }, hs,
    { hc with
      families := hrows
      links := hc.links.imp fun _ _ hr => hr.mono (List.Subset.refl _) hgrown },
    { Extends.refl c with families := hgrown }, hholds⟩

/-! ## Writes of an import -/

/-- Storing a competition. -/
theorem upsertCompetition (hc : c.Coherent) {name : String}
    (h : c.toStore.upsertCompetition m name = .ok s) :
    c.Continues s fun c' =>
      .text (competitionId name) ∈ c'.competitions.map CompetitionRow.id := by
  obtain rfl := Except.ok.inj h
  let rows := upsert (CompetitionRow.id · == .text (competitionId name))
    (fun r => { r with name := .text name })
    ⟨.text (competitionId name), .text name, .text "", .null, .null, .text m.createdAt⟩
    c.competitions
  have hrows : Identified CompetitionRow.id CompetitionRow.Named rows :=
    hc.competitions.upsert (fun _ => rfl) rfl (fun r _ hid _ => ⟨name, rfl, hid⟩)
      ⟨name, rfl, rfl⟩
  have hgrown : c.competitions.map CompetitionRow.id ⊆ rows.map CompetitionRow.id :=
    map_id_subset_upsert fun _ => rfl
  refine ⟨{ c with competitions := rows }, rfl, { hc with competitions := hrows, events := ?_ },
    { Extends.refl c with competitions := hgrown }, mem_map_id_upsert (fun _ => rfl) rfl⟩
  -- Each competition is still there: as it was, or with a name that has the same id.
  refine hc.events.imp fun r _ hr => hr.of_renamed fun c₁ hc₁ name₁ hname₁ => ?_
  have hkept : c₁ ∈ rows ∨ c₁.id = .text (competitionId name) ∧
      { c₁ with name := .text name } ∈ rows := mem_upsert_of_mem hc₁
  rcases hkept with hsame | ⟨hid, hupdated⟩
  · exact ⟨c₁, hsame, name₁, rfl, hname₁, rfl⟩
  · refine ⟨_, hupdated, name, rfl, rfl, ?_⟩
    obtain ⟨name₂, hname₂, hid₂⟩ := hc.competitions.each c₁ hc₁
    rw [hname₁, Cell.text.injEq] at hname₂
    rw [hid, Cell.text.injEq] at hid₂
    rw [hid₂, hname₂]

/-- Storing a skater. -/
theorem upsertSkater (hc : c.Coherent) {e : Entry} (h : c.toStore.upsertSkater m e = .ok s) :
    c.Continues s fun c' => .text e.skaterId ∈ c'.skaters.map SkaterRow.id := by
  refine hc.withSkaters (Except.ok.inj h) ?_ ?_ ?_
  · exact hc.skaters.upsert (fun _ => rfl) rfl
      (fun r _ hid _ => ⟨e.firstName, e.lastName, rfl, rfl, hid⟩)
      ⟨e.firstName, e.lastName, rfl, rfl, rfl⟩
  · exact map_id_subset_upsert fun _ => rfl
  · exact mem_map_id_upsert (fun _ => rfl) rfl

/-- Storing an event of a competition that is stored. -/
theorem upsertEvent (hc : c.Coherent) {competition : String} {number : ℕ}
    (hcompetition : .text (competitionId competition) ∈ c.competitions.map CompetitionRow.id)
    (h : c.toStore.upsertEvent m competition number = .ok s) :
    c.Continues s fun c' => .text (eventId competition number) ∈ c'.events.map EventRow.id := by
  refine hc.withEvents (Except.ok.inj h) ?_ ?_ ?_
  · refine hc.events.upsert (fun _ => rfl) rfl ?_ ?_
    · -- An event that has the id has the number already.
      rintro r - hid ⟨c₁, hc₁, hcompetition₁, name, number₁, hname, -, hid₁⟩
      have hsame : eventId competition number = eventId name number₁ := by
        rw [← Cell.text.injEq, ← hid, hid₁]
      obtain ⟨-, rfl⟩ := eventId_eq_iff.mp hsame
      exact ⟨c₁, hc₁, hcompetition₁, name, number, hname, rfl, hid₁⟩
    · obtain ⟨c₁, hc₁, hid⟩ := List.mem_map.mp hcompetition
      obtain ⟨name, hname, hid₁⟩ := hc.competitions.each c₁ hc₁
      have hsame : competitionId competition = competitionId name := by
        rw [← Cell.text.injEq, ← hid, hid₁]
      refine ⟨c₁, hc₁, hid.symm, name, number, hname, rfl, ?_⟩
      exact congrArg Cell.text (eventId_eq_iff.mpr ⟨competitionId_eq_iff.mp hsame, rfl⟩)
  · exact map_id_subset_upsert fun _ => rfl
  · exact mem_map_id_upsert (fun _ => rfl) rfl

/-- Adding a relation between a skater and an event that are stored. -/
theorem addRelation (hc : c.Coherent) {r : RelationRow} (hr : r.Placed c.skaters c.events)
    (h : c.toStore.addRelation r = .ok s) : c.Continues s fun _ => True := by
  obtain ⟨rows, hrows, hfree, rfl⟩ := Store.addRelation_eq_ok_iff.mp h
  obtain rfl : c.relations = rows := Option.some.inj hrows
  exact ⟨{ c with relations := c.relations ++ [r] }, rfl,
    { hc with relations := hc.relations.append hfree hr }, { Extends.refl c with }, trivial⟩

/-! ## Writes of a cleanup -/

/-- A trail with one more event. -/
theorem extend (hc : c.Coherent) {e : AuditEvent} (hadmits : c.log.Admits [e]) :
    Coherent { c with log := c.log.extend e } := by
  refine { hc with trail := ?_, tracedOnce := ?_ }
  · refine (hc.trail.imp fun r _ hr => ?_).append (fun r hr => ?_) (le_refl _)
    · change r.id ≤ c.log.lastId + 1
      omega
    · -- The new row has a number that none of the others reaches.
      have hle : r.id ≤ c.log.lastId := hc.trail.each r hr
      have hnew : (AuditLog.rowOf (c.log.lastId + 1) e).id = c.log.lastId + 1 := rfl
      omega
  · have hunused := hadmits.unused e List.mem_cons_self
    change ((c.log.rows ++ [AuditLog.rowOf (c.log.lastId + 1) e]).map AuditRow.eventId).Nodup
    rw [List.map_append, List.map_singleton]
    refine List.nodup_append.mpr ⟨hc.tracedOnce, List.nodup_singleton _, ?_⟩
    intro a ha b hb heq
    obtain ⟨r, hr, rfl⟩ := List.mem_map.mp ha
    rw [List.mem_singleton] at hb
    exact hunused r hr (heq.trans hb)

/-- Adding an event to the audit trail. -/
theorem insertAudit (hc : c.Coherent) {e : AuditEvent} (h : c.toStore.insertAudit e = .ok s) :
    c.Continues s fun _ => True := by
  obtain ⟨log, hlog, hadmits, rfl⟩ := Store.insertAudit_eq_ok_iff.mp h
  obtain rfl : c.log = log := Option.some.inj hlog
  exact ⟨_, rfl, hc.extend hadmits, { Extends.refl c with }, trivial⟩

/-- Deleting the relation of an item and telling the audit trail. -/
theorem deleteItem (hc : c.Coherent) {n : ℕ} {item : PlanItem}
    (h : c.toStore.deleteItem m n item = (.ok (), s)) : c.Continues s fun _ => True := by
  obtain ⟨rows, log, hrows, hlog, -, hadmits, rfl⟩ := Store.deleteItem_eq_ok_iff.mp h
  obtain rfl : c.relations = rows := Option.some.inj hrows
  obtain rfl : c.log = log := Option.some.inj hlog
  exact ⟨{ c with
      relations := Store.unnamed [item] c.relations
      log := c.log.extend (item.deletion m n) }, rfl,
    { hc.extend hadmits with relations := hc.relations.sublist List.filter_sublist },
    { Extends.refl c with }, trivial⟩

/-! ## Writes of a contact report -/

/-- Storing a family. -/
theorem upsertFamily (hc : c.Coherent) {last : String} {email : Option String}
    (h : c.toStore.upsertFamily m last email = .ok s) :
    c.Continues s fun c' => .text (familyId last) ∈ c'.families.map FamilyRow.id := by
  -- Only the address depends on whether there is one to store.
  cases email with
  | none =>
    refine hc.withFamilies (Except.ok.inj h) ?_ ?_ ?_
    · exact hc.families.upsert (fun _ => rfl) rfl (fun _ _ _ hr => hr) ⟨last, rfl, rfl⟩
    · exact map_id_subset_upsert fun _ => rfl
    · exact mem_map_id_upsert (fun _ => rfl) rfl
  | some email =>
    refine hc.withFamilies (Except.ok.inj h) ?_ ?_ ?_
    · exact hc.families.upsert (fun _ => rfl) rfl (fun _ _ _ hr => hr) ⟨last, rfl, rfl⟩
    · exact map_id_subset_upsert fun _ => rfl
    · exact mem_map_id_upsert (fun _ => rfl) rfl

/-- Linking a skater that is stored to a family that is stored. -/
theorem linkFamily (hc : c.Coherent) {skater family : String} {n k : ℕ}
    (hskater : .text skater ∈ c.skaters.map SkaterRow.id)
    (hfamily : .text family ∈ c.families.map FamilyRow.id)
    (h : Store.linkFamily m skater family c.toStore n = .ok (s, k)) :
    c.Continues s fun _ => True := by
  obtain ⟨rows, hrows, ⟨-, rfl, -⟩ | ⟨hfree, rfl, -⟩⟩ := Store.linkFamily_cases h
  · exact ⟨c, rfl, hc, Extends.refl c, trivial⟩
  · obtain rfl : c.links = rows := Option.some.inj hrows
    let new : LinkRow := ⟨.text (m.linkId n), .text skater, .text family, .text m.createdAt⟩
    have hlinks : Identified LinkRow.id (LinkRow.Placed c.skaters c.families) (c.links ++ [new]) :=
      hc.links.append (fun r hr => (hfree r hr).2) ⟨hskater, hfamily⟩
    refine ⟨{ c with links := c.links ++ [new] }, rfl,
      { hc with links := hlinks, linkedOnce := ?_ }, { Extends.refl c with }, trivial⟩
    change ((c.links ++ [new]).map fun r => (r.inId, r.outId)).Nodup
    rw [List.map_append, List.map_singleton]
    refine List.nodup_append.mpr ⟨hc.linkedOnce, List.nodup_singleton _, ?_⟩
    intro a ha b hb heq
    obtain ⟨r, hr, rfl⟩ := List.mem_map.mp ha
    rw [List.mem_singleton] at hb
    exact (hfree r hr).1 (Prod.mk.inj (heq.trans hb))

/-- Setting the address of a family. -/
theorem setFamilyEmail (hc : c.Coherent) {family email : String}
    (h : c.toStore.setFamilyEmail family email = .ok s) : c.Continues s fun _ => True := by
  have hid (r : FamilyRow) : FamilyRow.id
      (if r.id == .text family then { r with email := .text email } else r) = r.id := by
    split <;> rfl
  refine hc.withFamilies (Except.ok.inj h) (hc.families.map hid fun r _ hr => ?_)
    (map_id_subset_map hid) trivial
  split <;> exact hr

/-- Setting the address of a skater that has none. -/
theorem fillSkaterEmail (hc : c.Coherent) {skater email : String}
    (h : c.toStore.fillSkaterEmail skater email = .ok s) : c.Continues s fun _ => True := by
  have hid (r : SkaterRow) : SkaterRow.id
      (if r.id == .text skater && (r.email == .null || r.email == .text "") then
        { r with email := .text email } else r) = r.id := by
    split <;> rfl
  refine hc.withSkaters (Except.ok.inj h) (hc.skaters.map hid fun r _ hr => ?_)
    (map_id_subset_map hid) trivial
  split <;> exact hr

end Contents.Coherent

end SkaterLedger
