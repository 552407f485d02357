import SkaterLedger.Proofs.Requests.Extracted
import SkaterLedger.Proofs.Store.Separation
import SkaterLedger.Proofs.Text.Lowercase

/-!
# Skaters with the same id

The id of a skater is the last name and the first name in lower case, with an underscore between
them and one for every blank and dash in them. So the id does not tell where the last name ends: it
can be the id of another name as well, whose last name goes on with what the first name begins with
(`Entry.Shifted`), and of no others (`Entry.skaterId_eq_iff`).

The last name of an entry that is found in a document is a single word. An underscore more in its
key is then a dash or an underscore more in the name, so that last names with equally many of them
share an id only if the names are the same up to case, blanks and dashes
(`Entry.Confusable.sameNames`).
-/

namespace SkaterLedger

/-- A name as it stands in an id: in lower case, with underscores for blanks and dashes. -/
def nameKey (name : String) : List Char := (Text.lower name.toList).map nameKeyChar

/-- The rows that a store has for the skater of an entry. -/
def Store.skatersOf (s : Store) (e : Entry) : List SkaterRow :=
  (s.skaters.getD []).filter fun r => r.id == .text e.skaterId

namespace Entry

/-- Two entries have the same names, up to case, blanks and dashes. -/
def SameNames (e e' : Entry) : Prop :=
  nameKey e.lastName = nameKey e'.lastName ∧ nameKey e.firstName = nameKey e'.firstName

/-- The names of two entries are the same words, but some of them belong to the first name of the
one and to the last name of the other. -/
def Shifted (e e' : Entry) : Prop :=
  ∃ part, nameKey e'.lastName = nameKey e.lastName ++ '_' :: part ∧
    nameKey e.firstName = part ++ '_' :: nameKey e'.firstName

/-- The names of two entries cannot be told apart without knowing where the last name ends. -/
def Confusable (e e' : Entry) : Prop := e.SameNames e' ∨ e.Shifted e' ∨ e'.Shifted e

/-- How many dashes and underscores there are in the last name of an entry. -/
def joints (e : Entry) : ℕ := e.lastName.toList.count '-' + e.lastName.toList.count '_'

/-- Whether names are the same is told by their keys. -/
instance decidableSameNames (e e' : Entry) : Decidable (e.SameNames e') :=
  inferInstanceAs (Decidable (_ ∧ _))

end Entry

/-! ## Ids of skaters -/

/-- The id of a skater is put together of the keys of the names. -/
theorem skaterIdOf_eq (first last : String) :
    skaterIdOf first last = "skater:" ++ String.ofList (nameKey last ++ '_' :: nameKey first) := by
  -- An underscore ends a word, so that the names are lower-cased on their own.
  have hlower : Text.lower (last.toList ++ '_' :: first.toList) =
      Text.lower last.toList ++ '_' :: Text.lower first.toList :=
    Text.lower_append_cons (by decide +kernel) (by decide +kernel) _ _
  unfold skaterIdOf nameKey
  rw [hlower, List.map_append, List.map_cons]
  rfl

/-- A key has an underscore for each underscore, each dash and each blank of the name. -/
theorem count_nameKey (name : String) : (nameKey name).count '_' =
    name.toList.count '-' + name.toList.count '_' + name.toList.count ' ' := by
  have hmap (cs : List Char) :
      (cs.map nameKeyChar).count '_' = cs.count '-' + cs.count '_' + cs.count ' ' := by
    induction cs with
    | nil => rfl
    | cons c cs ih =>
      rw [List.map_cons, List.count_cons, List.count_cons, List.count_cons, List.count_cons, ih]
      unfold nameKeyChar
      grind
  unfold nameKey
  rw [hmap, Text.count_lower (by decide), Text.count_lower (by decide),
    Text.count_lower (by decide)]

namespace Entry

variable {e e' : Entry}

/-- Entries have the same skater's id exactly if their names are confusable. -/
theorem skaterId_eq_iff : e.skaterId = e'.skaterId ↔ e.Confusable e' := by
  unfold skaterId
  rw [skaterIdOf_eq, skaterIdOf_eq, String.append_right_inj, String.ofList_inj,
    append_cons_eq_append_cons_iff]
  rfl

/-- The joints of a last name that is found in a document are the underscores of its key. -/
theorem Extracted.joints_eq (he : e.Extracted) : e.joints = (nameKey e.lastName).count '_' := by
  have hblank : e.lastName.toList.count ' ' = 0 :=
    List.count_eq_zero.mpr fun hmem => absurd (he.isBlank_lastName ' ' hmem) (by decide)
  rw [count_nameKey, hblank]
  rfl

/-- If words are shifted from the first name of an entry to the last name of another one, then this
has more joints. -/
theorem Shifted.joints_lt (h : e.Shifted e') (he : e.Extracted) (he' : e'.Extracted) :
    e.joints < e'.joints := by
  obtain ⟨part, hlast, -⟩ := h
  rw [he.joints_eq, he'.joints_eq, hlast, List.count_append, List.count_cons_self]
  omega

/-- Last names with equally many joints are confusable only if the names are the same. -/
theorem Confusable.sameNames (h : e.Confusable e') (he : e.Extracted) (he' : e'.Extracted)
    (hjoints : e.joints = e'.joints) : e.SameNames e' := by
  rcases h with hsame | hshifted | hshifted
  · exact hsame
  · exact absurd hjoints (hshifted.joints_lt he he').ne
  · exact absurd hjoints (hshifted.joints_lt he' he).ne'

end Entry

/-! ## Rows of skaters -/

/-- A store has rows for the skater of an entry exactly if it has a row of the id. -/
theorem Store.skatersOf_ne_nil_iff {s : Store} {e : Entry} :
    s.skatersOf e ≠ [] ↔ .text e.skaterId ∈ (s.skaters.getD []).map SkaterRow.id := by
  simp [Store.skatersOf, List.filter_eq_nil_iff]

namespace Contents

variable {c : Contents} {e e' : Entry} {m : Moment} {competition : String} {entries : List Entry}

/-- If there are rows for the skater of an entry, there is one. -/
theorem Coherent.exists_skatersOf (hc : c.schedule.Coherent)
    (h : .text e.skaterId ∈ c.skaters.map SkaterRow.id) : ∃ r, c.toStore.skatersOf e = [r] := by
  obtain ⟨r, hr, hid⟩ := List.mem_map.mp h
  have hone := hc.skaters.filter_eq_singleton hr
  rw [hid] at hone
  exact ⟨r, hone⟩

/-- After an import there are rows for the skaters of its entries and for those that there were rows
for before. -/
theorem Coherent.mem_ids_imported (hc : c.schedule.Coherent)
    (h : e ∈ entries ∨ c.toStore.skatersOf e ≠ []) :
    .text e.skaterId ∈ (c.imported m competition entries).skaters.map SkaterRow.id := by
  have hapart : (skaterWriting m).Apart c.skaters := hc.skaters.pairwise_ne .null
  refine (RowWriting.mem_map_id_writeAll_iff hapart).mpr ?_
  rcases h with he | hrows
  · exact .inr ⟨e, he, rfl⟩
  · exact .inl (Store.skatersOf_ne_nil_iff.mp hrows)

end Contents

/-- Two entries' skaters have the same row exactly if the names are confusable. -/
theorem Store.skatersOf_eq_iff {s : Store} {e e' : Entry} {r r' : SkaterRow}
    (hr : s.skatersOf e = [r]) (hr' : s.skatersOf e' = [r']) : r = r' ↔ e.Confusable e' := by
  rw [← Entry.skaterId_eq_iff]
  constructor
  · rintro rfl
    have hid {e : Entry} (hr : s.skatersOf e = [r]) : r.id = .text e.skaterId :=
      eq_of_beq (List.mem_filter.mp (hr ▸ List.mem_singleton_self r : r ∈ s.skatersOf e)).2
    exact Cell.text.inj ((hid hr).symm.trans (hid hr'))
  · intro hid
    have hsame : s.skatersOf e = s.skatersOf e' := by
      unfold Store.skatersOf
      rw [hid]
    exact (List.cons.inj (hr.symm.trans (hsame.trans hr'))).1

namespace Usage

/-- What the id of a skater tells. Two entries that are found in documents have the same id exactly
if their names are the same up to case, blanks and dashes, or consist of the same words of which
some belong to the first name of the one and to the last name of the other; with equally many dashes
and underscores in the last names only the former can be. Whatever a store has been through, one
row is left by an import for each skater of its entries, and of the earlier ones, which two entries
share exactly in these cases; and however the relations of a store are planned over, no group of the
plan holds relations of both entries' skaters in any other case. -/
theorem namesakes {e e' : Entry} (he : e.Extracted) (he' : e'.Extracted) :
    (e.skaterId = e'.skaterId ↔ e.Confusable e') ∧
      (e.joints = e'.joints → (e.Confusable e' ↔ e.SameNames e')) ∧
      ∀ {allowed : Usage → Action → Prop} {u : Usage}, Reachable allowed u →
        (∀ m competition entries s,
            Action.perform u.store (.importEntries m competition entries) = .ok s →
            (e ∈ entries ∨ u.store.skatersOf e ≠ []) → (e' ∈ entries ∨ u.store.skatersOf e' ≠ []) →
            ∃ r r', s.skatersOf e = [r] ∧ s.skatersOf e' = [r'] ∧ (r = r' ↔ e.Confusable e')) ∧
          ∃ relations, u.store.relations = .ok relations ∧
            ∀ labels, ∃ plan, DeletionPlan.make labels relations = .ok plan ∧
              ∀ d ∈ plan.groups, ∀ row ∈ u.store.competedIn.getD [],
                ∀ row' ∈ u.store.competedIn.getD [], row.inId = .text e.skaterId →
                  row'.inId = .text e'.skaterId → d.Holds row → d.Holds row' →
                    e.Confusable e' := by
  refine ⟨Entry.skaterId_eq_iff, fun hjoints =>
    ⟨fun h => h.sameNames he he' hjoints, .inl⟩, fun {allowed u} hu => ?_⟩
  obtain ⟨c, hstore, hc⟩ := hu.schedule
  rw [← hstore]
  constructor
  · intro m competition entries s h hrows hrows'
    obtain ⟨⟨summary, s₁⟩, himport, rfl⟩ := map_eq_ok_iff.mp h
    obtain ⟨rfl, hc'⟩ := hc.schedule_imported himport
    obtain ⟨r, hr⟩ := hc'.exists_skatersOf (hc.mem_ids_imported hrows)
    obtain ⟨r', hr'⟩ := hc'.exists_skatersOf (hc.mem_ids_imported hrows')
    exact ⟨r, r', hr, hr', Store.skatersOf_eq_iff hr hr'⟩
  · obtain ⟨relations, hrelations, hwellFormed⟩ := hu.exists_relations
    rw [← hstore] at hrelations
    refine ⟨relations, hrelations, fun labels => ?_⟩
    have hmake : DeletionPlan.make labels relations = .ok (.build labels relations) :=
      DeletionPlan.make_eq_ok_iff.mpr ⟨hwellFormed, rfl⟩
    refine ⟨_, hmake, fun d hd row hrow row' hrow' hid hid' hholds hholds' => ?_⟩
    have hd := (DeletionPlan.specified_of_make hmake).groups d hd
    have hsubject := (hc.pair_of_holds hrelations hd hrow hholds).1
    have hsubject' := (hc.pair_of_holds hrelations hd hrow' hholds').1
    rw [← Entry.skaterId_eq_iff, ← Cell.text.injEq, ← hid, ← hid', hsubject, hsubject']

/-- Two skaters whose names begin with the same word: each last name has one dash. Both have a row
after an import of the document that they stand in, and they are not confusable. -/
theorem namesakes_dashed :
    let text := "Garcia-Lopez Ana\n   Event 3\nGarcia-Ana Lopez\n   Event 3\n"
    let e (first last : String) : Entry :=
      ⟨first, last, [3], none, .pending, none, none, [], none⟩
    let one := e "Ana" "Garcia-Lopez"
    let other := e "Lopez" "Garcia-Ana"
    let m : Moment :=
      ⟨⟨1, 0⟩, fun n => .ofNat n, fun n => .ofNat n, fun n => .ofNat n, fun n => ⟨1, n + 1⟩⟩
    let action : Action := .importEntries m "Pony" (Requests.extract .all text)
    let u := fresh.step action
    one.Extracted ∧ other.Extracted ∧ one.joints = other.joints ∧ one.skaterId ≠ other.skaterId ∧
      Reachable (fun _ _ => True) u ∧ Action.perform fresh.store action = .ok u.store ∧
      (∃ r r', u.store.skatersOf one = [r] ∧ u.store.skatersOf other = [r'] ∧ r ≠ r') ∧
      ∃ relations, u.store.relations = .ok relations ∧
        ∃ plan, DeletionPlan.make .empty relations = .ok plan ∧
          ∀ d ∈ plan.groups, ∀ row ∈ u.store.competedIn.getD [],
            ∀ row' ∈ u.store.competedIn.getD [], row.inId = .text one.skaterId →
              row'.inId = .text other.skaterId → d.Holds row → ¬ d.Holds row' := by
  intro text e one other m action u
  have hentries : Requests.extract .all text = [one, other] := by decide +kernel
  have hone : one.Extracted := ⟨.all, Text.lines text.toList, by
    change one ∈ Requests.extract .all text
    rw [hentries]
    exact List.mem_cons_self⟩
  have hother : other.Extracted := ⟨.all, Text.lines text.toList, by
    change other ∈ Requests.extract .all text
    rw [hentries]
    exact List.mem_cons_of_mem _ (List.mem_singleton_self other)⟩
  have hjoints : one.joints = other.joints := by decide
  have hnames : ¬ one.SameNames other := by decide +kernel
  obtain ⟨hids, hsame, huses⟩ := namesakes hone hother
  have hapart : ¬ one.Confusable other := fun h => hnames ((hsame hjoints).mp h)
  have hfresh : Reachable (fun _ _ => True) fresh := .fresh
  have hu : Reachable (fun _ _ => True) u := .step hfresh trivial
  have hperform : Action.perform fresh.store action = .ok u.store := by decide +kernel
  obtain ⟨r, r', hr, hr', hrow⟩ := (huses hfresh).1 m "Pony" _ _ hperform
    (.inl (hentries ▸ List.mem_cons_self))
    (.inl (hentries ▸ List.mem_cons_of_mem _ (List.mem_singleton_self other)))
  obtain ⟨relations, hrelations, hplan⟩ := (huses hu).2
  obtain ⟨plan, hmake, hgroups⟩ := hplan .empty
  refine ⟨hone, hother, hjoints, fun h => hapart (hids.mp h), hu, hperform,
    ⟨r, r', hr, hr', fun h => hapart (hrow.mp h)⟩, relations, hrelations, plan, hmake, ?_⟩
  exact fun d hd row hrow row' hrow' hid hid' hholds hholds' =>
    hapart (hgroups d hd row hrow row' hrow' hid hid' hholds hholds')

/-- Two skaters in one document whose names are not the same, but consist of the same words: they
get one row, and a plan takes the event of the one for a duplicate of the other's. -/
theorem namesakes_merged :
    let text := "Garcia-Lopez Ana\n   Event 3\nGarcia Lopez Ana\n   Event 3\n"
    let entries := Requests.extract .all text
    let m : Moment :=
      ⟨⟨1, 0⟩, fun n => .ofNat n, fun n => .ofNat n, fun n => .ofNat n, fun n => ⟨1, n + 1⟩⟩
    let u := fresh.step (.importEntries m "Pony" entries)
    entries.map Entry.skaterId = ["skater:garcia_lopez_ana", "skater:garcia_lopez_ana"] ∧
      entries.map (fun e => String.ofList (nameKey e.lastName)) = ["garcia_lopez", "garcia"] ∧
      entries.map (fun e => String.ofList (nameKey e.firstName)) = ["ana", "lopez_ana"] ∧
      (u.store.skaters.getD []).map SkaterRow.id = [.text "skater:garcia_lopez_ana"] ∧
      ∃ relations, u.store.relations = .ok relations ∧ relations.length = 2 ∧
        ∃ plan, DeletionPlan.make .empty relations = .ok plan ∧ plan.items.length = 1 := by
  intro text entries m u
  let relations : List Relation :=
    [⟨"competed_in:00000000000000000000000000000000", "skater:garcia_lopez_ana", "event:pony_3",
        some "requested", some "pending", none, none, none, none,
        some "1970-01-01T00:00:01.000000Z"⟩,
      ⟨"competed_in:00000000000000000000000000000001", "skater:garcia_lopez_ana", "event:pony_3",
        some "requested", some "pending", none, none, none, none,
        some "1970-01-01T00:00:01.000000Z"⟩]
  have hread : u.store.relations = .ok relations := by decide +kernel
  have hmake : DeletionPlan.make .empty relations = .ok (.build .empty relations) :=
    DeletionPlan.make_eq_ok_iff.mpr ⟨Relation.forM_checkIds_eq_ok_iff.mp (by rfl), rfl⟩
  have hcard : (relations.map Relation.pair).toFinset.card = 1 := by decide
  have hlength := (DeletionPlan.specified_of_make hmake).length_items
  rw [hcard] at hlength
  exact ⟨by decide +kernel, by decide +kernel, by decide +kernel, by decide +kernel, relations,
    hread, rfl, _, hmake, Nat.succ.inj hlength⟩

end Usage

end SkaterLedger
