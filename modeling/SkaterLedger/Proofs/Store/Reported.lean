import SkaterLedger.Proofs.Store.Links

/-!
# Families and links that a report writes

A contact report writes families in three ways: it stores them with an address or without one, and
it gives addresses to families that are there already. Links it only adds. `Store.Wrote` says what
this comes to at any point of a report: behind the families that were there stand those of the last
names so far that were not (`FamilyRow.added`), each family has the last of the addresses that were
given to it so far (`FamilyRow.relabel`), and behind the links that were there stand those of some
pairs of a skater and a family. Every single write keeps the store in this form. The groups of a
report then leave the pairs that were not linked yet (`Store.Wrote.writeGroups`), and its addresses
add a pair for each skater without a link (`Store.Wrote.writeEmails`).
-/

namespace SkaterLedger

/-! ## The table of families -/

namespace FamilyRow

/-- The rows of the last names whose families were not there, in the order in which the families
come first, without addresses. -/
def added (m : Moment) (before : List FamilyRow) (lasts : List String) : List FamilyRow :=
  ((firstOfEach familyId lasts).filter fun last =>
    .text (familyId last) ∉ before.map FamilyRow.id).map fun last => Store.familyRow m last none

/-- The families once those of some last names were stored and some addresses were given. -/
def stored (m : Moment) (before : List FamilyRow) (lasts : List String)
    (given : List FamilyAddress) : List FamilyRow :=
  (before ++ added m before lasts).map (relabel given)

variable {m : Moment} {before : List FamilyRow} {lasts : List String} {last : String}
  {given as : List FamilyAddress} {address : Option String} {x : Cell}

/-- The new rows have the ids of the last names that no row had. -/
theorem mem_map_id_added_iff : x ∈ (added m before lasts).map FamilyRow.id ↔
    x ∉ before.map FamilyRow.id ∧ ∃ last ∈ lasts, x = .text (familyId last) := by
  have hids : x ∈ (added m before lasts).map FamilyRow.id ↔
      x ∉ before.map FamilyRow.id ∧ ∃ i ∈ (firstOfEach familyId lasts).map familyId, x = .text i := by
    unfold added
    rw [List.map_map]
    constructor
    · intro hx
      obtain ⟨last, hlast, rfl⟩ := List.mem_map.mp hx
      obtain ⟨hmem, hnew⟩ := List.mem_filter.mp hlast
      exact ⟨of_decide_eq_true hnew, familyId last, List.mem_map_of_mem hmem, rfl⟩
    · rintro ⟨hnew, i, hi, rfl⟩
      obtain ⟨last, hmem, rfl⟩ := List.mem_map.mp hi
      exact List.mem_map.mpr ⟨last, List.mem_filter.mpr ⟨hmem, decide_eq_true hnew⟩, rfl⟩
  rw [hids, map_firstOfEach]
  simp only [List.mem_eraseDups, List.mem_map, exists_exists_and_eq_and]

/-- The ids afterwards are those that were there and those of the last names. -/
theorem mem_map_id_stored_iff : x ∈ (stored m before lasts given).map FamilyRow.id ↔
    x ∈ before.map FamilyRow.id ∨ ∃ last ∈ lasts, x = .text (familyId last) := by
  unfold stored
  rw [map_id_map (relabel_id given), List.map_append, List.mem_append, mem_map_id_added_iff]
  by_cases hx : x ∈ before.map FamilyRow.id
  · simp [hx]
  · simp [hx]

/-- The family of one more last name has a new row unless it is there. -/
theorem added_concat (given : List FamilyAddress) : added m before (lasts ++ [last]) =
    if .text (familyId last) ∈ (stored m before lasts given).map FamilyRow.id then
      added m before lasts
    else added m before lasts ++ [Store.familyRow m last none] := by
  unfold added
  rw [firstOfEach_concat]
  by_cases hlast : familyId last ∈ lasts.map familyId
  · -- An earlier last name has the same family, which is among the rows since then.
    obtain ⟨name, hname, heq⟩ := List.mem_map.mp hlast
    have hmem : Cell.text (familyId last) ∈ (stored m before lasts given).map FamilyRow.id :=
      mem_map_id_stored_iff.mpr (.inr ⟨name, hname, congrArg Cell.text heq.symm⟩)
    rw [if_pos hlast, if_pos hmem]
  · rw [if_neg hlast, List.filter_append, List.map_append]
    by_cases hbefore : Cell.text (familyId last) ∈ before.map FamilyRow.id
    · -- The family was there from the beginning.
      have hmem : Cell.text (familyId last) ∈ (stored m before lasts given).map FamilyRow.id :=
        mem_map_id_stored_iff.mpr (.inl hbefore)
      rw [if_pos hmem, List.filter_cons_of_neg (by simpa using hbefore), List.filter_nil,
        List.map_nil, List.append_nil]
    · have hnew : Cell.text (familyId last) ∉ (stored m before lasts given).map FamilyRow.id := by
        intro hmem
        rcases mem_map_id_stored_iff.mp hmem with hmem | ⟨name, hname, heq⟩
        · exact hbefore hmem
        · apply hlast
          rw [Cell.text.inj heq]
          exact List.mem_map_of_mem hname
      rw [if_neg hnew, List.filter_cons_of_pos (by simpa using hbefore), List.filter_nil,
        List.map_singleton]

/-- Before anything is written the families are those that there are. -/
theorem stored_nil : stored m before [] [] = before := by
  have hnone : added m before [] = [] := rfl
  have hsame : ∀ r ∈ before, r.relabel [] = r := fun _ _ => rfl
  unfold stored
  rw [hnone, List.append_nil, List.map_congr_left hsame, List.map_id']

/-- Giving more addresses gives them to the families that there are. -/
theorem stored_append :
    stored m before lasts (given ++ as) = (stored m before lasts given).map (relabel as) := by
  unfold stored
  rw [List.map_map]
  exact List.map_congr_left fun r _ => relabel_append

/-- The ids tell the families apart afterwards if they did before. -/
theorem keysHold_stored (h : Shape.families.KeysHold before) :
    Shape.families.KeysHold (stored m before lasts given) := by
  have hids : (before ++ added m before lasts).Pairwise fun a b => a.id ≠ .null → a.id ≠ b.id := by
    induction lasts using List.reverseRecOn with
    | nil =>
      show (before ++ []).Pairwise _
      rw [List.append_nil]
      exact Shape.families_keysHold_iff.mp h
    | append_singleton lasts last ih =>
      by_cases hmem : .text (familyId last) ∈ (stored m before lasts []).map FamilyRow.id
      · rw [added_concat [], if_pos hmem]
        exact ih
      · -- The id of the new row is not there.
        rw [added_concat [], if_neg hmem, ← List.append_assoc]
        refine List.pairwise_append.mpr ⟨ih, List.pairwise_singleton _ _, fun a ha b hb _ heq => ?_⟩
        apply hmem
        have hid : a.id = .text (familyId last) :=
          heq.trans (congrArg FamilyRow.id (List.mem_singleton.mp hb))
        rw [← hid]
        unfold stored
        rw [map_id_map (relabel_id [])]
        exact List.mem_map_of_mem ha
  rw [Shape.families_keysHold_iff]
  unfold stored
  rw [List.pairwise_map]
  simpa only [relabel_id] using hids

/-- A new family that is stored with its address has the row that it would have without one, and is
given the address. -/
theorem relabel_familyRow_none
    (h : address = none → FamilyAddress.last? given (.text (familyId last)) = none) :
    (Store.familyRow m last none).relabel (given ++ Store.givenTo last address) =
      Store.familyRow m last address := by
  cases address with
  | none => exact Store.relabel_familyRow h
  | some email =>
    rw [relabel_of_last?_eq_some (r := Store.familyRow m last none) (Store.last?_givenTo email)]
    rfl

end FamilyRow

namespace Store

/-- Of what was in a store, the families of some last names and the links of some pairs were
written, and some addresses were given. -/
structure Wrote (m : Moment) (c : Contents) (s : Store) (lasts : List String)
    (given : List FamilyAddress) (pairs : List (String × String)) : Prop where
  /-- The families are those that were there and those of the last names. -/
  families : s.families = some (FamilyRow.stored m c.families lasts given)
  /-- The links are those that were there and those of the pairs. -/
  links : s.belongsTo = some (c.links ++ LinkRow.rowsOf m pairs)

variable {m : Moment} {c : Contents} {s s' : Store} {k n n' : ℕ} {lasts : List String}
  {given : List FamilyAddress} {pairs all : List (String × String)} {last skater family : String}
  {address : Option String} {skaters : List String} {g : FamilyGroup} {groups : List FamilyGroup}
  {u : EmailUpdate} {updates : List EmailUpdate}

namespace Wrote

/-- Nothing was written yet. -/
theorem start : c.toStore.Wrote m c [] [] (LinkRow.unlinked c.links []) :=
  ⟨congrArg some FamilyRow.stored_nil.symm, congrArg some (List.append_nil _).symm⟩

/-! ## Single writes -/

/-- Storing a family. If it is new and has no address, no address may have been given to it. -/
theorem upsertFamily (hw : s.Wrote m c lasts given pairs)
    (hkeyed : Shape.families.KeysHold c.families)
    (hgiven : address = none → ∀ a ∈ given, a.family ∈ lasts.map familyId)
    (h : s.upsertFamily m last address = .ok s') :
    s'.Wrote m c (lasts ++ [last]) (given ++ givenTo last address) pairs := by
  by_cases hmem :
      .text (familyId last) ∈ (FamilyRow.stored m c.families lasts given).map FamilyRow.id
  · -- The family is there, so that it is only given its address.
    have hkeyed' : s.FamiliesKeyed := by
      intro rows hrows
      obtain rfl := Option.some.inj (hw.families.symm.trans hrows)
      exact FamilyRow.keysHold_stored hkeyed
    rw [upsertFamily_of_holds hkeyed' ⟨_, hw.families, hmem⟩] at h
    obtain rfl := Except.ok.inj h
    refine ⟨?_, hw.links⟩
    have hsame : FamilyRow.added m c.families (lasts ++ [last]) =
        FamilyRow.added m c.families lasts := by
      rw [FamilyRow.added_concat given, if_pos hmem]
    unfold assign
    rw [hw.families, Option.map_some, ← FamilyRow.stored_append]
    unfold FamilyRow.stored
    rw [hsame]
  · -- The family gets a new row, and no other row is given the address.
    rw [upsertFamily_of_absent hw.families hmem] at h
    obtain rfl := Except.ok.inj h
    refine ⟨congrArg some ?_, hw.links⟩
    have hnone (hnew : address = none) :
        FamilyAddress.last? given (.text (familyId last)) = none := by
      refine FamilyAddress.last?_eq_none fun a ha heq => hmem ?_
      obtain ⟨name, hname, hid⟩ := List.mem_map.mp (hgiven hnew a ha)
      exact FamilyRow.mem_map_id_stored_iff.mpr (.inr ⟨name, hname, by rw [heq, hid]⟩)
    have hothers : ∀ r ∈ c.families ++ FamilyRow.added m c.families lasts,
        r.relabel (given ++ givenTo last address) = r.relabel given := by
      intro r hr
      rw [FamilyRow.relabel_append]
      refine FamilyRow.relabel_of_last?_eq_none (FamilyAddress.last?_eq_none fun a ha heq => ?_)
      obtain ⟨email, -, rfl⟩ := List.mem_map.mp ha
      exact hmem (heq ▸ List.mem_map_of_mem (List.mem_map_of_mem hr))
    symm
    calc FamilyRow.stored m c.families (lasts ++ [last]) (given ++ givenTo last address)
      _ = (c.families ++ FamilyRow.added m c.families lasts ++ [familyRow m last none]).map
            (FamilyRow.relabel (given ++ givenTo last address)) := by
          unfold FamilyRow.stored
          rw [FamilyRow.added_concat given, if_neg hmem, List.append_assoc]
      _ = FamilyRow.stored m c.families lasts given ++ [familyRow m last address] := by
          rw [List.map_append, List.map_congr_left hothers, List.map_singleton,
            FamilyRow.relabel_familyRow_none hnone]
          rfl

/-- Linking a skater to a family. -/
theorem linkFamily (hw : s.Wrote m c lasts given pairs) (hfresh : m.FreshLinks c.toStore k)
    (hk : pairs.length < k) (h : linkFamily m skater family s pairs.length = .ok (s', n')) :
    ∃ pairs', pairs' = (if LinkRow.isLinked (c.links ++ LinkRow.rowsOf m pairs) (skater, family)
        then pairs else pairs ++ [(skater, family)]) ∧
      n' = pairs'.length ∧ s'.Wrote m c lasts given pairs' := by
  obtain ⟨rows, hrows, hcases⟩ := linkFamily_cases h
  obtain rfl := Option.some.inj (hw.links.symm.trans hrows)
  -- The id that the link would have is new.
  have hunused : ∀ r ∈ c.links ++ LinkRow.rowsOf m pairs, r.id ≠ .text (m.linkId pairs.length) := by
    intro r hr heq
    rcases List.mem_append.mp hr with hr | hr
    · exact hfresh.unused c.links rfl r hr _ hk heq
    · obtain ⟨i, hi, hid⟩ := LinkRow.exists_linkId_of_mem_rowsOf hr
      have hsame := hfresh.distinct i (hi.trans hk) _ hk (Cell.text.inj (hid.symm.trans heq))
      omega
  rcases hcases with ⟨⟨r, hr, htaken⟩, rfl, rfl⟩ | ⟨hfree, rfl, rfl⟩
  · -- Nothing was added, and not because the id was taken, so the pair is linked.
    have hlinked := htaken.resolve_right (hunused r hr)
    have hall : LinkRow.isLinked (c.links ++ LinkRow.rowsOf m pairs) (skater, family) = true :=
      List.any_eq_true.mpr ⟨r, hr, by simp [hlinked]⟩
    rw [if_pos hall]
    exact ⟨pairs, rfl, rfl, hw⟩
  · have hnot : ¬LinkRow.isLinked (c.links ++ LinkRow.rowsOf m pairs) (skater, family) = true := by
      intro hlinked
      obtain ⟨r, hr, hboth⟩ := List.any_eq_true.mp hlinked
      exact (hfree r hr).1 (by simpa using hboth)
    rw [if_neg hnot]
    refine ⟨_, rfl, by rw [List.length_append, List.length_singleton], hw.families, ?_⟩
    rw [LinkRow.rowsOf_concat, ← List.append_assoc]

/-- Setting the address of a family. -/
theorem setFamilyEmail (hw : s.Wrote m c lasts given pairs) {email : String}
    (h : s.setFamilyEmail family email = .ok s') :
    s'.Wrote m c lasts (given ++ [⟨family, email⟩]) pairs := by
  rw [setFamilyEmail_eq hw.families] at h
  obtain rfl := Except.ok.inj h
  refine ⟨?_, hw.links⟩
  unfold assign
  rw [hw.families, Option.map_some, ← FamilyRow.stored_append]

/-- Setting the address of a skater is not about families or links. -/
theorem fillSkaterEmail (hw : s.Wrote m c lasts given pairs) {email : String}
    (h : s.fillSkaterEmail skater email = .ok s') : s'.Wrote m c lasts given pairs := by
  obtain ⟨rows, -, rfl⟩ := fillSkaterEmail_eq_ok_iff.mp h
  exact ⟨hw.families, hw.links⟩

/-! ## Families of siblings -/

/-- Linking skaters to a family leaves the links of those pairs that were not linked. -/
theorem linkAll (hfresh : m.FreshLinks c.toStore k)
    (hw : s.Wrote m c lasts given (LinkRow.unlinked c.links all))
    (hk : all.length + skaters.length ≤ k)
    (h : linkAll m family s (LinkRow.unlinked c.links all).length skaters = .ok (s', n')) :
    n' = (LinkRow.unlinked c.links (all ++ skaters.map (·, family))).length ∧
      s'.Wrote m c lasts given (LinkRow.unlinked c.links (all ++ skaters.map (·, family))) := by
  -- Along the way there are links of those pairs so far that were not linked: `all` grows by one pair
  -- with each skater.
  induction skaters generalizing s all with
  | nil =>
    obtain ⟨rfl, rfl⟩ := Prod.mk.inj (Except.ok.inj h)
    rw [List.map_nil, List.append_nil]
    exact ⟨rfl, hw⟩
  | cons skater skaters ih =>
    rw [List.length_cons] at hk
    obtain ⟨s₁, n₁, hlink, h⟩ := linkAll_cons_eq_ok_iff.mp h
    have hlength := LinkRow.length_unlinked_le c.links all
    obtain ⟨pairs, hpairs, rfl, hw₁⟩ := hw.linkFamily hfresh (by omega) hlink
    rw [LinkRow.isLinked_append, LinkRow.isLinked_rowsOf, ← LinkRow.unlinked_concat] at hpairs
    subst hpairs
    rw [List.map_cons, List.append_cons]
    refine ih hw₁ ?_ h
    rw [List.length_append, List.length_singleton]
    omega

/-- Storing the family of siblings and linking them. -/
theorem writeGroup (hkeyed : Shape.families.KeysHold c.families)
    (hfresh : m.FreshLinks c.toStore k)
    (hw : s.Wrote m c lasts given (LinkRow.unlinked c.links all))
    (hgiven : ∀ a ∈ given, a.family ∈ lasts.map familyId)
    (hk : all.length + g.skaterIds.length ≤ k)
    (h : writeGroup m g s (LinkRow.unlinked c.links all).length = .ok (s', n')) :
    n' = (LinkRow.unlinked c.links (all ++ g.skaterIds.map (·, familyId g.lastName))).length ∧
      s'.Wrote m c (lasts ++ [g.lastName]) (given ++ givenTo g.lastName g.email)
        (LinkRow.unlinked c.links (all ++ g.skaterIds.map (·, familyId g.lastName))) := by
  obtain ⟨s₁, hfamily, hlinks⟩ := writeGroup_eq_ok_iff.mp h
  exact (hw.upsertFamily hkeyed (fun _ => hgiven) hfamily).linkAll hfresh hk hlinks

/-- Storing families of siblings and linking them. -/
theorem writeGroups (hkeyed : Shape.families.KeysHold c.families)
    (hfresh : m.FreshLinks c.toStore k)
    (hw : s.Wrote m c lasts given (LinkRow.unlinked c.links all))
    (hgiven : ∀ a ∈ given, a.family ∈ lasts.map familyId)
    (hk : all.length + (groups.map fun g => g.skaterIds.length).sum ≤ k)
    (h : writeGroups m s (LinkRow.unlinked c.links all).length groups = .ok (s', n')) :
    ∃ pairs, pairs = LinkRow.unlinked c.links
        (all ++ groups.flatMap fun g => g.skaterIds.map (·, familyId g.lastName)) ∧
      n' = pairs.length ∧ s'.Wrote m c (lasts ++ groups.map FamilyGroup.lastName)
        (given ++ groups.flatMap fun g => givenTo g.lastName g.email) pairs := by
  induction groups generalizing s lasts given all with
  | nil =>
    obtain ⟨rfl, rfl⟩ := Prod.mk.inj (Except.ok.inj h)
    refine ⟨_, rfl, ?_⟩
    simp only [List.flatMap_nil, List.map_nil, List.append_nil]
    exact ⟨trivial, hw⟩
  | cons g groups ih =>
    rw [List.map_cons, List.sum_cons] at hk
    obtain ⟨s₁, n₁, hgroup, h⟩ := writeGroups_cons_eq_ok_iff.mp h
    obtain ⟨rfl, hw₁⟩ := writeGroup hkeyed hfresh hw hgiven (by omega) hgroup
    -- Whatever was given an address is the family of a last name, the group's own among them.
    have hgiven₁ : ∀ a ∈ given ++ givenTo g.lastName g.email,
        a.family ∈ (lasts ++ [g.lastName]).map familyId := by
      intro a ha
      rw [List.map_append, List.mem_append]
      rcases List.mem_append.mp ha with ha | ha
      · exact .inl (hgiven a ha)
      · obtain ⟨email, -, rfl⟩ := List.mem_map.mp ha
        exact .inr (List.mem_map_of_mem List.mem_cons_self)
    have hk₁ : (all ++ g.skaterIds.map (·, familyId g.lastName)).length +
        (groups.map fun g => g.skaterIds.length).sum ≤ k := by
      rw [List.length_append, List.length_map]
      omega
    obtain ⟨pairs, hpairs, hn, hw'⟩ := ih hw₁ hgiven₁ hk₁ h
    simp only [List.flatMap_cons, List.map_cons]
    rw [List.append_cons, ← List.append_assoc, ← List.append_assoc]
    exact ⟨pairs, hpairs, hn, hw'⟩

/-! ## Addresses -/

/-- An address goes to the family of the skater's earliest link; a skater without a link is linked to
the family of the last name first. -/
theorem writeEmail (hkeyed : Shape.families.KeysHold c.families)
    (hfresh : m.FreshLinks c.toStore k) (hw : s.Wrote m c lasts given pairs)
    (hk : pairs.length < k) (h : writeEmail m u s pairs.length = .ok (s', n')) :
    (∃ home, LinkRow.home? (c.links ++ LinkRow.rowsOf m pairs) u.skaterId = some (.text home) ∧
      n' = pairs.length ∧ s'.Wrote m c lasts (given ++ [⟨home, u.email⟩]) pairs) ∨
    (LinkRow.hasLink (c.links ++ LinkRow.rowsOf m pairs) u.skaterId = false ∧
      n' = (pairs ++ [(u.skaterId, familyId u.lastName)]).length ∧
      s'.Wrote m c (lasts ++ [u.lastName]) (given ++ [⟨familyId u.lastName, u.email⟩])
        (pairs ++ [(u.skaterId, familyId u.lastName)])) := by
  rcases writeEmail_cases h with
    ⟨home, s₁, hhome, hset, rfl, hfill⟩ | ⟨s₁, s₂, hnone, hnew, hlink, hfill⟩
  · obtain ⟨rows, r, hrows, hfind, hout⟩ := firstFamily?_eq_some_iff.mp hhome
    obtain rfl := Option.some.inj (hw.links.symm.trans hrows)
    refine .inl ⟨home, ?_, rfl, (hw.setFamilyEmail hset).fillSkaterEmail hfill⟩
    unfold LinkRow.home?
    rw [hfind, Option.map_some, hout]
  · -- The family of the last name is stored with the address, which is that it is given one.
    obtain ⟨rows, hrows, hfree⟩ := firstFamily?_eq_none_iff.mp hnone
    obtain rfl := Option.some.inj (hw.links.symm.trans hrows)
    have hhas : LinkRow.hasLink (c.links ++ LinkRow.rowsOf m pairs) u.skaterId = false := by
      refine List.any_eq_false.mpr fun r hr heq => hfree r hr (eq_of_beq heq)
    have hw₁ := hw.upsertFamily hkeyed (fun hnone => by cases hnone) hnew
    obtain ⟨pairs', hpairs, rfl, hw₂⟩ := hw₁.linkFamily hfresh hk hlink
    -- A skater without a link is not linked to the family in particular.
    rw [if_neg fun hlinked => by simp [LinkRow.hasLink_of_isLinked hlinked] at hhas] at hpairs
    subst hpairs
    exact .inr ⟨hhas, rfl, hw₂.fillSkaterEmail hfill⟩

/-- Writing the addresses of different skaters links those who have no link to the families of their
last names, and every address goes to the family of the skater's earliest link. -/
theorem writeEmails (hkeyed : Shape.families.KeysHold c.families)
    (hfresh : m.FreshLinks c.toStore k) (hw : s.Wrote m c lasts given pairs)
    (hskaters : (updates.map EmailUpdate.skaterId).Nodup) (hk : pairs.length + updates.length ≤ k)
    (h : writeEmails m s pairs.length updates = .ok (s', n')) :
    ∃ homeless as, homeless = (updates.filter fun u =>
        !LinkRow.hasLink (c.links ++ LinkRow.rowsOf m pairs) u.skaterId) ∧
      s'.Wrote m c (lasts ++ homeless.map EmailUpdate.lastName) (given ++ as)
        (pairs ++ homeless.map fun u => (u.skaterId, familyId u.lastName)) ∧
      List.Forall₂ (fun u a => a.email = u.email ∧ LinkRow.home? (c.links ++ LinkRow.rowsOf m
        (pairs ++ homeless.map fun u => (u.skaterId, familyId u.lastName))) u.skaterId =
          some (.text a.family)) updates as := by
  induction updates generalizing s lasts given pairs with
  | nil =>
    obtain ⟨rfl, rfl⟩ := Prod.mk.inj (Except.ok.inj h)
    refine ⟨[], [], rfl, ?_, .nil⟩
    simp only [List.map_nil, List.append_nil]
    exact hw
  | cons u updates ih =>
    rw [List.length_cons] at hk
    rw [List.map_cons, List.nodup_cons] at hskaters
    obtain ⟨s₁, n₁, hemail, h⟩ := writeEmails_cons_eq_ok_iff.mp h
    rcases writeEmail hkeyed hfresh hw (by omega) hemail with
      ⟨home, hhome, rfl, hw₁⟩ | ⟨hhas, rfl, hw₁⟩
    · -- The skater has a link, and the links stay as they are.
      obtain ⟨homeless, as, hhomeless, hw', hall⟩ := ih hw₁ hskaters.2 (by omega) h
      have hlinked : LinkRow.hasLink (c.links ++ LinkRow.rowsOf m pairs) u.skaterId = true := by
        rw [← LinkRow.home?_isSome, hhome]
        rfl
      refine ⟨homeless, ⟨home, u.email⟩ :: as, ?_, ?_, .cons ⟨rfl, ?_⟩ hall⟩
      · rw [hhomeless, List.filter_cons_of_neg (by simpa using hlinked)]
      · rw [List.append_cons]
        exact hw'
      · exact LinkRow.home?_rowsOf_append _ hhome
    · -- The skater gets a first link; all others have links as before, as they are different.
      have hk₁ : (pairs ++ [(u.skaterId, familyId u.lastName)]).length + updates.length ≤ k := by
        rw [List.length_append, List.length_singleton]
        omega
      obtain ⟨homeless, as, hhomeless, hw', hall⟩ := ih hw₁ hskaters.2 hk₁ h
      have hothers : ∀ u' ∈ updates,
          (!LinkRow.hasLink (c.links ++ LinkRow.rowsOf m
            (pairs ++ [(u.skaterId, familyId u.lastName)])) u'.skaterId) =
          !LinkRow.hasLink (c.links ++ LinkRow.rowsOf m pairs) u'.skaterId := by
        intro u' hu'
        have hne : u'.skaterId ≠ u.skaterId := fun heq =>
          hskaters.1 (heq ▸ List.mem_map_of_mem hu')
        rw [LinkRow.hasLink_rowsOf_concat_of_ne hne]
      rw [List.filter_congr hothers] at hhomeless
      refine ⟨u :: homeless, ⟨familyId u.lastName, u.email⟩ :: as, ?_, ?_, ?_⟩
      · rw [hhomeless, List.filter_cons_of_pos (by simpa using hhas)]
      · rw [List.map_cons, List.map_cons, List.append_cons, List.append_cons given,
          List.append_cons pairs]
        exact hw'
      · rw [List.map_cons, List.append_cons pairs]
        exact .cons ⟨rfl, LinkRow.home?_rowsOf_append _ (LinkRow.home?_rowsOf_concat hhas)⟩ hall

end Wrote

end Store

end SkaterLedger
