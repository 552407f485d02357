import SkaterLedger.Proofs.Store.Addresses

/-!
# Writing a contact report twice

Written a second time, a contact report takes other turns: skaters for whom a family was stored have
one now, families of siblings get the address of their group again, although a later update has put
another one in its place, and no link is new. Yet the store stays as it is, except that the audit
trail has one more row (`applyContacts_again`). `Progress` is what the first writing establishes
step by step: the families have the addresses that were given so far, in the order in which they
were given. The second writing gives the same addresses in the same order (`writeGroups_again`,
`writeEmails_again`), which changes nothing.
-/

namespace SkaterLedger

/-- The number of links that writing a report can add. -/
def ContactReport.linkCount (report : ContactReport) : ℕ :=
  (report.familyGroups.map fun g => g.skaterIds.length).sum + report.emailUpdates.length

/-- The first ids that a moment has for new links are new to a store, and different. -/
structure Moment.FreshLinks (m : Moment) (s : Store) (k : ℕ) : Prop where
  /-- No link has one of them. -/
  unused : ∀ rows, s.belongsTo = some rows → ∀ r ∈ rows, ∀ i < k, r.id ≠ .text (m.linkId i)
  /-- No two of them are the same. -/
  distinct : ∀ i < k, ∀ j < k, m.linkId i = m.linkId j → i = j

/-- The first updates of skaters are no more than the updates. -/
theorem EmailUpdate.length_firsts_le (seen : List String) (updates : List EmailUpdate) :
    (EmailUpdate.firsts seen updates).length ≤ updates.length := by
  induction updates generalizing seen with
  | nil => exact le_refl _
  | cons u updates ih =>
    unfold EmailUpdate.firsts
    split
    · exact (ih seen).trans (Nat.le_succ _)
    · exact Nat.succ_le_succ (ih _)

namespace Store

variable {s s' : Store} {m : Moment} {k n n' : ℕ} {given : List FamilyAddress} {family : String}
  {skaters : List String} {g : FamilyGroup} {groups : List FamilyGroup} {u : EmailUpdate}
  {updates : List EmailUpdate}

/-- A family of siblings is stored and all of them are linked to it. -/
structure HoldsGroup (s : Store) (g : FamilyGroup) : Prop where
  /-- It is stored. -/
  family : s.HoldsFamily (familyId g.lastName)
  /-- They are linked. -/
  links : ∀ skater ∈ g.skaterIds, s.HoldsLink skater (familyId g.lastName)

/-- An address was given to the family of its skater, and the skater has one. -/
structure HoldsEmail (s : Store) (u : EmailUpdate) (a : FamilyAddress) : Prop where
  /-- The family is the skater's first one. -/
  home : s.firstFamily? u.skaterId = .ok (some a.family)
  /-- It is given the address. -/
  email : a.email = u.email
  /-- There is a table of families. -/
  families : ∃ rows, s.families = some rows
  /-- The skater has an address. -/
  filled : s.Filled u.skaterId u.email

/-- What holds of families of siblings keeps holding. -/
theorem HoldsGroup.mono (h : s.HoldsGroup g) (hkeeps : s.Keeps s') : s'.HoldsGroup g :=
  ⟨hkeeps.holdsFamily h.family, fun skater hskater => hkeeps.holdsLink (h.links skater hskater)⟩

/-- What holds of addresses keeps holding. -/
theorem HoldsEmail.mono {a : FamilyAddress} (h : s.HoldsEmail u a) (hkeeps : s.Keeps s') :
    s'.HoldsEmail u a := by
  obtain ⟨rows, hrows⟩ := h.families
  obtain ⟨rows', hrows', -⟩ := hkeeps.families rows hrows
  exact ⟨hkeeps.firstFamily? h.home, h.email, ⟨rows', hrows'⟩, hkeeps.filled _ _ h.filled⟩

/-! ## The first time -/

/-- What has been written so far: the families have the addresses that were given, and of the first
`k` ids for new links `n` are used. -/
structure Progress (m : Moment) (k : ℕ) (s : Store) (n : ℕ) (given : List FamilyAddress) :
    Prop where
  /-- The ids of families tell them apart. -/
  keyed : s.FamiliesKeyed
  /-- The families have the addresses. -/
  settled : s.Settled given
  /-- The other ids are new. -/
  unused : ∀ rows, s.belongsTo = some rows → ∀ r ∈ rows, ∀ i, n ≤ i → i < k →
    r.id ≠ .text (m.linkId i)

namespace Progress

/-- Storing a family gives it its address. If it is new and has none, no address may have been given
to it before. -/
theorem upsertFamily (hp : Progress m k s n given) {last : String} {address : Option String}
    (hnew : address = none → ∀ a ∈ given, s.HoldsFamily a.family)
    (h : s.upsertFamily m last address = .ok s') :
    Progress m k s' n (given ++ givenTo last address) ∧ s'.HoldsFamily (familyId last) := by
  by_cases hholds : s.HoldsFamily (familyId last)
  · rw [upsertFamily_of_holds hp.keyed hholds] at h
    obtain rfl := Except.ok.inj h
    exact ⟨⟨hp.keyed.assign, hp.settled.assign, hp.unused⟩, (keeps_assign s _).holdsFamily hholds⟩
  · obtain ⟨rows, hrows, -⟩ := upsertFamily_eq_ok_iff.mp h
    have hmem : .text (familyId last) ∉ rows.map FamilyRow.id := fun hmem =>
      hholds ⟨rows, hrows, hmem⟩
    rw [upsertFamily_of_absent hrows hmem] at h
    obtain rfl := Except.ok.inj h
    have hstored : .text (familyId last) ∈ (rows ++ [familyRow m last address]).map FamilyRow.id :=
      List.mem_map.mpr ⟨_, List.mem_append_right _ List.mem_cons_self, rfl⟩
    refine ⟨⟨?_, ?_, hp.unused⟩, ⟨_, rfl, hstored⟩⟩
    · intro rows' hrows'
      obtain rfl := Option.some.inj hrows'
      have hkeys := Shape.families_keysHold_iff.mp (hp.keyed rows hrows)
      refine Shape.families_keysHold_iff.mpr (List.pairwise_append.mpr
        ⟨hkeys, List.pairwise_singleton _ _, fun a ha b hb _ heq => hmem ?_⟩)
      rw [List.mem_singleton] at hb
      have hid : a.id = .text (familyId last) := heq.trans (congrArg FamilyRow.id hb)
      exact hid ▸ List.mem_map_of_mem ha
    · intro rows' hrows' r hr
      obtain rfl := Option.some.inj hrows'
      rcases List.mem_append.mp hr with hr | hr
      · -- A row that was there is not given the new address.
        have hother : FamilyAddress.last? (givenTo last address) r.id = none := by
          refine FamilyAddress.last?_eq_none fun a ha heq => ?_
          obtain ⟨email, -, rfl⟩ := List.mem_map.mp ha
          exact hmem (heq ▸ List.mem_map_of_mem hr)
        rw [FamilyRow.relabel_append, hp.settled rows hrows r hr,
          FamilyRow.relabel_of_last?_eq_none hother]
      · rw [List.mem_singleton] at hr
        subst hr
        refine relabel_familyRow fun hnone => FamilyAddress.last?_eq_none fun a ha heq => ?_
        obtain ⟨rows₁, hrows₁, hmem₁⟩ := hnew hnone a ha
        obtain rfl : rows = rows₁ := Option.some.inj (hrows.symm.trans hrows₁)
        exact hmem (heq ▸ hmem₁)

/-- Linking a skater adds a link under a new id unless there is one. -/
theorem linkFamily (hp : Progress m k s n given) {skater : String}
    (hdistinct : ∀ i < k, ∀ j < k, m.linkId i = m.linkId j → i = j) (hn : n < k)
    (h : linkFamily m skater family s n = .ok (s', n')) :
    Progress m k s' n' given ∧ n' ≤ n + 1 ∧ s'.HoldsLink skater family ∧
      (s.firstFamily? skater = .ok none → s'.firstFamily? skater = .ok (some family)) := by
  obtain ⟨rows, hrows, ⟨⟨r, hr, htaken⟩, rfl, rfl⟩ | ⟨hfree, rfl, rfl⟩⟩ := linkFamily_cases h
  · -- Its id is new, so there is a link of the skater to the family.
    have hlink := htaken.resolve_right (hp.unused rows hrows r hr n' (le_refl n') hn)
    refine ⟨hp, Nat.le_succ n', ⟨rows, hrows, r, hr, hlink⟩, fun hnone => ?_⟩
    obtain ⟨rows₁, hrows₁, hfree⟩ := firstFamily?_eq_none_iff.mp hnone
    obtain rfl : rows = rows₁ := Option.some.inj (hrows.symm.trans hrows₁)
    exact absurd hlink.1 (hfree r hr)
  · refine ⟨⟨hp.keyed, hp.settled, ?_⟩, le_refl _, ?_, fun hnone => ?_⟩
    · intro rows' hrows' r hr i hi hik
      obtain rfl := Option.some.inj hrows'
      rcases List.mem_append.mp hr with hr | hr
      · exact hp.unused rows hrows r hr i (by omega) hik
      · rw [List.mem_singleton] at hr
        subst hr
        intro heq
        have hsame := hdistinct n hn i hik (Cell.text.inj heq)
        omega
    · exact ⟨_, rfl, _, List.mem_append_right _ List.mem_cons_self, rfl, rfl⟩
    · obtain ⟨rows₁, hrows₁, hfree₁⟩ := firstFamily?_eq_none_iff.mp hnone
      obtain rfl : rows = rows₁ := Option.some.inj (hrows.symm.trans hrows₁)
      let new : LinkRow := ⟨.text (m.linkId n), .text skater, .text family, .text m.createdAt⟩
      refine firstFamily?_eq_some_iff.mpr ⟨rows ++ [new], new, rfl, ?_, rfl⟩
      have hnone' : rows.find? (fun r => r.inId == .text skater) = none := by
        rw [List.find?_eq_none]
        intro r hr heq
        exact hfree₁ r hr (eq_of_beq heq)
      rw [List.find?_append, hnone', Option.none_or]
      exact List.find?_cons_of_pos (beq_self_eq_true (Cell.text skater))

/-- Setting the address of a family gives it that address. -/
theorem setFamilyEmail (hp : Progress m k s n given) {email : String}
    (h : s.setFamilyEmail family email = .ok s') :
    Progress m k s' n (given ++ [⟨family, email⟩]) ∧ ∃ rows, s'.families = some rows := by
  obtain ⟨rows, hrows, -⟩ := setFamilyEmail_eq_ok_iff.mp h
  rw [setFamilyEmail_eq hrows] at h
  obtain rfl := Except.ok.inj h
  obtain ⟨rows', hrows', -⟩ := (keeps_assign s [⟨family, email⟩]).families rows hrows
  exact ⟨⟨hp.keyed.assign, hp.settled.assign, hp.unused⟩, rows', hrows'⟩

/-- Setting the address of a skater is not about families. -/
theorem fillSkaterEmail (hp : Progress m k s n given) {skater email : String}
    (h : s.fillSkaterEmail skater email = .ok s') :
    Progress m k s' n given ∧ s'.Filled skater email := by
  have hfilled := filled_of_fillSkaterEmail h
  obtain ⟨rows, -, rfl⟩ := fillSkaterEmail_eq_ok_iff.mp h
  exact ⟨⟨hp.keyed, hp.settled, hp.unused⟩, hfilled⟩

variable (hdistinct : ∀ i < k, ∀ j < k, m.linkId i = m.linkId j → i = j)

include hdistinct

/-- Linking skaters to a family. -/
theorem linkAll (hp : Progress m k s n given) (hn : n + skaters.length ≤ k)
    (h : linkAll m family s n skaters = .ok (s', n')) :
    Progress m k s' n' given ∧ n' ≤ n + skaters.length ∧
      ∀ skater ∈ skaters, s'.HoldsLink skater family := by
  induction skaters generalizing s n with
  | nil =>
    obtain ⟨rfl, rfl⟩ := Prod.mk.inj (Except.ok.inj h)
    exact ⟨hp, le_refl _, by simp⟩
  | cons skater skaters ih =>
    rw [List.length_cons] at hn
    obtain ⟨s₁, n₁, hlink, h⟩ := linkAll_cons_eq_ok_iff.mp h
    obtain ⟨hp₁, hn₁, hheld, -⟩ := hp.linkFamily hdistinct (by omega) hlink
    obtain ⟨hp', hn', hall⟩ := ih hp₁ (by omega) h
    refine ⟨hp', by rw [List.length_cons]; omega, List.forall_mem_cons.mpr ⟨?_, hall⟩⟩
    exact (keeps_respected.linkAll h).holdsLink hheld

/-- Storing the family of siblings. -/
theorem writeGroup (hp : Progress m k s n given) (hgiven : ∀ a ∈ given, s.HoldsFamily a.family)
    (hn : n + g.skaterIds.length ≤ k) (h : writeGroup m g s n = .ok (s', n')) :
    Progress m k s' n' (given ++ givenTo g.lastName g.email) ∧ n' ≤ n + g.skaterIds.length ∧
      s'.HoldsGroup g := by
  obtain ⟨s₁, hfamily, h⟩ := writeGroup_eq_ok_iff.mp h
  obtain ⟨hp₁, hheld⟩ := hp.upsertFamily (fun _ => hgiven) hfamily
  obtain ⟨hp', hn', hall⟩ := hp₁.linkAll hdistinct hn h
  exact ⟨hp', hn', (keeps_respected.linkAll h).holdsFamily hheld, hall⟩

/-- Storing families of siblings. -/
theorem writeGroups (hp : Progress m k s n given) (hgiven : ∀ a ∈ given, s.HoldsFamily a.family)
    (hn : n + (groups.map fun g => g.skaterIds.length).sum ≤ k)
    (h : writeGroups m s n groups = .ok (s', n')) :
    Progress m k s' n' (given ++ groups.flatMap fun g => givenTo g.lastName g.email) ∧
      n' ≤ n + (groups.map fun g => g.skaterIds.length).sum ∧ ∀ g ∈ groups, s'.HoldsGroup g := by
  induction groups generalizing s n given with
  | nil =>
    obtain ⟨rfl, rfl⟩ := Prod.mk.inj (Except.ok.inj h)
    rw [List.flatMap_nil, List.append_nil]
    exact ⟨hp, le_refl _, by simp⟩
  | cons g groups ih =>
    rw [List.map_cons, List.sum_cons] at hn
    obtain ⟨s₁, n₁, hgroup, h⟩ := writeGroups_cons_eq_ok_iff.mp h
    obtain ⟨hp₁, hn₁, hheld⟩ := hp.writeGroup hdistinct hgiven (by omega) hgroup
    -- Whatever family was given an address is stored, the group's own among them.
    have hgiven₁ : ∀ a ∈ given ++ givenTo g.lastName g.email, s₁.HoldsFamily a.family := by
      intro a ha
      rcases List.mem_append.mp ha with ha | ha
      · exact (keeps_respected.writeGroup hgroup).holdsFamily (hgiven a ha)
      · obtain ⟨email, -, rfl⟩ := List.mem_map.mp ha
        exact hheld.family
    obtain ⟨hp', hn', hall⟩ := ih hp₁ hgiven₁ (by omega) h
    rw [List.flatMap_cons, ← List.append_assoc]
    refine ⟨hp', by rw [List.map_cons, List.sum_cons]; omega, List.forall_mem_cons.mpr ⟨?_, hall⟩⟩
    exact hheld.mono (keeps_respected.writeGroups h)

/-- Writing an address. -/
theorem writeEmail (hp : Progress m k s n given) (hn : n < k)
    (h : writeEmail m u s n = .ok (s', n')) :
    ∃ a, Progress m k s' n' (given ++ [a]) ∧ n' ≤ n + 1 ∧ s'.HoldsEmail u a := by
  rcases writeEmail_cases h with
    ⟨family, s₁, hhome, hset, rfl, hfill⟩ | ⟨s₁, s₂, hnone, hnew, hlink, hfill⟩
  · obtain ⟨hp₁, rows, hrows⟩ := hp.setFamilyEmail hset
    obtain ⟨hp', hfilled⟩ := hp₁.fillSkaterEmail hfill
    have hset' : s.Keeps s₁ := (keeps_respected (m := m)).setFamilyEmail hset
    have hfill' : s₁.Keeps s' := (keeps_respected (m := m)).fillSkaterEmail hfill
    obtain ⟨rows', hrows', -⟩ := hfill'.families rows hrows
    exact ⟨⟨family, u.email⟩, hp', Nat.le_succ n',
      hfill'.firstFamily? (hset'.firstFamily? hhome), rfl, ⟨rows', hrows'⟩, hfilled⟩
  · obtain ⟨hp₁, hheld⟩ := hp.upsertFamily (fun hnone => by cases hnone) hnew
    obtain ⟨hp₂, hn₂, -, hhome⟩ := hp₁.linkFamily hdistinct hn hlink
    obtain ⟨hp', hfilled⟩ := hp₂.fillSkaterEmail hfill
    have hlink' : s₁.Keeps s₂ := keeps_respected.linkFamily hlink
    have hfill' : s₂.Keeps s' := (keeps_respected (m := m)).fillSkaterEmail hfill
    obtain ⟨rows, hrows, -⟩ := hfill'.holdsFamily (hlink'.holdsFamily hheld)
    -- The skater has no family yet, so the new link is the first one.
    have hnone₁ : s₁.firstFamily? u.skaterId = .ok none := by
      rw [firstFamily?_eq_none_iff, upsertFamily_belongsTo hnew]
      exact firstFamily?_eq_none_iff.mp hnone
    exact ⟨⟨familyId u.lastName, u.email⟩, hp', hn₂, hfill'.firstFamily? (hhome hnone₁), rfl,
      ⟨rows, hrows⟩, hfilled⟩

/-- Writing addresses. -/
theorem writeEmails (hp : Progress m k s n given) (hn : n + updates.length ≤ k)
    (h : writeEmails m s n updates = .ok (s', n')) :
    ∃ as, Progress m k s' n' (given ++ as) ∧ List.Forall₂ s'.HoldsEmail updates as := by
  induction updates generalizing s n given with
  | nil =>
    obtain ⟨rfl, rfl⟩ := Prod.mk.inj (Except.ok.inj h)
    exact ⟨[], by rw [List.append_nil]; exact hp, .nil⟩
  | cons u updates ih =>
    rw [List.length_cons] at hn
    obtain ⟨s₁, n₁, hemail, h⟩ := writeEmails_cons_eq_ok_iff.mp h
    obtain ⟨a, hp₁, hn₁, hheld⟩ := hp.writeEmail hdistinct (by omega) hemail
    obtain ⟨as, hp', hall⟩ := ih hp₁ (by omega) h
    rw [List.append_assoc] at hp'
    exact ⟨a :: as, hp', .cons (hheld.mono (keeps_respected.writeEmails h)) hall⟩

end Progress

/-! ## The second time -/

/-- Siblings who are linked to a family already. -/
theorem linkAll_again (h : ∀ skater ∈ skaters, s.HoldsLink skater family) :
    linkAll m family s n skaters = .ok (s, n) := by
  induction skaters with
  | nil => rfl
  | cons skater skaters ih =>
    rw [List.forall_mem_cons] at h
    exact linkAll_cons_eq_ok_iff.mpr ⟨s, n, linkFamily_of_holds h.1, ih h.2⟩

/-- Families of siblings who are linked to them already are given their addresses. -/
theorem writeGroups_again (hkeyed : s.FamiliesKeyed) (h : ∀ g ∈ groups, s.HoldsGroup g) :
    writeGroups m s n groups =
      .ok (s.assign (groups.flatMap fun g => givenTo g.lastName g.email), n) := by
  induction groups generalizing s with
  | nil =>
    rw [List.flatMap_nil, assign_nil]
    rfl
  | cons g groups ih =>
    rw [List.forall_mem_cons] at h
    have hkeeps := keeps_assign s (givenTo g.lastName g.email)
    have hgroup : writeGroup m g s n = .ok (s.assign (givenTo g.lastName g.email), n) :=
      writeGroup_eq_ok_iff.mpr ⟨_, upsertFamily_of_holds hkeyed h.1.family,
        linkAll_again (h.1.mono hkeeps).links⟩
    rw [List.flatMap_cons, ← assign_append]
    exact writeGroups_cons_eq_ok_iff.mpr
      ⟨_, n, hgroup, ih hkeyed.assign fun g' hg' => (h.2 g' hg').mono hkeeps⟩

/-- The families of skaters who have an address already are given theirs. -/
theorem writeEmails_again {as : List FamilyAddress} (h : List.Forall₂ s.HoldsEmail updates as) :
    writeEmails m s n updates = .ok (s.assign as, n) := by
  induction updates generalizing s as with
  | nil =>
    cases h
    rw [assign_nil]
    rfl
  | cons u updates ih =>
    obtain ⟨a, as, hu, hrest, rfl⟩ := List.forall₂_cons_left_iff.mp h
    have hkeeps := keeps_assign s [a]
    obtain ⟨rows, hrows⟩ := hu.families
    have hemail : writeEmail m u s n = .ok (s.assign [a], n) := by
      have hhome : s.execute (firstFamily? u.skaterId) = .ok (some a.family) :=
        execute_eq_ok_iff.mpr hu.home
      have hset : s.execute (setFamilyEmail a.family u.email) = .ok (s.assign [a]) := by
        rw [← hu.email]
        exact execute_eq_ok_iff.mpr (setFamilyEmail_eq hrows)
      have hfill : (s.assign [a]).execute (fillSkaterEmail u.skaterId u.email) =
          .ok (s.assign [a]) :=
        execute_eq_ok_iff.mpr (fillSkaterEmail_of_filled (hkeeps.filled _ _ hu.filled))
      unfold writeEmail
      simp only [hhome, hset, hfill, bind, Except.bind]
    have hall : s.assign (a :: as) = (s.assign [a]).assign as := (assign_append s [a] as).symm
    rw [hall]
    exact writeEmails_cons_eq_ok_iff.mpr
      ⟨_, n, hemail, ih (hrest.imp fun u' a' hu' => hu'.mono hkeeps)⟩

/-- Writing a report that has been written comes to adding a row to the audit trail. -/
theorem applyContacts_again {report : ContactReport} {summary : ContactSummary}
    (hkeyed : s.FamiliesKeyed) (hfresh : m.FreshLinks s report.linkCount)
    (h : s.applyContacts m report = .ok (summary, s')) (m' : Moment) :
    s'.applyContacts m' report =
      (s'.insertAudit (contactsEvent m' report)).map fun s'' => (summary, s'') := by
  obtain ⟨s₁, n₁, s₂, n₂, hgroups, hemails, haudit, rfl⟩ := applyContacts_eq_ok_iff.mp h
  have hlength := EmailUpdate.length_firsts_le [] report.emailUpdates
  have hcount : report.linkCount = (report.familyGroups.map fun g => g.skaterIds.length).sum +
      report.emailUpdates.length := rfl
  -- The first writing leaves the families with the addresses that it gives.
  have hp : Progress m report.linkCount s 0 [] :=
    ⟨hkeyed, fun _ _ _ _ => rfl, fun rows hrows r hr i _ hi => hfresh.unused rows hrows r hr i hi⟩
  obtain ⟨hp₁, hn₁, hheld₁⟩ := hp.writeGroups hfresh.distinct (by simp) (by omega) hgroups
  obtain ⟨as, hp₂, hheld₂⟩ := hp₁.writeEmails hfresh.distinct (by omega) hemails
  have hgroups₂ : ∀ g ∈ report.familyGroups, s₂.HoldsGroup g := fun g hg =>
    (hheld₁ g hg).mono (keeps_respected.writeEmails hemails)
  -- The row of the audit trail makes no difference to that.
  obtain ⟨log, -, -, rfl⟩ := insertAudit_eq_ok_iff.mp haudit
  generalize hs' : { s₂ with auditLog := some (log.extend (contactsEvent m report)) } = s'
  have hkeeps : s₂.Keeps s' := by
    rw [← hs']
    exact { Keeps.refl s₂ with }
  have hkeyed' : s'.FamiliesKeyed := by
    rw [← hs']
    exact hp₂.keyed
  have hsettled : s'.Settled ((report.familyGroups.flatMap fun g =>
      givenTo g.lastName g.email) ++ as) := by
    rw [← hs']
    exact hp₂.settled
  -- The second writing gives the same addresses.
  have hgroups' := writeGroups_again (m := m') (n := 0) hkeyed' fun g hg =>
    (hgroups₂ g hg).mono hkeeps
  have hemails' := writeEmails_again (m := m') (n := 0) (hheld₂.imp fun u a hu =>
    (hu.mono hkeeps).mono (keeps_assign s' (report.familyGroups.flatMap fun g =>
      givenTo g.lastName g.email)))
  rw [assign_append, assign_of_settled hsettled] at hemails'
  exact applyContacts_eq hgroups' hemails'

/-- Writing a contact report is idempotent. Whatever the store and the report, if it is written and
the ids of the new links are new, all that can keep it from being written again is that the audit
trail does not take one more row. If the trail takes it, the summary is the same, and nothing but
this row is new. -/
theorem applyContacts_idempotent {report : ContactReport} {summary : ContactSummary}
    (hkeyed : s.FamiliesKeyed) (hfresh : m.FreshLinks s report.linkCount)
    (h : s.applyContacts m report = .ok (summary, s')) (m' : Moment) :
    s'.applyContacts m' report =
        (s'.insertAudit (contactsEvent m' report)).map (fun s'' => (summary, s'')) ∧
      ∃ log, s'.auditLog = some log ∧ (log.Admits [contactsEvent m' report] →
        s'.applyContacts m' report =
          .ok (summary, { s' with auditLog := some (log.extend (contactsEvent m' report)) })) := by
  have hagain := applyContacts_again hkeyed hfresh h m'
  obtain ⟨_, _, s₂, _, -, -, hinsert, -⟩ := applyContacts_eq_ok_iff.mp h
  obtain ⟨log₂, -, -, hs'⟩ := insertAudit_eq_ok_iff.mp hinsert
  have hlog : s'.auditLog = some (log₂.extend (contactsEvent m report)) := by rw [← hs']
  refine ⟨hagain, _, hlog, fun hadmits => ?_⟩
  rw [hagain, insertAudit_eq_ok_iff.mpr ⟨_, hlog, hadmits, rfl⟩]
  rfl

/-- A new family that gets its address from its second group and then another one from a skater, a
skater with two addresses, and one whose family has no row. -/
theorem applyContacts_idempotent_siblings :
    let m (k : ℕ) : Moment := ⟨⟨k, 0⟩, fun n => .ofNat (10 * k + n), fun n => .ofNat (10 * k + n),
      fun n => .ofNat (10 * k + n), fun n => ⟨k, n + 1⟩⟩
    let skater (id : String) : SkaterRow := ⟨.text id, .text "", .text "", .null, .text ""⟩
    let s : Store := { Store.fresh with
      skaters := some [skater "skater:ito_kei", skater "skater:oda_mei", skater "skater:ueda_aki"]
      belongsTo := some
        [⟨.text "belongs_to:old", .text "skater:oda_mei", .text "family:oda", .text ""⟩] }
    let report : ContactReport :=
      ⟨[], [], [⟨"skater:ito_kei", "Ito", "Kei", "kei@example.org"⟩,
        ⟨"skater:oda_mei", "Oda", "Mei", "mei@example.org"⟩,
        ⟨"skater:ito_kei", "Ito", "Kei", "other@example.org"⟩,
        ⟨"skater:ueda_aki", "Ueda", "Aki", "aki@example.org"⟩],
        [⟨"Ito", ["Kei", "Kay"], none, ["skater:ito_kei", "skater:ito_kay"]⟩,
          ⟨"Ito", ["Kei"], some "ito@example.org", ["skater:ito_kei"]⟩]⟩
    ∃ s', s.applyContacts (m 1) report = .ok (⟨2, 3⟩, s') ∧ ∃ log, s'.auditLog = some log ∧
      s'.applyContacts (m 2) report =
        .ok (⟨2, 3⟩, { s' with auditLog := some (log.extend (contactsEvent (m 2) report)) }) := by
  intro m skater s report
  have hkeyed : s.FamiliesKeyed := by
    intro rows hrows
    obtain rfl := Option.some.inj hrows
    exact List.Pairwise.nil
  have hfresh : (m 1).FreshLinks s report.linkCount := by
    refine ⟨?_, by decide⟩
    intro rows hrows
    obtain rfl := Option.some.inj hrows
    decide
  obtain ⟨s', hs', haudit⟩ : ∃ s', s.applyContacts (m 1) report = .ok (⟨2, 3⟩, s') ∧
      ∀ log, s'.auditLog = some log → log.Admits [contactsEvent (m 2) report] := by
    dsimp only [s, skater, report, m]
    refine ⟨_, rfl, fun log hlog => ?_⟩
    obtain rfl := Option.some.inj hlog
    exact AuditLog.admits_singleton_iff.mpr ⟨by decide, by decide⟩
  obtain ⟨-, log, hlog, hwritten⟩ := applyContacts_idempotent hkeyed hfresh hs' (m 2)
  exact ⟨s', hs', log, hlog, hwritten (haudit log hlog)⟩

end Store

end SkaterLedger
