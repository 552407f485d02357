import Mathlib.Data.List.Basic
import SkaterLedger.Proofs.Store.Households
import SkaterLedger.Proofs.Store.Identity
import SkaterLedger.Proofs.Store.Keys

/-!
# Addresses of families

What a contact report does to the families that are stored already is to give them addresses, one
after another; of those that a family is given, the last one counts. `Store.assign` is the store
after some addresses were given. Giving addresses again that were given before, after others, comes
to the same as giving them once in the end (`FamilyRow.relabel_again`): this is why a report that is
written twice gives the same addresses as when it is written once. `Store.Keeps` says what later
writes of a report leave in place for it.
-/

namespace SkaterLedger

/-- An address that is given to a family. -/
structure FamilyAddress where
  /-- The family's id. -/
  family : String
  /-- The address. -/
  email : String

/-! ## Giving addresses -/

namespace FamilyAddress

/-- The address that is given to the family of an id last. -/
def last? (given : List FamilyAddress) (id : Cell) : Option String :=
  (given.reverse.find? fun a => id == .text a.family).map FamilyAddress.email

variable {as bs : List FamilyAddress} {id : Cell}

/-- Of two series of addresses the second one counts, if it has one for the family. -/
theorem last?_append : last? (as ++ bs) id = (last? bs id).or (last? as id) := by
  unfold last?
  rw [List.reverse_append, List.find?_append, Option.map_or]

/-- A family that is given no address has no last one. -/
theorem last?_eq_none (h : ∀ a ∈ as, id ≠ .text a.family) : last? as id = none := by
  unfold last?
  rw [Option.map_eq_none_iff, List.find?_eq_none]
  intro a ha heq
  exact h a (List.mem_reverse.mp ha) (eq_of_beq heq)

end FamilyAddress

namespace FamilyRow

/-- A family's row after some addresses were given. -/
def relabel (given : List FamilyAddress) (r : FamilyRow) : FamilyRow :=
  match FamilyAddress.last? given r.id with
  | some email => { r with email := .text email }
  | none => r

variable {as bs given : List FamilyAddress} {r : FamilyRow}

/-- Giving addresses leaves the id. -/
theorem relabel_id (given : List FamilyAddress) (r : FamilyRow) : (r.relabel given).id = r.id := by
  unfold relabel
  split <;> rfl

/-- A family that is given no address stays as it is. -/
theorem relabel_of_last?_eq_none (h : FamilyAddress.last? given r.id = none) :
    r.relabel given = r := by
  unfold relabel
  rw [h]

/-- A family has the address that it is given last. -/
theorem relabel_of_last?_eq_some {email : String}
    (h : FamilyAddress.last? given r.id = some email) :
    r.relabel given = { r with email := .text email } := by
  unfold relabel
  rw [h]

/-- Giving addresses and then others is giving all of them. -/
theorem relabel_append : r.relabel (as ++ bs) = (r.relabel as).relabel bs := by
  cases hbs : FamilyAddress.last? bs r.id with
  | none =>
    have hall : FamilyAddress.last? (as ++ bs) r.id = FamilyAddress.last? as r.id := by
      rw [FamilyAddress.last?_append, hbs, Option.none_or]
    have hsame : (r.relabel as).relabel bs = r.relabel as :=
      relabel_of_last?_eq_none (by rw [relabel_id, hbs])
    rw [hsame]
    unfold relabel
    rw [hall]
  | some email =>
    have hall : FamilyAddress.last? (as ++ bs) r.id = some email := by
      rw [FamilyAddress.last?_append, hbs, Option.some_or]
    rw [relabel_of_last?_eq_some hall,
      relabel_of_last?_eq_some (r := r.relabel as) (by rw [relabel_id, hbs])]
    unfold relabel
    split <;> rfl

/-- What a family was given before makes no difference if it is given the same again, after
addresses that left it as it was. -/
theorem relabel_again (h : r.relabel given = r) :
    (r.relabel as).relabel (given ++ as) = r.relabel as := by
  cases has : FamilyAddress.last? as r.id with
  | none =>
    have hsame : r.relabel as = r := relabel_of_last?_eq_none has
    rw [hsame, relabel_append, h, hsame]
  | some email =>
    have hall : FamilyAddress.last? (given ++ as) (r.relabel as).id = some email := by
      rw [relabel_id, FamilyAddress.last?_append, has, Option.some_or]
    rw [relabel_of_last?_eq_some hall, relabel_of_last?_eq_some has]

end FamilyRow

namespace Store

/-- The store after addresses were given to families. -/
def assign (given : List FamilyAddress) (s : Store) : Store :=
  { s with families := s.families.map (List.map (FamilyRow.relabel given)) }

/-- The addresses that storing a family gives. -/
def givenTo (lastName : String) (email : Option String) : List FamilyAddress :=
  email.toList.map fun email => ⟨familyId lastName, email⟩

/-- The families of a store have the addresses that were given. -/
def Settled (s : Store) (given : List FamilyAddress) : Prop :=
  ∀ rows, s.families = some rows → ∀ r ∈ rows, r.relabel given = r

/-- A family of an id is stored. -/
def HoldsFamily (s : Store) (id : String) : Prop :=
  ∃ rows, s.families = some rows ∧ .text id ∈ rows.map FamilyRow.id

/-- The ids of families tell them apart. -/
def FamiliesKeyed (s : Store) : Prop :=
  ∀ rows, s.families = some rows → Shape.families.KeysHold rows

variable {s s' : Store} {m : Moment} {as bs given : List FamilyAddress} {n n' : ℕ}
  {rows : List FamilyRow} {last family skater email : String} {address : Option String}

/-- Giving no addresses changes nothing. -/
theorem assign_nil (s : Store) : s.assign [] = s := by
  have hsame : FamilyRow.relabel [] = id := funext fun _ => rfl
  unfold assign
  rw [hsame, List.map_id_fun, Option.map_id_fun]
  rfl

/-- Giving addresses and then others is giving all of them. -/
theorem assign_append (s : Store) (as bs : List FamilyAddress) :
    (s.assign as).assign bs = s.assign (as ++ bs) := by
  have hall : FamilyRow.relabel (as ++ bs) = FamilyRow.relabel bs ∘ FamilyRow.relabel as :=
    funext fun _ => FamilyRow.relabel_append
  unfold assign
  rw [hall, ← List.map_comp_map, ← Option.map_map]

/-- Giving addresses that the families have already changes nothing. -/
theorem assign_of_settled (h : s.Settled given) : s.assign given = s := by
  have hsame : s.families.map (List.map (FamilyRow.relabel given)) = s.families := by
    cases hrows : s.families with
    | none => rfl
    | some rows =>
      rw [Option.map_some, List.map_congr_left (h rows hrows), List.map_id']
  unfold assign
  rw [hsame]

/-- Addresses that are given last are there, whatever the families had before. -/
theorem Settled.assign (h : s.Settled given) : (s.assign as).Settled (given ++ as) := by
  intro rows hrows r hr
  obtain ⟨rows₁, hrows₁, rfl⟩ := Option.map_eq_some_iff.mp hrows
  obtain ⟨r₁, hr₁, rfl⟩ := List.mem_map.mp hr
  exact FamilyRow.relabel_again (h rows₁ hrows₁ r₁ hr₁)

/-- Giving addresses leaves the ids different. -/
theorem FamiliesKeyed.assign (h : s.FamiliesKeyed) : (s.assign as).FamiliesKeyed := by
  intro rows hrows
  obtain ⟨rows₁, hrows₁, rfl⟩ := Option.map_eq_some_iff.mp hrows
  have hkeys := Shape.families_keysHold_iff.mp (h rows₁ hrows₁)
  rw [Shape.families_keysHold_iff, List.pairwise_map]
  simpa only [FamilyRow.relabel_id] using hkeys

/-! ## Single writes -/

/-- Setting the address of a family gives it that address. -/
theorem setFamilyEmail_eq (hrows : s.families = some rows) :
    s.setFamilyEmail family email = .ok (s.assign [⟨family, email⟩]) := by
  have hupdate : FamilyRow.relabel [⟨family, email⟩] = fun r =>
      if r.id == .text family then { r with email := .text email } else r := by
    funext r
    unfold FamilyRow.relabel FamilyAddress.last?
    by_cases hid : r.id = .text family
    · simp [hid]
    · simp [hid]
  unfold setFamilyEmail Store.assign
  rw [hrows, hupdate]
  rfl

/-- Storing a family that is there gives it its address, if there is one. -/
theorem upsertFamily_of_holds (hkeys : s.FamiliesKeyed) (h : s.HoldsFamily (familyId last)) :
    s.upsertFamily m last address = .ok (s.assign (givenTo last address)) := by
  obtain ⟨rows, hrows, hmem⟩ := h
  have hids : rows.Pairwise fun a b => a.id = .text (familyId last) → a.id ≠ b.id := by
    refine (Shape.families_keysHold_iff.mp (hkeys rows hrows)).imp fun {a b} hne hid => hne ?_
    rw [hid]
    exact Cell.noConfusion
  unfold upsertFamily
  rw [hrows]
  cases address with
  | none =>
    have hsame : rows.map (fun r => if r.id == .text (familyId last) then r else r) = rows := by
      simp
    simp only [need, Except.mapError, bind, Except.bind]
    rw [upsert_eq_map hids hmem, hsame, givenTo, Option.toList_none, List.map_nil, assign_nil,
      ← hrows]
  | some email =>
    have hgiven : givenTo last (some email) = [⟨familyId last, email⟩] := rfl
    rw [hgiven, ← setFamilyEmail_eq hrows]
    simp only [need, Except.mapError, bind, Except.bind, setFamilyEmail, hrows]
    rw [upsert_eq_map hids hmem]

/-- Storing a family leaves the links alone. -/
theorem upsertFamily_belongsTo (h : s.upsertFamily m last address = .ok s') :
    s'.belongsTo = s.belongsTo := by
  obtain ⟨_, _, rfl⟩ := upsertFamily_eq_ok_iff.mp h
  rfl

/-- The row of a family that is new. -/
def familyRow (m : Moment) (last : String) (address : Option String) : FamilyRow :=
  ⟨.text (familyId last), .text "Family", .text last, .ofText? address, .text m.createdAt⟩

/-- The address that storing a family gives it comes last. -/
theorem last?_givenTo (email : String) : FamilyAddress.last? (given ++ givenTo last (some email))
    (.text (familyId last)) = some email := by
  have hnew : FamilyAddress.last? (givenTo last (some email)) (.text (familyId last)) =
      some email := by
    simp [FamilyAddress.last?, givenTo]
  rw [FamilyAddress.last?_append, hnew, Option.some_or]

/-- A new row has the address that storing it gives, and none that was given before if there is none
to give. -/
theorem relabel_familyRow
    (h : address = none → FamilyAddress.last? given (.text (familyId last)) = none) :
    (familyRow m last address).relabel (given ++ givenTo last address) =
      familyRow m last address := by
  cases address with
  | none =>
    have hgiven : given ++ givenTo last none = given := List.append_nil given
    rw [hgiven]
    exact FamilyRow.relabel_of_last?_eq_none (h rfl)
  | some email => exact FamilyRow.relabel_of_last?_eq_some (last?_givenTo email)

/-- Storing a family that is not there adds its row at the end. -/
theorem upsertFamily_of_absent (hrows : s.families = some rows)
    (hmem : .text (familyId last) ∉ rows.map FamilyRow.id) :
    s.upsertFamily m last address =
      .ok { s with families := some (rows ++ [familyRow m last address]) } := by
  unfold upsertFamily
  simp only [need, hrows, Except.mapError, bind, Except.bind]
  rw [upsert_of_not_mem hmem]
  rfl

end Store

/-! ## Addresses of skaters -/

namespace SkaterRow

/-- A skater has an address: setting this one changes nothing. -/
def HasAddress (email : String) (r : SkaterRow) : Prop :=
  r.email ≠ .null ∧ (r.email = .text "" → email = "")

variable {r : SkaterRow} {skater email email' : String}

/-- Setting an address leaves the id. -/
theorem fill_id (skater email : String) (r : SkaterRow) : (r.fill skater email).id = r.id := by
  unfold fill
  split <;> rfl

/-- The skater whose address is set has one. -/
theorem hasAddress_fill (hid : r.id = .text skater) : (r.fill skater email).HasAddress email := by
  unfold fill HasAddress
  split
  · exact ⟨Cell.noConfusion, fun h => Cell.text.inj h⟩
  · rename_i hset
    have hnone : r.email ≠ .null ∧ r.email ≠ .text "" := by simpa [hid] using hset
    exact ⟨hnone.1, fun h => absurd h hnone.2⟩

/-- A skater who has an address keeps one, whoever's address is set. -/
theorem HasAddress.fill (h : r.HasAddress email) : (r.fill skater email').HasAddress email := by
  unfold SkaterRow.fill
  split
  · rename_i hset
    have hboth : r.id = .text skater ∧ (r.email = .null ∨ r.email = .text "") := by
      simpa using hset
    exact ⟨Cell.noConfusion, fun _ => h.2 (hboth.2.resolve_left h.1)⟩
  · exact h

/-- Setting the address of a skater who has it changes nothing. -/
theorem fill_of_hasAddress (h : r.id = .text skater → r.HasAddress email) :
    r.fill skater email = r := by
  unfold fill
  split
  · rename_i hset
    have hboth : r.id = .text skater ∧ (r.email = .null ∨ r.email = .text "") := by
      simpa using hset
    have hempty := hboth.2.resolve_left (h hboth.1).1
    rw [(h hboth.1).2 hempty, ← hempty]
  · rfl

/-- A skater's row after the addresses of some updates were set where there is none. -/
def fillAll (updates : List EmailUpdate) (r : SkaterRow) : SkaterRow :=
  updates.foldl (fun r u => r.fill u.skaterId u.email) r

/-- The addresses are set in the order of the updates. -/
theorem fillAll_concat (updates : List EmailUpdate) (u : EmailUpdate) (r : SkaterRow) :
    r.fillAll (updates ++ [u]) = (r.fillAll updates).fill u.skaterId u.email := by
  unfold fillAll
  rw [List.foldl_append, List.foldl_cons, List.foldl_nil]

/-- Setting addresses changes nothing else of a skater. -/
theorem fillAll_others (updates : List EmailUpdate) (r : SkaterRow) :
    { r.fillAll updates with email := r.email } = r := by
  have hfill (skater email : String) (r' : SkaterRow) (h : { r' with email := r.email } = r) :
      { r'.fill skater email with email := r.email } = r := by
    unfold fill
    split
    · exact h
    · exact h
  exact List.foldlRecOn updates (fun r u => r.fill u.skaterId u.email) rfl
    (motive := fun r' : SkaterRow => { r' with email := r.email } = r)
    fun r' h u _ => hfill u.skaterId u.email r' h

/-- Setting addresses leaves the id. -/
theorem fillAll_id (updates : List EmailUpdate) (r : SkaterRow) : (r.fillAll updates).id = r.id :=
  show ({ r.fillAll updates with email := r.email } : SkaterRow).id = r.id by rw [fillAll_others]

end SkaterRow

namespace Store

variable {s s' : Store} {m : Moment} {given : List FamilyAddress} {n n' : ℕ}
  {skater family email : String}

/-- Storing families and linking skaters to them leaves the skaters alone. -/
theorem skaters_groupsRespected : GroupsRespected m fun s s' => s'.skaters = s.skaters where
  refl _ := rfl
  trans h h' := h'.trans h
  upsertFamily h := by
    obtain ⟨_, _, rfl⟩ := upsertFamily_eq_ok_iff.mp h
    rfl
  linkFamily h := by
    obtain ⟨rows, -, ⟨-, rfl, -⟩ | ⟨-, rfl, -⟩⟩ := linkFamily_cases h
    · rfl
    · rfl

/-- The skater of an id has an address, or there is none of the id. -/
def Filled (s : Store) (skater email : String) : Prop :=
  ∃ rows, s.skaters = some rows ∧ ∀ r ∈ rows, r.id = .text skater → r.HasAddress email

/-- Writing an address sets it on the skater's row and changes no other one. -/
theorem writeEmail_skaters {u : EmailUpdate} (h : writeEmail m u s n = .ok (s', n')) :
    s'.skaters = s.skaters.map (List.map (SkaterRow.fill u.skaterId u.email)) := by
  -- Whatever comes before, it is the skaters of the store on which the address is set.
  have hlast {s₁ : Store} (hsame : s₁.skaters = s.skaters)
      (hfill : s₁.fillSkaterEmail u.skaterId u.email = .ok s') :
      s'.skaters = s.skaters.map (List.map (SkaterRow.fill u.skaterId u.email)) := by
    obtain ⟨rows, hrows, rfl⟩ := fillSkaterEmail_eq_ok_iff.mp hfill
    rw [← hsame, hrows, Option.map_some]
  rcases writeEmail_cases h with ⟨home, s₁, -, hset, -, hfill⟩ | ⟨s₁, s₂, -, hnew, hlink, hfill⟩
  · refine hlast ?_ hfill
    obtain ⟨_, _, rfl⟩ := setFamilyEmail_eq_ok_iff.mp hset
    rfl
  · have hR := skaters_groupsRespected (m := m)
    exact hlast (hR.trans (hR.upsertFamily hnew) (hR.linkFamily hlink)) hfill

/-- Writing addresses sets them on the rows of their skaters, one after another. -/
theorem writeEmails_skaters {updates : List EmailUpdate}
    (h : writeEmails m s n updates = .ok (s', n')) :
    s'.skaters = s.skaters.map (List.map (SkaterRow.fillAll updates)) := by
  induction updates generalizing s n with
  | nil =>
    obtain ⟨rfl, -⟩ := Prod.mk.inj (Except.ok.inj h)
    have hsame : SkaterRow.fillAll [] = id := rfl
    rw [hsame, List.map_id_fun, Option.map_id_fun]
    rfl
  | cons u updates ih =>
    obtain ⟨s₁, n₁, hemail, hrest⟩ := writeEmails_cons_eq_ok_iff.mp h
    have hboth : SkaterRow.fillAll (u :: updates) =
        SkaterRow.fillAll updates ∘ SkaterRow.fill u.skaterId u.email := rfl
    rw [ih hrest, writeEmail_skaters hemail, Option.map_map, List.map_comp_map, hboth]

/-- Writing a contact report sets the first address of each skater on the skater's row, if there is
none, and changes nothing else of the skaters. -/
theorem applyContacts_skaters {report : ContactReport} {summary : ContactSummary}
    (h : s.applyContacts m report = .ok (summary, s')) :
    s'.skaters = s.skaters.map
      (List.map (SkaterRow.fillAll (EmailUpdate.firsts [] report.emailUpdates))) := by
  obtain ⟨s₁, n₁, s₂, n₂, hgroups, hemails, haudit, -⟩ := applyContacts_eq_ok_iff.mp h
  obtain ⟨_, _, _, rfl⟩ := insertAudit_eq_ok_iff.mp haudit
  have hwritten := writeEmails_skaters hemails
  rw [skaters_groupsRespected.writeGroups hgroups] at hwritten
  exact hwritten

/-- The skater whose address was set has one. -/
theorem filled_of_fillSkaterEmail (h : s.fillSkaterEmail skater email = .ok s') :
    s'.Filled skater email := by
  obtain ⟨rows, -, rfl⟩ := fillSkaterEmail_eq_ok_iff.mp h
  refine ⟨_, rfl, List.forall_mem_map.mpr fun r _ hid => ?_⟩
  rw [SkaterRow.fill_id] at hid
  exact SkaterRow.hasAddress_fill hid

/-- Setting the address of a skater who has it changes nothing. -/
theorem fillSkaterEmail_of_filled (h : s.Filled skater email) :
    s.fillSkaterEmail skater email = .ok s := by
  obtain ⟨rows, hrows, hfilled⟩ := h
  refine fillSkaterEmail_eq_ok_iff.mpr ⟨rows, hrows, ?_⟩
  have hsame : rows.map (SkaterRow.fill skater email) = rows :=
    (List.map_congr_left fun r hr => SkaterRow.fill_of_hasAddress (hfilled r hr)).trans
      (List.map_id' rows)
  rw [hsame, ← hrows]

/-! ## Links -/

/-- A skater is linked to a family. -/
def HoldsLink (s : Store) (skater family : String) : Prop :=
  ∃ rows, s.belongsTo = some rows ∧ ∃ r ∈ rows, r.inId = .text skater ∧ r.outId = .text family

/-- The family that a skater was linked to first is that of the skater's first link. -/
theorem firstFamily?_eq_some_iff :
    s.firstFamily? skater = .ok (some family) ↔ ∃ rows r, s.belongsTo = some rows ∧
      rows.find? (fun r => r.inId == .text skater) = some r ∧ r.outId = .text family := by
  unfold firstFamily?
  simp only [bind_eq_ok_iff, need_eq_ok_iff]
  refine exists_congr fun rows => ?_
  cases hfind : rows.find? fun r => r.inId == .text skater with
  | none => simp
  | some r => simp [bind_eq_ok_iff, Cell.getText_eq_ok_iff]

/-- A skater without a family has no link. -/
theorem firstFamily?_eq_none_iff :
    s.firstFamily? skater = .ok none ↔
      ∃ rows, s.belongsTo = some rows ∧ ∀ r ∈ rows, r.inId ≠ .text skater := by
  unfold firstFamily?
  simp only [bind_eq_ok_iff, need_eq_ok_iff]
  refine exists_congr fun rows => and_congr_right fun _ => ?_
  cases hfind : rows.find? fun r => r.inId == .text skater with
  | none =>
    rw [List.find?_eq_none] at hfind
    simpa using hfind
  | some r =>
    have hlinked := List.find?_some hfind
    have hmem := List.mem_of_find?_eq_some hfind
    simp only [bind_eq_ok_iff, Except.ok.injEq, reduceCtorEq, and_false, exists_false, false_iff]
    exact fun hnone => hnone r hmem (eq_of_beq hlinked)

/-- A skater who is linked to a family already is not linked again. -/
theorem linkFamily_of_holds (h : s.HoldsLink skater family) :
    linkFamily m skater family s n = .ok (s, n) := by
  obtain ⟨rows, hrows, r, hr, hin, hout⟩ := h
  have htaken : (rows.any fun r => (r.inId == .text skater && r.outId == .text family) ||
      r.id == .text (m.linkId n)) = true := List.any_eq_true.mpr ⟨r, hr, by simp [hin, hout]⟩
  unfold linkFamily
  simp only [need, hrows, Except.mapError, bind, Except.bind, htaken, if_true]

/-! ## What later writes leave in place -/

/-- The families and links of a store are still there, and so are the addresses of skaters. -/
structure Keeps (s s' : Store) : Prop where
  /-- The families are. -/
  families : ∀ rows, s.families = some rows →
    ∃ rows', s'.families = some rows' ∧ rows.map FamilyRow.id ⊆ rows'.map FamilyRow.id
  /-- The links are, with new ones after them. -/
  links : ∀ rows, s.belongsTo = some rows → ∃ new, s'.belongsTo = some (rows ++ new)
  /-- The addresses of skaters are. -/
  filled : ∀ skater email, s.Filled skater email → s'.Filled skater email

/-- A family that is stored stays stored. -/
theorem Keeps.holdsFamily (h : s.Keeps s') (hs : s.HoldsFamily family) :
    s'.HoldsFamily family := by
  obtain ⟨rows, hrows, hmem⟩ := hs
  obtain ⟨rows', hrows', hsub⟩ := h.families rows hrows
  exact ⟨rows', hrows', hsub hmem⟩

/-- A skater who is linked to a family stays linked. -/
theorem Keeps.holdsLink (h : s.Keeps s') (hs : s.HoldsLink skater family) :
    s'.HoldsLink skater family := by
  obtain ⟨rows, hrows, r, hr, hlink⟩ := hs
  obtain ⟨new, hrows'⟩ := h.links rows hrows
  exact ⟨_, hrows', r, List.mem_append_left _ hr, hlink⟩

/-- The family that a skater was linked to first stays the same. -/
theorem Keeps.firstFamily? (h : s.Keeps s') (hs : s.firstFamily? skater = .ok (some family)) :
    s'.firstFamily? skater = .ok (some family) := by
  obtain ⟨rows, r, hrows, hfind, hout⟩ := firstFamily?_eq_some_iff.mp hs
  obtain ⟨new, hrows'⟩ := h.links rows hrows
  refine firstFamily?_eq_some_iff.mpr ⟨_, r, hrows', ?_, hout⟩
  rw [List.find?_append, hfind, Option.some_or]

/-- Doing nothing keeps what is there. -/
theorem Keeps.refl (s : Store) : s.Keeps s :=
  ⟨fun rows hrows => ⟨rows, hrows, List.Subset.refl _⟩,
    fun rows hrows => ⟨[], by rw [List.append_nil]; exact hrows⟩, fun _ _ hs => hs⟩

/-- What two steps keep, both together do. -/
theorem Keeps.trans {s'' : Store} (h : s.Keeps s') (h' : s'.Keeps s'') : s.Keeps s'' := by
  refine ⟨fun rows hrows => ?_, fun rows hrows => ?_, fun skater email hs =>
    h'.filled skater email (h.filled skater email hs)⟩
  · obtain ⟨rows', hrows', hsub⟩ := h.families rows hrows
    obtain ⟨rows'', hrows'', hsub'⟩ := h'.families rows' hrows'
    exact ⟨rows'', hrows'', List.Subset.trans hsub hsub'⟩
  · obtain ⟨new, hrows'⟩ := h.links rows hrows
    obtain ⟨new', hrows''⟩ := h'.links _ hrows'
    exact ⟨new ++ new', by rw [hrows'', List.append_assoc]⟩

/-- Changing families and adding others keeps what is there. -/
theorem keeps_of_families {rows rows' : List FamilyRow} (hrows : s.families = some rows)
    (hsub : rows.map FamilyRow.id ⊆ rows'.map FamilyRow.id) :
    s.Keeps { s with families := some rows' } := by
  refine { Keeps.refl s with families := fun rows₁ hrows₁ => ⟨rows', rfl, ?_⟩ }
  obtain rfl : rows = rows₁ := Option.some.inj (hrows.symm.trans hrows₁)
  exact hsub

/-- Every single write of a report keeps what is there. -/
theorem keeps_respected : Respected m Keeps where
  refl := Keeps.refl
  trans := Keeps.trans
  upsertFamily := by
    intro s s' last email h
    obtain ⟨rows, hrows, rfl⟩ := upsertFamily_eq_ok_iff.mp h
    exact keeps_of_families hrows (map_id_subset_upsert fun r => by cases email <;> rfl)
  linkFamily := by
    intro s s' skater family n n' h
    obtain ⟨rows, hrows, ⟨-, rfl, -⟩ | ⟨-, rfl, -⟩⟩ := linkFamily_cases h
    · exact Keeps.refl _
    · refine { Keeps.refl s with links := fun rows₁ hrows₁ => ?_ }
      obtain rfl : rows = rows₁ := Option.some.inj (hrows.symm.trans hrows₁)
      exact ⟨_, rfl⟩
  setFamilyEmail := by
    intro s s' family email h
    obtain ⟨rows, hrows, rfl⟩ := setFamilyEmail_eq_ok_iff.mp h
    exact keeps_of_families hrows (map_id_subset_map fun r => by split <;> rfl)
  fillSkaterEmail := by
    intro s s' skater email h
    obtain ⟨rows, hrows, rfl⟩ := fillSkaterEmail_eq_ok_iff.mp h
    refine { Keeps.refl s with filled := fun skater' email' hs => ?_ }
    obtain ⟨rows₁, hrows₁, hfilled⟩ := hs
    obtain rfl : rows = rows₁ := Option.some.inj (hrows.symm.trans hrows₁)
    refine ⟨_, rfl, List.forall_mem_map.mpr fun r hr hid => ?_⟩
    rw [SkaterRow.fill_id] at hid
    exact (hfilled r hr hid).fill

/-- Giving addresses keeps what is there. -/
theorem keeps_assign (s : Store) (given : List FamilyAddress) : s.Keeps (s.assign given) := by
  refine { Keeps.refl s with families := fun rows hrows => ?_ }
  refine ⟨rows.map (FamilyRow.relabel given), ?_, map_id_subset_map (FamilyRow.relabel_id given)⟩
  unfold assign
  rw [hrows]
  rfl

end Store

end SkaterLedger
