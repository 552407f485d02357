import SkaterLedger.Proofs.Store.Cleanup
import SkaterLedger.Proofs.Store.Households
import SkaterLedger.Proofs.Store.Import
import SkaterLedger.Store.Households

/-!
# Using a store

A store is set up once; then imports, cleanups and contact reports follow in any order and number,
and each of them succeeds or fails. What one that fails has written is taken back by the transaction
that it was written in (`Action.leaves_of_error`). `Usage` is a store together with what it has been
through: its earlier states and the relations that were ever added to it. Whatever has happened, the
relations of a store are some of those ever added, in the order in which they were added
(`Usage.Consistent`).
-/

namespace SkaterLedger

/-- What is done with a store. -/
inductive Action where
  /-- Entries are imported for a competition. -/
  | importEntries (m : Moment) (competition : String) (entries : List Entry)
  /-- The items of a plan are carried out. -/
  | cleanup (m : Moment) (items : List PlanItem)
  /-- A contact report is written. -/
  | applyContacts (m : Moment) (report : ContactReport)

namespace Action

/-- The store after an action. -/
def perform (s : Store) : Action → Except Failure Store
  | importEntries m competition entries => (s.importEntries m competition entries).map Prod.snd
  | cleanup m items => (s.cleanup m items).map Prod.snd
  | applyContacts m report => (s.applyContacts m report).map Prod.snd

/-- The store that an action leaves, whether it succeeds or fails. -/
def leaves (s : Store) : Action → Store
  | importEntries m competition entries => (s.importRun m competition entries).2
  | cleanup m items => (s.cleanupRun m items).2
  | applyContacts m report => (s.contactsRun m report).2

/-- The items that an action carries out. -/
def items : Action → List PlanItem
  | cleanup _ items => items
  | _ => []

end Action

/-- A store and what it has been through. -/
structure Usage where
  /-- The store. -/
  store : Store
  /-- Its earlier states, the latest first. -/
  past : List Store
  /-- Every relation that was ever added, in the order in which they were added. -/
  added : List RelationRow

namespace Usage

/-- A store that was just set up. -/
def fresh : Usage := ⟨.fresh, [], []⟩

/-- What an action leads to: the store that it leaves. If it succeeds, the relations that were not
there before are the ones that it has added. -/
def step (u : Usage) (a : Action) : Usage :=
  let s := a.leaves u.store
  match a.perform u.store with
  | .ok _ =>
    let before := u.store.competedIn.getD []
    ⟨s, u.store :: u.past, u.added ++ (s.competedIn.getD []).filter fun row => row ∉ before⟩
  | .error _ => { u with store := s }

/-- What a store can be through if only some actions are allowed. -/
inductive Reachable (allowed : Usage → Action → Prop) : Usage → Prop
  /-- Nothing has been done yet. -/
  | fresh : Reachable allowed .fresh
  /-- One more allowed action. -/
  | step {u : Usage} {a : Action} : Reachable allowed u → allowed u a → Reachable allowed (u.step a)

/-- The relations that were ever added can be read, and those that the store holds and its earlier
states held are some of them, in the same order. -/
structure Consistent (u : Usage) (rows : List RelationRow) (history : List Relation) : Prop where
  /-- The store holds the rows. -/
  table : u.store.competedIn = some rows
  /-- Their ids tell them apart. -/
  keys : Shape.competedIn.KeysHold rows
  /-- All of them were added at some time. -/
  kept : rows.Sublist u.added
  /-- So were the rows of earlier states. -/
  past : ∀ s ∈ u.past, ∃ rows', s.competedIn = some rows' ∧ rows'.Sublist u.added
  /-- What was ever added is read as the history. -/
  reads : Store.ReadAs u.added history

end Usage

namespace Action

variable {a : Action} {s s' : Store}

/-- An action that succeeds leaves the store that it results in. -/
theorem leaves_of_ok (h : a.perform s = .ok s') : a.leaves s = s' := by
  cases a with
  | importEntries m competition entries => exact Store.snd_eq_of_settled h
  | cleanup m items => exact Store.snd_eq_of_settled h
  | applyContacts m report => exact Store.snd_eq_of_settled h

/-- An action that fails leaves the store as it was: an import and a contact report are rolled back,
and a cleanup fails only before its first item. -/
theorem leaves_of_error {failure : Failure} (h : a.perform s = .error failure) :
    a.leaves s = s := by
  cases a with
  | importEntries m competition entries =>
    exact Store.transaction_snd_of_settled_error (map_eq_error_iff.mp h)
  | cleanup m items => exact Store.cleanupRun_snd_of_error (map_eq_error_iff.mp h)
  | applyContacts m report =>
    exact Store.transaction_snd_of_settled_error (map_eq_error_iff.mp h)

end Action

/-- What an action does to the relations of a store: it leaves some of them, all those at least that
its items do not name, and adds others at the end, which were not there and can be read. -/
theorem Action.perform_competedIn {a : Action} {s s' : Store} {rows : List RelationRow}
    (hrows : s.competedIn = some rows) (hkeys : Shape.competedIn.KeysHold rows)
    (h : a.perform s = .ok s') :
    ∃ left new read, s'.competedIn = some (left ++ new) ∧ Shape.competedIn.KeysHold (left ++ new) ∧
      left.Sublist rows ∧ (∀ row ∈ rows, row ∈ left ∨ ∃ item ∈ a.items, row.id = .text item.id) ∧
      (∀ row ∈ new, row ∉ rows) ∧ Store.ReadAs new read := by
  cases a with
  | importEntries m competition entries =>
    obtain ⟨⟨summary, s₁⟩, himport, rfl⟩ := map_eq_ok_iff.mp h
    obtain ⟨htable, hkeys'⟩ := Store.importEntries_competedIn hrows hkeys himport
    obtain ⟨read, hread⟩ := Store.exists_reads_importedRows m competition 0 entries
    exact ⟨rows, _, read, htable, hkeys', .refl rows, fun row hrow => .inl hrow,
      hread.not_mem_of_keysHold hkeys', hread⟩
  | cleanup m items =>
    obtain ⟨⟨report, s₁⟩, hcleanup, rfl⟩ := map_eq_ok_iff.mp h
    obtain ⟨rows', htable, hsub, hleft⟩ := Store.cleanup_competedIn hrows hcleanup
    refine ⟨rows', [], [], ?_, ?_, hsub, hleft, by simp, .nil⟩
    · rw [List.append_nil]
      exact htable
    · rw [List.append_nil]
      exact hkeys.sublist hsub
  | applyContacts m report =>
    obtain ⟨⟨summary, s₁⟩, hcontacts, rfl⟩ := map_eq_ok_iff.mp h
    have hsame := Store.applyContacts_sameSchedule hcontacts
    refine ⟨rows, [], [], ?_, ?_, .refl rows, fun row hrow => .inl hrow, by simp, .nil⟩
    · rw [List.append_nil, hsame.competedIn]
      exact hrows
    · rw [List.append_nil]
      exact hkeys

namespace Usage

variable {u : Usage} {a : Action} {rows : List RelationRow} {history : List Relation}
  {allowed : Usage → Action → Prop}

/-- A store that was just set up is consistent. -/
theorem fresh_consistent : fresh.Consistent [] [] where
  table := rfl
  keys := List.Pairwise.nil
  kept := List.Sublist.refl []
  past := by simp [fresh]
  reads := .nil

/-- An action that fails changes nothing. -/
theorem step_of_error {failure : Failure} (h : a.perform u.store = .error failure) :
    u.step a = u := by
  unfold step
  rw [h, Action.leaves_of_error h]

/-- An action that succeeds leaves the store that it results in. -/
theorem step_store_of_ok {s : Store} (h : a.perform u.store = .ok s) : (u.step a).store = s := by
  unfold step
  rw [h]
  exact Action.leaves_of_ok h

/-- The store that an action finds is among its earlier states from then on, if the action succeeds. -/
theorem step_past_of_ok {s : Store} (h : a.perform u.store = .ok s) :
    (u.step a).past = u.store :: u.past := by
  unfold step
  rw [h]

/-- The states that a store has been in stay in its past. -/
theorem mem_states_step {s : Store} (hs : s ∈ u.store :: u.past) (a : Action) :
    s ∈ (u.step a).store :: (u.step a).past := by
  cases h : a.perform u.store with
  | error failure =>
    rw [step_of_error h]
    exact hs
  | ok s' =>
    rw [step_past_of_ok h]
    exact List.mem_cons_of_mem _ hs

/-- An action that succeeds adds the relations that the store holds now and did not hold before. -/
theorem step_of_ok {s : Store} {left new : List RelationRow} (h : a.perform u.store = .ok s)
    (hrows : u.store.competedIn = some rows) (htable : s.competedIn = some (left ++ new))
    (hleft : left.Sublist rows) (hnew : ∀ row ∈ new, row ∉ rows) :
    u.step a = ⟨s, u.store :: u.past, u.added ++ new⟩ := by
  have hold : (left.filter fun row => row ∉ rows) = [] := by
    rw [List.filter_eq_nil_iff]
    intro row hrow
    simpa using hleft.subset hrow
  have hall : (new.filter fun row => row ∉ rows) = new := by
    rw [List.filter_eq_self]
    intro row hrow
    simpa using hnew row hrow
  have hadded : ((left ++ new).filter fun row => row ∉ rows) = new := by
    rw [List.filter_append, hold, hall, List.nil_append]
  -- The store held what is left and did not hold what is new.
  unfold step
  rw [h, Action.leaves_of_ok h]
  dsimp only
  rw [hrows, htable, Option.getD_some, Option.getD_some, hadded]

/-- Whatever is done, a store stays consistent. Of the relations that it held those are gone at most
that the action's items name, and those that it did not hold are what was added. -/
theorem Consistent.step (hu : u.Consistent rows history) (a : Action) :
    ∃ left new read, (u.step a).Consistent (left ++ new) (history ++ read) ∧
      (u.step a).added = u.added ++ new ∧ left.Sublist rows ∧
      ∀ row ∈ rows, row ∈ left ∨ ∃ item ∈ a.items, row.id = .text item.id := by
  cases h : a.perform u.store with
  | error failure =>
    refine ⟨rows, [], [], ?_, ?_, .refl rows, fun row hrow => .inl hrow⟩
    · rw [step_of_error h, List.append_nil, List.append_nil]
      exact hu
    · rw [step_of_error h, List.append_nil]
  | ok s =>
    obtain ⟨left, new, read, htable, hkeys, hleft, hnamed, hnew, hread⟩ :=
      Action.perform_competedIn hu.table hu.keys h
    rw [step_of_ok h hu.table htable hleft hnew]
    refine ⟨left, new, read, ⟨htable, hkeys, ?_, ?_, ?_⟩, rfl, hleft, hnamed⟩
    · exact (hleft.trans hu.kept).append (.refl new)
    · intro s' hs'
      rcases List.mem_cons.mp hs' with rfl | hs'
      · exact ⟨rows, hu.table, hu.kept.trans (List.sublist_append_left _ _)⟩
      · obtain ⟨rows', hrows', hsub⟩ := hu.past s' hs'
        exact ⟨rows', hrows', hsub.trans (List.sublist_append_left _ _)⟩
    · exact hu.reads.append hread

/-- An import that succeeds adds the relations of its entries. -/
theorem Consistent.added_import (hu : u.Consistent rows history) {m : Moment}
    {competition : String} {entries : List Entry} {s : Store}
    (h : Action.perform u.store (.importEntries m competition entries) = .ok s) :
    (u.step (.importEntries m competition entries)).added =
      u.added ++ Store.importedRows m competition 0 entries := by
  obtain ⟨⟨summary, s₁⟩, himport, rfl⟩ := map_eq_ok_iff.mp h
  obtain ⟨htable, hkeys⟩ := Store.importEntries_competedIn hu.table hu.keys himport
  obtain ⟨read, hread⟩ := Store.exists_reads_importedRows m competition 0 entries
  rw [step_of_ok h hu.table htable (.refl rows) (hread.not_mem_of_keysHold hkeys)]

/-- A cleanup adds no relations. -/
theorem Consistent.added_cleanup (hu : u.Consistent rows history) (m : Moment)
    (items : List PlanItem) : (u.step (.cleanup m items)).added = u.added := by
  cases h : Action.perform u.store (.cleanup m items) with
  | error failure => rw [step_of_error h]
  | ok s =>
    obtain ⟨⟨report, s₁⟩, hcleanup, rfl⟩ := map_eq_ok_iff.mp h
    obtain ⟨left, htable, hleft, -⟩ := Store.cleanup_competedIn hu.table hcleanup
    rw [← List.append_nil left] at htable
    rw [step_of_ok h hu.table htable hleft (by simp), List.append_nil]

/-- A contact report adds no relations. -/
theorem Consistent.added_applyContacts (hu : u.Consistent rows history) (m : Moment)
    (report : ContactReport) : (u.step (.applyContacts m report)).added = u.added := by
  cases h : Action.perform u.store (.applyContacts m report) with
  | error failure => rw [step_of_error h]
  | ok s =>
    obtain ⟨⟨summary, s₁⟩, hcontacts, rfl⟩ := map_eq_ok_iff.mp h
    have htable : s₁.competedIn = some (rows ++ []) := by
      rw [(Store.applyContacts_sameSchedule hcontacts).competedIn, hu.table, List.append_nil]
    rw [step_of_ok h hu.table htable (.refl rows) (by simp), List.append_nil]

/-- What holds of a store that was just set up, and of every store that an action leaves if it held
before, holds whatever a store has been through. -/
theorem Reachable.store_induction {P : Store → Prop} (hu : Reachable allowed u) (hfresh : P .fresh)
    (hperform : ∀ s s' a, P s → Action.perform s a = .ok s' → P s') : P u.store := by
  induction hu with
  | fresh => exact hfresh
  | @step u a _ _ ih =>
    cases h : a.perform u.store with
    | error failure =>
      rw [step_of_error h]
      exact ih
    | ok s =>
      rw [step_store_of_ok h]
      exact hperform u.store s a ih h

/-- Whatever a store has been through, it is consistent. -/
theorem Reachable.consistent (hu : Reachable allowed u) :
    ∃ rows history, u.Consistent rows history := by
  induction hu with
  | fresh => exact ⟨[], [], fresh_consistent⟩
  | @step u a _ _ ih =>
    obtain ⟨rows, history, hu⟩ := ih
    obtain ⟨left, new, read, hstep, -⟩ := hu.step a
    exact ⟨left ++ new, history ++ read, hstep⟩

end Usage

end SkaterLedger
