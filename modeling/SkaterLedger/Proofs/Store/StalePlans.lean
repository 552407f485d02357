import SkaterLedger.Proofs.Store.Usage

/-!
# Plans that are carried out late

A plan is made over the relations that the store holds at the time. Until it is carried out, imports
may add relations and other cleanups may delete some; it may be carried out in part, and more than
once. None of this is dangerous. A planned relation is outclassed: another relation of its pair was
there that outranks it. Which of two relations outranks the other never changes, so the planned one
stays outclassed by what was ever added, whatever is added or deleted later. What a cleanup deletes
is therefore never the leading relation of a pair.
-/

namespace SkaterLedger

/-- A plan over the relations that a store holds or once held. -/
def Usage.Planned (u : Usage) (plan : DeletionPlan) : Prop :=
  ∃ s ∈ u.store :: u.past, ∃ labels relations,
    s.relations = .ok relations ∧ DeletionPlan.make labels relations = .ok plan

/-- Every item that an action carries out is from such a plan. -/
def Action.FromPlans (u : Usage) (a : Action) : Prop :=
  ∀ item ∈ a.items, ∃ plan, u.Planned plan ∧ item ∈ plan.items

namespace Usage

variable {u : Usage} {rows : List RelationRow} {history : List Relation} {plan : DeletionPlan}
  {item : PlanItem}

/-- A plan over a store stays one over its past, whatever is done. -/
theorem Planned.step (h : u.Planned plan) (a : Action) : (u.step a).Planned plan := by
  obtain ⟨s, hs, hplan⟩ := h
  exact ⟨s, mem_states_step hs a, hplan⟩

/-- What a plan lists for deletion is outclassed by relations that were ever added. -/
theorem Consistent.outclassed_of_planned (hu : u.Consistent rows history) (hplan : u.Planned plan)
    (hitem : item ∈ plan.items) : Relation.Outclassed history item.id := by
  obtain ⟨s, hs, labels, relations, hrelations, hmake⟩ := hplan
  obtain ⟨rows₁, hrows₁, hreads⟩ := Store.relations_eq_ok_iff.mp hrelations
  -- Whenever the plan was made, the relations that it saw had been added by then.
  have hkept : rows₁.Sublist u.added := by
    rcases List.mem_cons.mp hs with rfl | hs
    · rw [hu.table, Option.some.injEq] at hrows₁
      exact hrows₁ ▸ hu.kept
    · obtain ⟨rows₂, hrows₂, hsub⟩ := hu.past s hs
      rw [hrows₁, Option.some.injEq] at hrows₂
      exact hrows₂ ▸ hsub
  have houtclassed : Relation.Outclassed relations item.id :=
    (DeletionPlan.specified_of_make hmake).mem_ids_iff.mp (List.mem_map_of_mem hitem)
  exact houtclassed.of_sublist (hu.reads.sublist hreads hkept)

/-- Of the relations that were ever added, those that are gone are outclassed by others. -/
theorem Reachable.removed_outclassed (hu : Reachable Action.FromPlans u) :
    ∃ rows history, u.Consistent rows history ∧ ∀ row ∈ u.added,
      row ∈ rows ∨ ∃ id, row.id = .text id ∧ Relation.Outclassed history id := by
  induction hu with
  | fresh => exact ⟨[], [], fresh_consistent, by simp [Usage.fresh]⟩
  | @step u a _ hallowed ih =>
    obtain ⟨rows, history, hu, hremoved⟩ := ih
    obtain ⟨left, new, read, hstep, hadded, -, hnamed⟩ := hu.step a
    have hgrown : history.Sublist (history ++ read) := List.sublist_append_left _ _
    refine ⟨left ++ new, history ++ read, hstep, fun row hrow => ?_⟩
    rw [hadded, List.mem_append] at hrow
    rcases hrow with hrow | hrow
    · rcases hremoved row hrow with hthere | ⟨id, hid, hout⟩
      · rcases hnamed row hthere with hleft | ⟨item, hitem, hid⟩
        · exact .inl (List.mem_append_left _ hleft)
        · -- The action has deleted it, and every plan it may have been in is about the past.
          obtain ⟨plan, hplan, hmem⟩ := hallowed item hitem
          exact .inr ⟨item.id, hid, (hu.outclassed_of_planned hplan hmem).of_sublist hgrown⟩
      · exact .inr ⟨id, hid, hout.of_sublist hgrown⟩
    · exact .inl (List.mem_append_right _ hrow)

/-- Carrying out plans late, in part or again never deletes the leading relation of a pair: as long as
no id is used twice, of every pair that was ever added the store holds the relation that ranks first
among all that were ever added for it, in the row that was added. -/
theorem leading_relations_kept (hu : Reachable Action.FromPlans u)
    (hids : (u.added.map RelationRow.id).Nodup) :
    ∃ rows history, u.store.competedIn = some rows ∧
      u.added.mapM Store.relationOfRow = .ok history ∧
      ∀ p ∈ history.map Relation.pair, ∃ a row, a.1.pair = p ∧ Relation.Leads history a ∧
        u.added[a.2]? = some row ∧ row ∈ rows := by
  obtain ⟨rows, history, hu, hremoved⟩ := hu.removed_outclassed
  refine ⟨rows, history, hu.table, Store.readAs_iff.mp hu.reads, fun p hp => ?_⟩
  have hids' : (history.map Relation.id).Nodup := by
    refine hu.reads.nodup_ids ((List.pairwise_map.mp hids).imp ?_)
    intro a b hne _
    exact hne
  -- The leading relation is the reading of a row that was added; were the row gone, something would
  -- outrank it.
  obtain ⟨a, rfl, ha⟩ := Relation.exists_leads hp
  have hget : history[a.2]? = some a.1 := List.mem_zipIdx_iff_getElem?.mp ha.1
  obtain ⟨hlt, heq⟩ := List.getElem?_eq_some_iff.mp hget
  have hlt' : a.2 < u.added.length := by
    rw [hu.reads.length_eq]
    exact hlt
  have hread : Store.relationOfRow u.added[a.2] = .ok a.1 := by
    rw [← heq]
    exact hu.reads.relationOfRow_getElem hlt' hlt
  refine ⟨a, u.added[a.2], rfl, ha, List.getElem?_eq_getElem hlt', ?_⟩
  rcases hremoved _ (List.getElem_mem hlt') with hthere | ⟨id, hid, hout⟩
  · exact hthere
  · rw [(Store.ids_of_relationOfRow hread).1, Cell.text.injEq] at hid
    exact absurd (hid ▸ hout) (ha.not_outclassed hids')

/-- A plan made after the second of three imports, carried out after the third and once more. -/
theorem leading_relations_kept_reimported :
    let e : Entry := ⟨"Kei", "Ito", [3], none, .sent, none, none, [], none⟩
    let m (k : ℕ) : Moment := ⟨⟨k, 0⟩, fun n => .ofNat (10 * k + n), fun n => .ofNat (10 * k + n),
      fun n => .ofNat (10 * k + n), fun n => ⟨k, n + 1⟩⟩
    let planned := (fresh.step (.importEntries (m 1) "Pony" [e])).step
      (.importEntries (m 2) "Pony" [{ e with notes := ["prints"] }])
    ∃ plan, planned.Planned plan ∧
      let u := ((planned.step (.importEntries (m 3) "Pony" [e])).step
        (.cleanup (m 4) plan.items)).step (.cleanup (m 5) plan.items)
      Reachable Action.FromPlans u ∧ (u.added.map RelationRow.id).Nodup ∧
      ∃ rows history, u.store.competedIn = some rows ∧
        u.added.mapM Store.relationOfRow = .ok history ∧
        ∀ p ∈ history.map Relation.pair, ∃ a row, a.1.pair = p ∧ Relation.Leads history a ∧
          u.added[a.2]? = some row ∧ row ∈ rows := by
  intro e m planned
  let relations : List Relation :=
    [⟨"competed_in:0000000000000000000000000000000a", "skater:ito_kei", "event:pony_3",
        some "requested", some "sent", none, none, none, none, some "1970-01-01T00:00:01.000000Z"⟩,
      ⟨"competed_in:00000000000000000000000000000014", "skater:ito_kei", "event:pony_3",
        some "requested", some "sent", none, none, some "prints", none,
        some "1970-01-01T00:00:02.000000Z"⟩]
  have hread : planned.store.relations = .ok relations := by
    dsimp only [planned, relations, e, m]
    rfl
  have hplan : planned.Planned (.build .empty relations) :=
    ⟨planned.store, List.mem_cons_self, .empty, relations, hread,
      DeletionPlan.make_eq_ok_iff.mpr ⟨Relation.forM_checkIds_eq_ok_iff.mp (by rfl), rfl⟩⟩
  refine ⟨_, hplan, ?_⟩
  intro u
  have himports : Reachable Action.FromPlans (planned.step (.importEntries (m 3) "Pony" [e])) :=
    .step (.step (.step .fresh (by simp [Action.FromPlans, Action.items]))
      (by simp [Action.FromPlans, Action.items])) (by simp [Action.FromPlans, Action.items])
  have hlate := hplan.step (.importEntries (m 3) "Pony" [e])
  have hcleanup := himports.step (a := .cleanup (m 4) (DeletionPlan.build .empty relations).items)
    fun item hitem => ⟨_, hlate, hitem⟩
  have hu : Reachable Action.FromPlans u := hcleanup.step fun item hitem =>
    ⟨_, hlate.step (.cleanup (m 4) (DeletionPlan.build .empty relations).items), hitem⟩
  have hids : (u.added.map RelationRow.id).Nodup := by
    obtain ⟨_, _, hconsistent⟩ := hcleanup.consistent
    obtain ⟨_, _, hconsistent'⟩ := himports.consistent
    rw [hconsistent.added_cleanup, hconsistent'.added_cleanup]
    dsimp only [planned, e, m]
    decide
  exact ⟨hu, hids, leading_relations_kept hu hids⟩

end Usage

end SkaterLedger
