import SkaterLedger.Proofs.Relations.Plan

/-!
# Planning again after an interruption

A cleanup that was interrupted has deleted some of what its plan lists. Planning over the relations
that are left gives what is left of the plan (`DeletionPlan.make_remaining`): the same decisions
without what is gone, and the same items for the rest.

Two facts carry this. The sort that ranks the relations of a pair is stable, so that taking
relations out before the sort is taking them out of its result (`mergeSort_filter`). And what a pair
keeps is never listed for deletion, so that it stays at the head of the pair's ranking.
-/

namespace SkaterLedger

/-- The relations that are left when those of some ids are gone. -/
def Relation.remaining (done : List String) (relations : List Relation) : List Relation :=
  relations.filter fun r => r.id ∉ done

/-- A decision when the relations of some ids are gone: it keeps what it kept and deletes the
others. -/
def PairDecision.without (done : List String) (d : PairDecision) : PairDecision :=
  { d with delete := d.delete.filter fun r => r.id ∉ done }

/-- A plan when the relations of some ids are gone. A pair of which nothing is left to delete is not
decided about. -/
def DeletionPlan.without (done : List String) (plan : DeletionPlan) : DeletionPlan where
  groups := (plan.groups.map (PairDecision.without done)).filter fun d => !d.delete.isEmpty
  items := plan.items.filter fun item => item.id ∉ done

namespace Relation

/-! ## Sorting what is left -/

/-- Where a list is cut is told by what holds of all elements in front and of none behind. -/
theorem append_inj_of_forall {α : Type} {xs ys xs' ys' : List α} {p : α → Bool}
    (h : xs ++ ys = xs' ++ ys') (hxs : ∀ a ∈ xs, p a = true) (hys : ∀ a ∈ ys, p a = false)
    (hxs' : ∀ a ∈ xs', p a = true) (hys' : ∀ a ∈ ys', p a = false) : xs = xs' ∧ ys = ys' := by
  have hfront {us vs : List α} (hus : ∀ a ∈ us, p a = true) (hvs : ∀ a ∈ vs, p a = false) :
      (us ++ vs).filter p = us := by
    have hnone : vs.filter p = [] :=
      List.filter_eq_nil_iff.mpr fun a ha => by simp [hvs a ha]
    rw [List.filter_append, List.filter_eq_self.mpr hus, hnone, List.append_nil]
  have hxx : xs = xs' := by
    rw [← hfront hxs hys, h, hfront hxs' hys']
  subst hxx
  exact ⟨rfl, List.append_cancel_left h⟩

/-- A stable sort of some elements of a list gives them in the order in which they stand in the
sorted list. -/
theorem mergeSort_filter {α : Type} {le : α → α → Bool}
    (htrans : ∀ a b c, le a b = true → le b c = true → le a c = true)
    (htotal : ∀ a b, (le a b || le b a) = true) (q : α → Bool) (l : List α) :
    (l.filter q).mergeSort le = (l.mergeSort le).filter q := by
  -- The first element of a list goes right behind those that may not stand after it, in the sorted
  -- list as in the sorted part of it.
  have hplace (a : α) (l : List α) : ∃ before after,
      (a :: l).mergeSort le = before ++ a :: after ∧ l.mergeSort le = before ++ after ∧
        (∀ b ∈ before, (!le a b) = true) ∧ ∀ b ∈ after, (!le a b) = false := by
    obtain ⟨before, after, hsort, hrest, hbefore⟩ := List.mergeSort_cons htrans htotal a l
    refine ⟨before, after, hsort, hrest, hbefore, fun b hb => ?_⟩
    have hsorted := List.pairwise_mergeSort htrans htotal (a :: l)
    rw [hsort, List.pairwise_append, List.pairwise_cons] at hsorted
    simp [hsorted.2.1.1 b hb]
  induction l with
  | nil => simp
  | cons a l ih =>
    obtain ⟨before, after, hsort, hrest, hbefore, hafter⟩ := hplace a l
    rw [hsort, List.filter_append]
    by_cases ha : q a = true
    · obtain ⟨before', after', hsort', hrest', hbefore', hafter'⟩ := hplace a (l.filter q)
      have hcut : before' ++ after' = before.filter q ++ after.filter q := by
        rw [← hrest', ih, hrest, List.filter_append]
      obtain ⟨rfl, rfl⟩ := append_inj_of_forall hcut hbefore' hafter'
        (fun b hb => hbefore b (List.mem_of_mem_filter hb))
        (fun b hb => hafter b (List.mem_of_mem_filter hb))
      rw [List.filter_cons_of_pos ha, List.filter_cons_of_pos ha, hsort']
    · rw [List.filter_cons_of_neg ha, List.filter_cons_of_neg ha, ih, hrest, List.filter_append]

/-! ## Pairs of what is left -/

variable {relations : List Relation} {done : List String}

/-- The relations of a pair that are left. -/
theorem ofPair_remaining (done : List String) (relations : List Relation) (p : String × String) :
    ofPair (remaining done relations) p = remaining done (ofPair relations p) := by
  unfold ofPair remaining
  rw [List.filter_comm]

/-- If of every pair a relation is left, the pairs are the same as before. -/
theorem pairs_remaining
    (h : ∀ p ∈ relations.map pair, p ∈ (remaining done relations).map pair) :
    pairs (remaining done relations) = pairs relations := by
  refine eq_of_pairPrecedes (pairs_pairwise _) (pairs_pairwise _) fun p => ?_
  rw [mem_pairs_iff, mem_pairs_iff]
  exact ⟨fun hp => (List.filter_sublist.map _).subset hp, h p⟩

end Relation

/-! ## Decisions about what is left -/

namespace PairDecision

variable {labels : Labels} {relations : List Relation} {done : List String} {p : String × String}
  {d : PairDecision}

/-- A decision about relations keeps one of them and deletes the others. -/
theorem length_of_decide? {g : (String × String) × List Relation} (h : decide? labels g = some d) :
    d.delete.length + 1 = g.2.length := by
  have hlength : (g.2.mergeSort Relation.ranksBefore).length = g.2.length :=
    List.length_mergeSort g.2
  unfold decide? at h
  cases hsorted : g.2.mergeSort Relation.ranksBefore with
  | nil =>
    rw [hsorted] at h
    cases h
  | cons best rest =>
    rw [hsorted] at h hlength
    obtain rfl := Option.some.inj h
    rw [List.length_map, ← List.length_cons, hlength]

/-- As long as what a pair keeps is left, the decision about what is left of the pair is the one
about the pair, without what is gone. -/
theorem decide?_remaining (h : decide? labels (p, Relation.ofPair relations p) = some d)
    (hkeep : d.keep.id ∉ done) :
    decide? labels (p, Relation.ofPair (Relation.remaining done relations) p) =
      some (d.without done) := by
  have hsort : (Relation.ofPair (Relation.remaining done relations) p).mergeSort
        Relation.ranksBefore =
      Relation.remaining done ((Relation.ofPair relations p).mergeSort Relation.ranksBefore) := by
    rw [Relation.ofPair_remaining]
    exact Relation.mergeSort_filter Relation.ranksBefore_trans Relation.ranksBefore_total _ _
  unfold decide? at h ⊢
  dsimp only at h ⊢
  rw [hsort]
  cases hsorted : (Relation.ofPair relations p).mergeSort Relation.ranksBefore with
  | nil =>
    rw [hsorted] at h
    cases h
  | cons best rest =>
    rw [hsorted] at h
    obtain rfl := Option.some.inj h
    have hhead : Relation.remaining done (best :: rest) = best :: Relation.remaining done rest :=
      List.filter_cons_of_pos (decide_eq_true hkeep)
    have hrest : (Relation.remaining done rest).map ScoredRelation.ofRelation =
        (rest.map ScoredRelation.ofRelation).filter fun r => r.id ∉ done := by
      rw [List.filter_map]
      rfl
    rw [hhead]
    exact congrArg some (congrArg (PairDecision.mk p.1 p.2 _ _ _) hrest)

/-- The items of a decision without what is gone are its items without what is gone. -/
theorem items_without (done : List String) (d : PairDecision) :
    (d.without done).items = d.items.filter fun item => item.id ∉ done := by
  unfold items
  rw [List.filter_map]
  rfl

end PairDecision

/-! ## The plan of what is left -/

namespace DeletionPlan

variable {labels : Labels} {relations : List Relation} {done : List String}

/-- The decisions of a plan are those about the pairs with more than one relation, in the order of
the pairs. -/
theorem build_groups (labels : Labels) (relations : List Relation) :
    (build labels relations).groups = (Relation.pairs relations).filterMap fun p =>
      if 1 < (Relation.ofPair relations p).length then
        PairDecision.decide? labels (p, Relation.ofPair relations p)
      else none := by
  unfold build Relation.duplicates
  rw [List.filterMap_filter, List.filterMap_map]
  refine List.filterMap_congr fun p _ => ?_
  simp only [Function.comp_apply, decide_eq_true_eq]

/-- What a plan keeps is not among what it lists for deletion. -/
theorem keep_not_mem_ids (hids : (relations.map Relation.id).Nodup) {d : PairDecision}
    (hd : d.Specified labels relations) :
    d.keep.id ∉ (build labels relations).items.map PlanItem.id := by
  obtain ⟨a, ha, -, hkeep⟩ := hd.keep_leads
  intro hplanned
  rw [hkeep] at hplanned
  exact ha.not_outclassed hids ((build_specified labels relations).mem_ids_iff.mp hplanned)

/-- Where only what a plan lists for deletion is gone, a relation of every pair is left. -/
theorem mem_pairs_remaining (hids : (relations.map Relation.id).Nodup)
    (hdone : done ⊆ (build labels relations).items.map PlanItem.id) :
    ∀ p ∈ relations.map Relation.pair,
      p ∈ (Relation.remaining done relations).map Relation.pair := by
  intro p hp
  obtain ⟨a, rfl, ha⟩ := Relation.exists_leads hp
  have hspared := (build_specified labels relations).mem_spared_of_leads hids ha
  obtain ⟨hmem, hnot⟩ := List.mem_filter.mp hspared
  have hleft : a.1 ∈ Relation.remaining done relations :=
    List.mem_filter.mpr ⟨hmem, decide_eq_true fun h => of_decide_eq_true hnot (hdone h)⟩
  exact List.mem_map_of_mem hleft

/-- The decisions about what is left are the earlier ones without what is gone. -/
theorem groups_remaining (hids : (relations.map Relation.id).Nodup)
    (hdone : done ⊆ (build labels relations).items.map PlanItem.id) :
    (build labels (Relation.remaining done relations)).groups =
      ((build labels relations).without done).groups := by
  unfold without
  dsimp only
  rw [build_groups, build_groups, Relation.pairs_remaining (mem_pairs_remaining hids hdone),
    List.map_filterMap, List.filter_filterMap]
  refine List.filterMap_congr fun p hp => ?_
  obtain ⟨d, hd, hspec⟩ := PairDecision.exists_decide? labels (Relation.mem_pairs_iff.mp hp)
  have hkeep : d.keep.id ∉ done := fun h => keep_not_mem_ids hids hspec (hdone h)
  have hleft := PairDecision.decide?_remaining hd hkeep
  have hlength := PairDecision.length_of_decide? hd
  have hlength' := PairDecision.length_of_decide? hleft
  have hfewer : (d.without done).delete.length ≤ d.delete.length := List.length_filter_le _ _
  dsimp only at hlength hlength'
  rw [hd, hleft, ← hlength, ← hlength']
  -- What is left of the pair is decided about exactly if there is something left to delete.
  by_cases hempty : (d.without done).delete = []
  · have hnone : ¬ 1 < (d.without done).delete.length + 1 := by simp [hempty]
    rw [if_neg hnone]
    split
    · rw [Option.map_some, Option.filter_some, hempty]
      rfl
    · rfl
  · have hpos : 0 < (d.without done).delete.length := List.length_pos_iff.mpr hempty
    rw [if_pos (by omega), if_pos (by omega), Option.map_some, Option.filter_some,
      List.isEmpty_eq_false_iff.mpr hempty]
    rfl

/-- Leaving out decisions that delete nothing leaves out no item. -/
theorem flatMap_items_filter (ds : List PairDecision) :
    (ds.filter fun d => !d.delete.isEmpty).flatMap PairDecision.items =
      ds.flatMap PairDecision.items := by
  induction ds with
  | nil => rfl
  | cons d ds ih =>
    by_cases hempty : d.delete = []
    · have hitems : d.items = [] := by simp [PairDecision.items, hempty]
      rw [List.filter_cons_of_neg (by simp [hempty]), List.flatMap_cons, hitems, ih,
        List.nil_append]
    · rw [List.filter_cons_of_pos (by simp [hempty]), List.flatMap_cons, List.flatMap_cons, ih]

/-- The plan of what is left is the earlier one without what is gone. -/
theorem build_remaining (hids : (relations.map Relation.id).Nodup)
    (hdone : done ⊆ (build labels relations).items.map PlanItem.id) :
    build labels (Relation.remaining done relations) = (build labels relations).without done := by
  have hgroups := groups_remaining hids hdone
  have hitems : (build labels (Relation.remaining done relations)).items =
      ((build labels relations).without done).items := by
    calc (build labels (Relation.remaining done relations)).items
        = ((build labels relations).without done).groups.flatMap PairDecision.items := by
          rw [← hgroups]
          rfl
      _ = ((build labels relations).groups.map (PairDecision.without done)).flatMap
            PairDecision.items := flatMap_items_filter _
      _ = (build labels relations).groups.flatMap fun d =>
            d.items.filter fun item => item.id ∉ done := by
          rw [List.flatMap_map]
          simp only [PairDecision.items_without]
      _ = ((build labels relations).without done).items := by
          rw [← List.filter_flatMap]
          rfl
  cases hrest : build labels (Relation.remaining done relations)
  rw [hrest] at hgroups hitems
  simp_all

/-- Planning over relations with well-formed ids, all different, succeeds. Whatever part of the plan
is then carried out, planning over the relations that are left succeeds as well, and gives the rest
of the plan: the decisions without what is gone, as far as they still delete something, and the items
of what is not gone. -/
theorem make_remaining (labels : Labels) (relations : List Relation)
    (hformed : ∀ r ∈ relations, r.WellFormed) (hids : (relations.map Relation.id).Nodup) :
    ∃ plan, make labels relations = .ok plan ∧
      ∀ done : List String, done ⊆ plan.items.map PlanItem.id →
        make labels (Relation.remaining done relations) = .ok (plan.without done) := by
  refine ⟨build labels relations, make_eq_ok_iff.mpr ⟨hformed, rfl⟩, fun done hdone => ?_⟩
  exact make_eq_ok_iff.mpr
    ⟨fun r hr => hformed r (List.mem_of_mem_filter hr), build_remaining hids hdone⟩

/-- A pair with three relations, the first and last of which are alike, and one with two: the
cleanup stops after the last relation of the first pair. -/
theorem make_remaining_interrupted :
    let relations : List Relation :=
      [⟨"competed_in:1", "skater:ito", "event:pony_3", none, none, none, none, none, none,
          some "2001-01-02"⟩,
        ⟨"competed_in:2", "skater:ito", "event:pony_3", none, none, none, none, some "prints", none,
          some "2001-01-03"⟩,
        ⟨"competed_in:3", "skater:doe", "event:pony_3", none, none, none, none, none, none, none⟩,
        ⟨"competed_in:4", "skater:doe", "event:pony_3", none, none, none, none, none, none, none⟩,
        ⟨"competed_in:5", "skater:ito", "event:pony_3", none, none, none, none, none, none,
          some "2001-01-02"⟩]
    (∀ r ∈ relations, r.WellFormed) ∧ (relations.map Relation.id).Nodup ∧
      ∃ plan, make .empty relations = .ok plan ∧
        ["competed_in:5"] ⊆ plan.items.map PlanItem.id ∧
        make .empty (Relation.remaining ["competed_in:5"] relations) =
          .ok (plan.without ["competed_in:5"]) := by
  intro relations
  have hformed : ∀ r ∈ relations, r.WellFormed := Relation.forM_checkIds_eq_ok_iff.mp (by rfl)
  have hids : (relations.map Relation.id).Nodup := by decide
  obtain ⟨plan, hplan, hleft⟩ := make_remaining .empty relations hformed hids
  -- The second relation has notes, and so outranks the fifth.
  have houtclassed : Relation.Outclassed relations "competed_in:5" :=
    ⟨(relations[1], 1), by decide, (relations[4], 4), by decide, rfl, .inl (by decide), rfl⟩
  have hlisted : ["competed_in:5"] ⊆ plan.items.map PlanItem.id :=
    List.cons_subset.mpr ⟨(specified_of_make hplan).mem_ids_iff.mpr houtclassed, List.nil_subset _⟩
  exact ⟨hformed, hids, plan, hplan, hlisted, hleft _ hlisted⟩

end DeletionPlan

end SkaterLedger
