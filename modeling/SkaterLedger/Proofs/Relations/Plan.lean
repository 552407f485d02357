import Mathlib.Algebra.BigOperators.Group.Finset.Basic
import Mathlib.Data.List.Basic
import Mathlib.Data.List.Forall2
import Mathlib.Data.List.Nodup
import SkaterLedger.Proofs.Relations.Ranking
import SkaterLedger.Proofs.Relations.WellFormed

/-!
# What a deletion plan is

`DeletionPlan.Specified` says what the plan of some relations has to be, without saying how it is
found: which pairs it decides about and in which order, how each pair's relations are ranked, and
what is listed for deletion. `build_specified` shows that the plan which is built is such a plan, and
`Specified.unique` that there is no other. What cleanups need of a plan follows from it alone: a
relation's id is planned exactly when another relation of its pair outranks it (`mem_ids_iff`).
-/

namespace SkaterLedger

open Text (Precedes precedes_iff_lt)

/-- A pair of ids comes before another one: by the bytes of the skater's id, then of the event's. -/
def PairPrecedes (p q : String × String) : Prop :=
  Precedes p.1 q.1 ∨ p.1 = q.1 ∧ Precedes p.2 q.2

namespace Labels

/-- What some names show for an id: the name of the last entry for it, and the id itself if there is
no entry for it. -/
def Shows (names : List (String × String)) (id label : String) : Prop :=
  (∃ before after, names = before ++ (id, label) :: after ∧ ∀ n ∈ after, n.1 ≠ id) ∨
    (∀ n ∈ names, n.1 ≠ id) ∧ label = id

end Labels

/-- The skater and the event of a decision. -/
def PairDecision.pair (d : PairDecision) : String × String := (d.subject, d.target)

/-- A decision is the one about its pair of some relations. -/
structure PairDecision.Specified (labels : Labels) (relations : List Relation)
    (d : PairDecision) : Prop where
  /-- What is kept, followed by what is deleted, are the pair's relations, each one outranking those
  after it. -/
  ranking : ∃ ranking : List (Relation × ℕ),
    ranking.Perm (relations.zipIdx.filter fun a => a.1.pair == d.pair) ∧
      ranking.Pairwise Relation.Outranks ∧
      d.keep :: d.delete = ranking.map fun a => .ofRelation a.1
  /-- The skater is shown by name. -/
  subjectLabel : Labels.Shows labels.subjects d.subject d.subjectLabel
  /-- The event is shown by name. -/
  targetLabel : Labels.Shows labels.targets d.target d.targetLabel

/-- A plan is the one of some relations. -/
structure DeletionPlan.Specified (labels : Labels) (relations : List Relation)
    (plan : DeletionPlan) : Prop where
  /-- The pairs come in strictly ascending order. -/
  ascending : (plan.groups.map PairDecision.pair).Pairwise PairPrecedes
  /-- They are the pairs that two or more relations carry. -/
  mem_pairs : ∀ p, p ∈ plan.groups.map PairDecision.pair ↔ 2 ≤ (relations.map Relation.pair).count p
  /-- Each pair is decided as it has to be. -/
  groups : ∀ d ∈ plan.groups, d.Specified labels relations
  /-- The items are what the groups delete, in their order and under their labels. -/
  items : plan.items = plan.groups.flatMap fun d => d.delete.map fun r =>
    ⟨r.id, d.subjectLabel, d.targetLabel, (DeletionReason.between r d.keep).text⟩

/-! ## Pairs in order -/

/-- No two pairs come before each other. -/
theorem PairPrecedes.asymm {p q : String × String} (hpq : PairPrecedes p q)
    (hqp : PairPrecedes q p) : False := by
  simp only [PairPrecedes, precedes_iff_lt] at hpq hqp
  rcases hpq with hpq | ⟨heq, hpq⟩
  · rcases hqp with hqp | ⟨heq, -⟩
    · exact absurd hpq hqp.not_gt
    · exact absurd heq hpq.ne'
  · rcases hqp with hqp | ⟨-, hqp⟩
    · exact absurd heq hqp.ne'
    · exact absurd hpq hqp.not_gt

namespace Relation

/-- Whether a pair comes before another one or is the same, in terms of the order of texts. -/
theorem pairLe_iff {p q : String × String} :
    pairLe p q = true ↔ p.1 < q.1 ∨ p.1 = q.1 ∧ ¬ q.2 < p.2 := by
  simp [pairLe]

/-- Coming before is coming before or being the same, and not being the same. -/
theorem pairPrecedes_iff {p q : String × String} :
    PairPrecedes p q ↔ pairLe p q = true ∧ p ≠ q := by
  simp only [PairPrecedes, precedes_iff_lt, pairLe_iff, ne_eq, Prod.ext_iff]
  rcases lt_trichotomy p.1 q.1 with h | h | h
  · simp [h, h.ne]
  · rcases lt_trichotomy p.2 q.2 with h' | h' | h'
    · simp [h, h', h'.not_gt, h'.ne]
    · simp [h, h']
    · simp [h, h', h'.not_gt]
  · simp [h.not_gt, h.ne']

/-- The order of pairs is transitive. -/
theorem pairLe_trans (p q r : String × String) (hpq : pairLe p q = true)
    (hqr : pairLe q r = true) : pairLe p r = true := by
  rw [pairLe_iff] at *
  rcases hpq with hpq | ⟨hpq, hpq'⟩
  · rcases hqr with hqr | ⟨hqr, -⟩
    · exact .inl (hpq.trans hqr)
    · exact .inl (hqr ▸ hpq)
  · rcases hqr with hqr | ⟨hqr, hqr'⟩
    · exact .inl (hpq ▸ hqr)
    · exact .inr ⟨hpq.trans hqr, not_lt.mpr ((not_lt.mp hpq').trans (not_lt.mp hqr'))⟩

/-- Of two pairs one comes before the other or is the same. -/
theorem pairLe_total (p q : String × String) : (pairLe p q || pairLe q p) = true := by
  rw [Bool.or_eq_true, pairLe_iff, pairLe_iff]
  rcases lt_trichotomy p.1 q.1 with h | h | h
  · exact .inl (.inl h)
  · rcases le_total p.2 q.2 with h' | h'
    · exact .inl (.inr ⟨h, not_lt.mpr h'⟩)
    · exact .inr (.inr ⟨h.symm, not_lt.mpr h'⟩)
  · exact .inr (.inl h)

/-- Pairs that come in strictly ascending order are different. -/
theorem nodup_of_pairPrecedes {ps : List (String × String)} (h : ps.Pairwise PairPrecedes) :
    ps.Nodup :=
  h.imp fun hpq => (pairPrecedes_iff.mp hpq).2

/-- Pairs can be put in strictly ascending order in one way only. -/
theorem eq_of_pairPrecedes {ps qs : List (String × String)} (hps : ps.Pairwise PairPrecedes)
    (hqs : qs.Pairwise PairPrecedes) (hmem : ∀ p, p ∈ ps ↔ p ∈ qs) : ps = qs := by
  have hperm : ps.Perm qs :=
    (List.perm_ext_iff_of_nodup (nodup_of_pairPrecedes hps) (nodup_of_pairPrecedes hqs)).mpr hmem
  exact List.Perm.eq_of_pairwise (fun _ _ _ _ hpq hqp => (hpq.asymm hqp).elim) hps hqs hperm

/-- Taking out repetitions leaves none. -/
theorem nodup_eraseDups {α : Type} [BEq α] [LawfulBEq α] (l : List α) : l.eraseDups.Nodup := by
  -- What equals the first element goes before the rest is looked at, so the induction is on the
  -- length and not on the list.
  induction h : l.length using Nat.strongRecOn generalizing l with
  | ind n ih =>
    cases l with
    | nil => exact List.nodup_nil
    | cons a l =>
      have hshort : (l.filter fun b => !b == a).length < n := by
        rw [← h, List.length_cons]
        exact Nat.lt_succ_of_le (List.length_filter_le _ _)
      rw [List.eraseDups_cons, List.nodup_cons]
      refine ⟨?_, ih _ hshort _ rfl⟩
      simp [List.mem_eraseDups]

/-- The pairs of some relations are those that one of them carries. -/
theorem mem_pairs_iff {relations : List Relation} {p : String × String} :
    p ∈ pairs relations ↔ p ∈ relations.map pair := by
  rw [pairs, List.mem_mergeSort, List.mem_eraseDups]

/-- The pairs of some relations come in strictly ascending order. -/
theorem pairs_pairwise (relations : List Relation) :
    (pairs relations).Pairwise PairPrecedes := by
  have hsorted : (pairs relations).Pairwise fun p q => pairLe p q = true :=
    List.pairwise_mergeSort pairLe_trans pairLe_total _
  have hnodup : (pairs relations).Nodup :=
    (List.mergeSort_perm _ _).nodup_iff.mpr (nodup_eraseDups _)
  exact (hsorted.and hnodup).imp fun h => pairPrecedes_iff.mpr h

/-- Each relation carries one pair. -/
theorem sum_count_pairs (relations : List Relation) :
    ∑ p ∈ (relations.map pair).toFinset, (relations.map pair).count p = relations.length := by
  have h := List.sum_toFinset_count_eq_length (relations.map pair)
  rw [List.length_map] at h
  convert h

/-- The pairs with more than one relation, in order. -/
theorem duplicates_map_fst (relations : List Relation) :
    (duplicates relations).map Prod.fst =
      (pairs relations).filter fun p => 1 < (relations.map pair).count p := by
  have hlen : ∀ p, (ofPair relations p).length = (relations.map pair).count p := fun p => by
    rw [← length_placed, ← placed_map_fst, List.length_map]
  simp only [duplicates, List.filter_map, List.map_map, Function.comp_def, hlen, List.map_id']

end Relation

/-! ## Labels -/

/-- What names show for an id is what they are searched for. -/
theorem Labels.shows_iff {names : List (String × String)} {id label : String} :
    Shows names id label ↔ find names id = label := by
  -- Searching goes from the end, so the entry that is found is the last one of its id.
  have hlast : (∃ before after, names = before ++ (id, label) :: after ∧ ∀ n ∈ after, n.1 ≠ id) ↔
      names.reverse.lookup id = some label := by
    rw [List.lookup_eq_some_iff]
    constructor
    · rintro ⟨before, after, rfl, h⟩
      refine ⟨after.reverse, before.reverse, by simp, fun n hn => ?_⟩
      exact bne_iff_ne.mpr (h n (List.mem_reverse.mp hn)).symm
    · rintro ⟨after, before, h, hafter⟩
      refine ⟨before.reverse, after.reverse, by simpa using congrArg List.reverse h, fun n hn => ?_⟩
      exact (bne_iff_ne.mp (hafter n (List.mem_reverse.mp hn))).symm
  have hnone : (∀ n ∈ names, n.1 ≠ id) ↔ names.reverse.lookup id = none := by
    simp only [List.lookup_eq_none_iff, List.mem_reverse, bne_iff_ne, ne_comm]
  rw [Shows, hlast, hnone, find]
  cases names.reverse.lookup id <;> simp [eq_comm]

/-! ## The plan that is built -/

namespace PairDecision

variable {labels : Labels} {relations : List Relation} {p : String × String}

/-- The decision about a pair of some relations is made from the pair's ranking. -/
theorem decide?_eq :
    decide? labels (p, Relation.ofPair relations p) =
      ofRanked? labels p ((Relation.ranked relations p).map Prod.fst) := by
  rw [decide?, Relation.ranked_map_fst]

/-- The decision about a pair is about this pair. -/
theorem pair_of_decide? {g : (String × String) × List Relation} {d : PairDecision}
    (h : decide? labels g = some d) : d.pair = g.1 := by
  unfold decide? ofRanked? at h
  split at h
  · simp at h
  · obtain rfl := Option.some.inj h
    rfl

/-- A pair that some relation carries is decided, and as it has to be. -/
theorem exists_decide? (labels : Labels) (h : p ∈ relations.map Relation.pair) :
    ∃ d, decide? labels (p, Relation.ofPair relations p) = some d ∧ d.Specified labels relations := by
  have hlen := (Relation.ranked_perm relations p).length_eq
  rw [Relation.length_placed] at hlen
  have hpos : 0 < (relations.map Relation.pair).count p := List.count_pos_iff.mpr h
  rw [decide?_eq]
  cases hr : Relation.ranked relations p with
  | nil =>
    rw [hr, List.length_nil] at hlen
    omega
  | cons best rest =>
    refine ⟨_, rfl, ⟨⟨Relation.ranked relations p, Relation.ranked_perm relations p,
      Relation.ranked_pairwise relations p, ?_⟩, Labels.shows_iff.mpr rfl,
      Labels.shows_iff.mpr rfl⟩⟩
    simp [hr]

end PairDecision

namespace DeletionPlan

variable {labels : Labels} {relations : List Relation} {plan plan' : DeletionPlan}

/-- The pairs of the plan that is built. -/
theorem build_pairs (labels : Labels) (relations : List Relation) :
    (build labels relations).groups.map PairDecision.pair =
      (Relation.pairs relations).filter fun p => 1 < (relations.map Relation.pair).count p := by
  rw [← Relation.duplicates_map_fst, build, List.map_filterMap]
  have hsome : ∀ g ∈ Relation.duplicates relations,
      (PairDecision.decide? labels g).map PairDecision.pair = some g.1 := by
    intro g hg
    obtain ⟨hg', hlong⟩ := List.mem_filter.mp hg
    obtain ⟨p, hp, rfl⟩ := List.mem_map.mp hg'
    obtain ⟨d, hd, -⟩ := PairDecision.exists_decide? labels
      (Relation.mem_pairs_iff.mp hp)
    rw [hd, Option.map_some, PairDecision.pair_of_decide? hd]
  rw [List.filterMap_congr hsome]
  simp

/-- The plan that is built is the specified one. -/
theorem build_specified (labels : Labels) (relations : List Relation) :
    (build labels relations).Specified labels relations where
  ascending := by
    rw [build_pairs]
    exact (Relation.pairs_pairwise relations).filter _
  mem_pairs p := by
    rw [build_pairs, List.mem_filter, Relation.mem_pairs_iff, decide_eq_true_eq]
    exact ⟨fun h => h.2, fun h => ⟨List.count_pos_iff.mp (by omega), h⟩⟩
  groups d hd := by
    obtain ⟨g, hg, hgd⟩ := List.mem_filterMap.mp hd
    obtain ⟨p, hp, rfl⟩ := List.mem_map.mp (List.mem_of_mem_filter hg)
    obtain ⟨d', hd', hspec⟩ := PairDecision.exists_decide? labels
      (Relation.mem_pairs_iff.mp hp)
    obtain rfl : d' = d := Option.some.inj (hd'.symm.trans hgd)
    exact hspec
  items := rfl

end DeletionPlan

/-! ## What the specification determines -/

namespace PairDecision.Specified

variable {labels : Labels} {relations relations' : List Relation} {d d' : PairDecision}

/-- All relations of a pair but one are deleted. -/
theorem length_delete (h : d.Specified labels relations) :
    d.delete.length + 1 = (relations.map Relation.pair).count d.pair := by
  obtain ⟨ranking, hperm, -, heq⟩ := h.ranking
  have hlen := congrArg List.length heq
  rw [List.length_cons, List.length_map, hperm.length_eq] at hlen
  rw [hlen, ← Relation.length_placed, Relation.placed]

/-- The best of a pair's relations is kept, and what it outranks is deleted. -/
theorem exists_best (h : d.Specified labels relations) :
    ∃ best rest, (best :: rest).Perm (Relation.placed relations d.pair) ∧
      (∀ b ∈ rest, Relation.Outranks best b) ∧ d.keep = .ofRelation best.1 ∧
      d.delete = rest.map fun b => .ofRelation b.1 := by
  obtain ⟨ranking, hperm, hsorted, heq⟩ := h.ranking
  cases ranking with
  | nil => simp at heq
  | cons best rest =>
    rw [List.map_cons, List.cons.injEq] at heq
    exact ⟨best, rest, hperm, (List.pairwise_cons.mp hsorted).1, heq.1, heq.2⟩

/-- What is kept and what is deleted are the pair's relations. -/
theorem ranking_perm (h : d.Specified labels relations) :
    (d.keep :: d.delete).Perm ((Relation.ofPair relations d.pair).map ScoredRelation.ofRelation) := by
  obtain ⟨ranking, hperm, -, heq⟩ := h.ranking
  have hscored := (hperm.map Prod.fst).map ScoredRelation.ofRelation
  rw [← Relation.placed, Relation.placed_map_fst, List.map_map] at hscored
  rw [heq]
  exact hscored

/-- The ids of what is kept and what is deleted are those of the pair's relations. -/
theorem ids_perm (h : d.Specified labels relations) :
    ((d.keep :: d.delete).map ScoredRelation.id).Perm
      ((Relation.ofPair relations d.pair).map Relation.id) := by
  have hids := h.ranking_perm.map ScoredRelation.id
  rwa [List.map_map] at hids

/-- What is deleted are relations of the pair. -/
theorem exists_of_mem_delete (h : d.Specified labels relations) {id : String}
    (hid : id ∈ d.delete.map ScoredRelation.id) :
    ∃ r ∈ Relation.ofPair relations d.pair, r.id = id :=
  List.mem_map.mp (h.ids_perm.mem_iff.mp (List.mem_cons_of_mem _ hid))

/-- Decisions about a pair show it by the same names, whatever relations they are made from. -/
theorem labels_eq (h : d.Specified labels relations) (h' : d'.Specified labels relations')
    (hpair : d.pair = d'.pair) :
    d.subjectLabel = d'.subjectLabel ∧ d.targetLabel = d'.targetLabel := by
  have hsubject : d.subject = d'.subject := congrArg Prod.fst hpair
  have htarget : d.target = d'.target := congrArg Prod.snd hpair
  constructor
  · rw [← Labels.shows_iff.mp h.subjectLabel, hsubject, Labels.shows_iff.mp h'.subjectLabel]
  · rw [← Labels.shows_iff.mp h.targetLabel, htarget, Labels.shows_iff.mp h'.targetLabel]

/-- A decision about a pair is settled by what it tells about the pair's relations. -/
theorem eq_of_ranking_eq (h : d.Specified labels relations) (h' : d'.Specified labels relations')
    (hpair : d.pair = d'.pair) (hranking : d.keep :: d.delete = d'.keep :: d'.delete) : d = d' := by
  obtain ⟨hsubjectLabel, htargetLabel⟩ := h.labels_eq h' hpair
  obtain ⟨hsubject, htarget⟩ := Prod.mk.inj hpair
  obtain ⟨hkeep, hdelete⟩ := List.cons.inj hranking
  -- Pair, names and ranking are all the fields that there are.
  cases d
  cases d'
  simp_all

/-- There is one decision about a pair. -/
theorem unique (h : d.Specified labels relations) (h' : d'.Specified labels relations)
    (hpair : d.pair = d'.pair) : d = d' := by
  obtain ⟨ranking, hperm, hsorted, heq⟩ := h.ranking
  obtain ⟨ranking', hperm', hsorted', heq'⟩ := h'.ranking
  -- The order being strict, a list has no second arrangement in that order.
  have hsame : ranking = ranking' :=
    List.Perm.eq_of_pairwise (fun _ _ _ _ hab hba => (hab.asymm hba).elim) hsorted hsorted'
      (hperm.trans (hpair ▸ hperm'.symm))
  exact h.eq_of_ranking_eq h' hpair (by rw [heq, heq', hsame])

end PairDecision.Specified

namespace DeletionPlan.Specified

variable {labels : Labels} {relations relations' : List Relation} {plan plan' : DeletionPlan}

/-- No pair is decided twice. -/
theorem nodup_pairs (h : plan.Specified labels relations) :
    (plan.groups.map PairDecision.pair).Nodup :=
  Relation.nodup_of_pairPrecedes h.ascending

/-- Plans of relations that carry every pair equally often decide about the same pairs, one by one in
the same order. -/
theorem forall₂_groups (h : plan.Specified labels relations) (h' : plan'.Specified labels relations')
    (hcount : ∀ p, (relations.map Relation.pair).count p = (relations'.map Relation.pair).count p) :
    List.Forall₂ (fun d d' : PairDecision =>
      d.Specified labels relations ∧ d'.Specified labels relations' ∧ d.pair = d'.pair)
      plan.groups plan'.groups := by
  have hpairs : plan.groups.map PairDecision.pair = plan'.groups.map PairDecision.pair :=
    Relation.eq_of_pairPrecedes h.ascending h'.ascending fun p => by
      rw [h.mem_pairs, h'.mem_pairs, hcount]
  have hlen : plan.groups.length = plan'.groups.length := by
    simpa using congrArg List.length hpairs
  refine List.forall₂_iff_get.mpr ⟨hlen, fun i hi hi' => ?_⟩
  have hget := congrArg (fun l => l[i]?) hpairs
  refine ⟨h.groups _ (List.get_mem _ _), h'.groups _ (List.get_mem _ _), ?_⟩
  simpa [hi, hi'] using hget

/-- A plan is settled by its decisions. -/
theorem eq_of_groups_eq (h : plan.Specified labels relations)
    (h' : plan'.Specified labels relations') (hgroups : plan.groups = plan'.groups) :
    plan = plan' := by
  have hitems : plan.items = plan'.items := by
    rw [h.items, h'.items, hgroups]
  cases plan
  cases plan'
  simp_all

/-- There is one plan. -/
theorem unique (h : plan.Specified labels relations) (h' : plan'.Specified labels relations) :
    plan = plan' := by
  have hgroups : List.Forall₂ Eq plan.groups plan'.groups :=
    (h.forall₂_groups h' fun _ => rfl).imp fun _ _ ⟨hd, hd', hpair⟩ => hd.unique hd' hpair
  exact h.eq_of_groups_eq h' (List.forall₂_eq_eq_eq ▸ hgroups)

/-- A list with two different members has at least two. -/
theorem two_le_length_of_ne {α : Type} {l : List α} {a b : α} (ha : a ∈ l) (hb : b ∈ l)
    (hne : a ≠ b) : 2 ≤ l.length := by
  rcases l with _ | ⟨x, _ | ⟨y, rest⟩⟩
  · simp at ha
  · rw [List.mem_singleton] at ha hb
    exact absurd (ha.trans hb.symm) hne
  · simp

/-- A relation is planned for deletion exactly when another relation of its pair outranks it. -/
theorem mem_ids_iff (h : plan.Specified labels relations) {id : String} :
    id ∈ plan.items.map PlanItem.id ↔ Relation.Outclassed relations id := by
  have hids : id ∈ plan.items.map PlanItem.id ↔ ∃ d ∈ plan.groups, ∃ r ∈ d.delete, r.id = id := by
    simp only [h.items, List.map_flatMap, List.map_map, List.mem_flatMap, List.mem_map,
      Function.comp_apply]
  rw [hids]
  constructor
  · rintro ⟨d, hd, r, hr, rfl⟩
    obtain ⟨best, rest, hperm, hbest, -, hdelete⟩ := (h.groups d hd).exists_best
    rw [hdelete] at hr
    obtain ⟨b, hb, rfl⟩ := List.mem_map.mp hr
    have hbest' := Relation.mem_placed_iff.mp (hperm.mem_iff.mp List.mem_cons_self)
    have hb' := Relation.mem_placed_iff.mp (hperm.mem_iff.mp (List.mem_cons_of_mem best hb))
    exact ⟨best, hbest'.1, b, hb'.1, hbest'.2.trans hb'.2.symm, hbest b hb, rfl⟩
  · rintro ⟨a, ha, b, hb, hpair, hab, rfl⟩
    have hne : a ≠ b := by
      rintro rfl
      exact hab.asymm hab
    have ha' := Relation.mem_placed_iff.mpr ⟨ha, hpair⟩
    have hb' := Relation.mem_placed_iff.mpr ⟨hb, rfl⟩
    have hcount : 2 ≤ (relations.map Relation.pair).count b.1.pair := by
      rw [← Relation.length_placed]
      exact two_le_length_of_ne ha' hb' hne
    obtain ⟨d, hd, hdpair⟩ := List.mem_map.mp ((h.mem_pairs _).mpr hcount)
    obtain ⟨best, rest, hperm, hbest, -, hdelete⟩ := (h.groups d hd).exists_best
    rw [hdpair] at hperm
    -- The best relation is outranked by none, so `b` is not the one that is kept.
    have hrest : b ∈ rest := by
      rcases List.mem_cons.mp (hperm.mem_iff.mpr hb') with rfl | hrest
      · have hmem := (List.mem_cons.mp (hperm.mem_iff.mpr ha')).resolve_left hne
        exact (hab.asymm (hbest a hmem)).elim
      · exact hrest
    refine ⟨d, hd, .ofRelation b.1, ?_, rfl⟩
    rw [hdelete]
    exact List.mem_map_of_mem hrest

/-- The ids that are planned for deletion are different if those of the relations are. -/
theorem nodup_ids (h : plan.Specified labels relations) (hids : (relations.map Relation.id).Nodup) :
    (plan.items.map PlanItem.id).Nodup := by
  have heq : plan.items.map PlanItem.id =
      plan.groups.flatMap fun d => d.delete.map ScoredRelation.id := by
    simp only [h.items, List.map_flatMap, List.map_map, Function.comp_def]
  rw [heq, List.nodup_flatMap]
  constructor
  · intro d hd
    have hall : ((Relation.ofPair relations d.pair).map Relation.id).Nodup :=
      hids.sublist (List.filter_sublist.map _)
    rw [← (h.groups d hd).ids_perm.nodup_iff] at hall
    exact (List.nodup_cons.mp hall).2
  · -- An id in two decisions would be that of one relation, which has only one pair.
    refine (List.pairwise_map.mp h.nodup_pairs).imp_of_mem fun {d d'} hd hd' hne => ?_
    rw [Function.onFun, List.disjoint_left]
    intro id hid hid'
    obtain ⟨r, hr, hrid⟩ := (h.groups d hd).exists_of_mem_delete hid
    obtain ⟨r', hr', hrid'⟩ := (h.groups d' hd').exists_of_mem_delete hid'
    simp only [Relation.ofPair, List.mem_filter, beq_iff_eq] at hr hr'
    obtain rfl := List.inj_on_of_nodup_map hids hr.1 hr'.1 (hrid.trans hrid'.symm)
    exact hne (hr.2.symm.trans hr'.2)

/-- As many relations are planned for deletion as there are more relations than pairs. -/
theorem length_items (h : plan.Specified labels relations) :
    plan.items.length + (relations.map Relation.pair).toFinset.card = relations.length := by
  let count p := (relations.map Relation.pair).count p
  have hitems : plan.items.length =
      ∑ p ∈ (plan.groups.map PairDecision.pair).toFinset, (count p - 1) := by
    rw [List.sum_toFinset _ h.nodup_pairs, List.map_map, h.items, List.length_flatMap]
    refine congrArg List.sum (List.map_congr_left fun d hd => ?_)
    rw [List.length_map]
    exact Nat.eq_sub_of_add_eq (h.groups d hd).length_delete
  -- A pair that is not decided has one relation and adds nothing.
  have hall : ∑ p ∈ (plan.groups.map PairDecision.pair).toFinset, (count p - 1) =
      ∑ p ∈ (relations.map Relation.pair).toFinset, (count p - 1) := by
    refine Finset.sum_subset (fun p hp => ?_) fun p _ hp => ?_
    · rw [List.mem_toFinset, h.mem_pairs] at hp
      exact List.mem_toFinset.mpr (List.count_pos_iff.mp (by omega))
    · rw [List.mem_toFinset, h.mem_pairs] at hp
      simp only [count]
      omega
  have hone : ∀ p ∈ (relations.map Relation.pair).toFinset, count p - 1 + 1 = count p :=
    fun p hp => Nat.sub_add_cancel (List.count_pos_iff.mpr (List.mem_toFinset.mp hp))
  calc plan.items.length + (relations.map Relation.pair).toFinset.card
      = ∑ p ∈ (relations.map Relation.pair).toFinset, (count p - 1) +
          ∑ p ∈ (relations.map Relation.pair).toFinset, 1 := by
        rw [hitems, hall, Finset.card_eq_sum_ones]
    _ = ∑ p ∈ (relations.map Relation.pair).toFinset, (count p - 1 + 1) :=
        Finset.sum_add_distrib.symm
    _ = ∑ p ∈ (relations.map Relation.pair).toFinset, count p := Finset.sum_congr rfl hone
    _ = relations.length := Relation.sum_count_pairs relations

/-- Nothing is planned exactly when all pairs are different. -/
theorem isEmpty_iff (h : plan.Specified labels relations) :
    plan.isEmpty = true ↔ (relations.map Relation.pair).Nodup := by
  have hlen := h.length_items
  -- There are as many pairs as relations exactly when no pair is repeated.
  have hdedup := List.card_toFinset (relations.map Relation.pair)
  rw [isEmpty, List.isEmpty_iff, ← List.dedup_eq_self]
  constructor
  · intro hnil
    rw [hnil, List.length_nil] at hlen
    refine (List.dedup_sublist _).eq_of_length ?_
    rw [← hdedup, List.length_map]
    omega
  · intro hself
    rw [hself, List.length_map] at hdedup
    exact List.eq_nil_of_length_eq_zero (by omega)

end DeletionPlan.Specified

/-! ## What a plan spares -/

/-- What is kept of a pair is what its leading relation says. -/
theorem PairDecision.Specified.keep_leads {labels : Labels} {relations : List Relation}
    {d : PairDecision} (h : d.Specified labels relations) :
    ∃ a, Relation.Leads relations a ∧ a.1.pair = d.pair ∧ d.keep = .ofRelation a.1 := by
  obtain ⟨best, rest, hperm, hbest, hkeep, -⟩ := h.exists_best
  obtain ⟨hmem, hpair⟩ := Relation.mem_placed_iff.mp (hperm.mem_iff.mp List.mem_cons_self)
  refine ⟨best, ⟨hmem, fun b hb hbpair hne => ?_⟩, hpair, hkeep⟩
  have hb' := hperm.mem_iff.mpr (Relation.mem_placed_iff.mpr ⟨hb, hbpair.trans hpair⟩)
  exact hbest b ((List.mem_cons.mp hb').resolve_left hne)

namespace DeletionPlan

/-- The relations whose ids a plan does not list for deletion. -/
def spared (plan : DeletionPlan) (relations : List Relation) : List Relation :=
  relations.filter fun r => r.id ∉ plan.items.map PlanItem.id

namespace Specified

variable {labels : Labels} {relations : List Relation} {plan : DeletionPlan}

/-- The leading relation of a pair is spared. -/
theorem mem_spared_of_leads (h : plan.Specified labels relations)
    (hids : (relations.map Relation.id).Nodup) {a : Relation × ℕ}
    (ha : Relation.Leads relations a) : a.1 ∈ plan.spared relations := by
  refine List.mem_filter.mpr ⟨List.fst_mem_of_mem_zipIdx ha.1, decide_eq_true fun hplanned => ?_⟩
  exact ha.not_outclassed hids (h.mem_ids_iff.mp hplanned)

/-- No two relations of a pair are spared. -/
theorem nodup_pairs_spared (h : plan.Specified labels relations) :
    ((plan.spared relations).map Relation.pair).Nodup := by
  rw [List.Nodup, List.pairwise_map, spared, List.pairwise_filter, ← List.zipIdx_map_fst 0 relations,
    List.pairwise_map]
  -- Of two relations of a pair one outranks the other, and the plan lists that other one.
  refine (Relation.zipIdx_pairwise_lt relations).imp_of_mem fun {a b} ha hb hlt => ?_
  simp only [decide_eq_true_eq]
  intro hspared_a hspared_b hpair
  rcases Relation.outranks_or_outranks hlt.ne with hab | hba
  · exact hspared_b (h.mem_ids_iff.mpr ⟨a, ha, b, hb, hpair, hab, rfl⟩)
  · exact hspared_a (h.mem_ids_iff.mpr ⟨b, hb, a, ha, hpair.symm, hba, rfl⟩)

/-- The leading relation of a pair is the only one of the pair that is spared. -/
theorem ofPair_spared (h : plan.Specified labels relations)
    (hids : (relations.map Relation.id).Nodup) {a : Relation × ℕ}
    (ha : Relation.Leads relations a) :
    Relation.ofPair (plan.spared relations) a.1.pair = [a.1] := by
  have hmem : a.1 ∈ Relation.ofPair (plan.spared relations) a.1.pair :=
    List.mem_filter.mpr ⟨h.mem_spared_of_leads hids ha, by simp⟩
  have hcount := List.nodup_iff_count_le_one.mp h.nodup_pairs_spared a.1.pair
  rw [← Relation.length_placed, ← List.length_map (f := Prod.fst), Relation.placed_map_fst] at hcount
  rcases hl : Relation.ofPair (plan.spared relations) a.1.pair with _ | ⟨r, _ | ⟨r', rest⟩⟩
  · simp [hl] at hmem
  · rw [hl, List.mem_singleton] at hmem
    rw [hmem]
  · simp [hl] at hcount

end Specified

end DeletionPlan

/-- Relations of different pairs have no duplicates. -/
theorem Relation.duplicateCount_eq_zero {relations : List Relation}
    (h : (relations.map pair).Nodup) : duplicateCount relations = 0 := by
  rw [duplicateCount, ← List.length_map (f := Prod.fst), duplicates_map_fst,
    List.length_eq_zero_iff, List.filter_eq_nil_iff]
  intro p _
  have hcount := List.nodup_iff_count_le_one.mp h p
  rw [decide_eq_true_eq]
  omega

/-! ## Planning -/

/-- What planning gives is the specified plan. -/
theorem DeletionPlan.specified_of_make {labels : Labels} {relations : List Relation}
    {plan : DeletionPlan} (h : make labels relations = .ok plan) :
    plan.Specified labels relations := by
  obtain ⟨-, rfl⟩ := make_eq_ok_iff.mp h
  exact build_specified labels relations

/-- Planning over relations with well-formed ids gives the specified plan, of which there is only one;
it lists as many relations for deletion as there are more relations than pairs, and none exactly when
all pairs are different. -/
theorem DeletionPlan.make_specified (labels : Labels) (relations : List Relation)
    (h : ∀ r ∈ relations, r.WellFormed) :
    ∃ plan, make labels relations = .ok plan ∧ plan.Specified labels relations ∧
      (∀ plan' : DeletionPlan, plan'.Specified labels relations → plan' = plan) ∧
      plan.items.length + (relations.map Relation.pair).toFinset.card = relations.length ∧
      (plan.isEmpty = true ↔ (relations.map Relation.pair).Nodup) := by
  have hspec := build_specified labels relations
  exact ⟨build labels relations, make_eq_ok_iff.mpr ⟨h, rfl⟩, hspec,
    fun _ hspec' => hspec'.unique hspec, hspec.length_items, hspec.isEmpty_iff⟩

/-- Planning over two pairs whose relations are interleaved, with a missing time, a full tie and notes
that say nothing. -/
theorem DeletionPlan.make_specified_interleaved :
    let labels : Labels := ⟨[("skater:ito", "Ito, Kei"), ("skater:ito", "Ito, K.")], []⟩
    let relations : List Relation :=
      [⟨"competed_in:1", "skater:ito", "event:pony_3", none, none, none, none, some "NONE", none,
          some "2001-01-02"⟩,
        ⟨"competed_in:2", "skater:doe", "event:pony_3", none, none, none, none, none, none, none⟩,
        ⟨"competed_in:3", "skater:ito", "event:pony_3", none, none, none, none, none, none,
          some "2001-01-02"⟩,
        ⟨"competed_in:4", "skater:doe", "event:pony_3", none, none, none, none, some "prints", none,
          some "2001-01-03"⟩,
        ⟨"competed_in:5", "skater:doe", "event:pony_4", none, none, none, none, none, none, none⟩]
    (∀ r ∈ relations, r.WellFormed) ∧
      ∃ plan, make labels relations = .ok plan ∧ plan.Specified labels relations ∧
        (∀ plan' : DeletionPlan, plan'.Specified labels relations → plan' = plan) ∧
        plan.items.length + (relations.map Relation.pair).toFinset.card = relations.length ∧
        (plan.isEmpty = true ↔ (relations.map Relation.pair).Nodup) := by
  intro labels relations
  have h : ∀ r ∈ relations, r.WellFormed := Relation.forM_checkIds_eq_ok_iff.mp (by rfl)
  exact ⟨h, make_specified labels relations h⟩

end SkaterLedger
