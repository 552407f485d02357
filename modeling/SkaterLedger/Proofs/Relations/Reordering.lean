import Mathlib.Data.List.Forall2
import SkaterLedger.Proofs.Relations.Plan

/-!
# Plans and the order of their input

The order in which relations are loaded decides between relations of a pair that have the same score
and were made at the same time, and nothing else. Plans of the same relations in two orders decide
about the same pairs, and the decisions are alike: they differ at most in which of such relations
stands where (`PairDecision.Specified.alike`). Where no two different relations of a pair agree in
score and time, the plans are the same (`DeletionPlan.make_reordered`).

What a decision tells about a pair is the same up to rearrangement in both orders, and sorted by
score and time in both. Sorted rearrangements of each other agree in what they are sorted by.
-/

namespace SkaterLedger

/-- What a relation is ranked by before its position counts: its score and when it was made. -/
def ScoredRelation.standing (r : ScoredRelation) : ℕ × String := (r.score, r.createdKey)

/-- A standing is not worse than another one: the score is higher, or the same and the time not
later. -/
def NotWorse (s t : ℕ × String) : Prop := t.1 < s.1 ∨ s.1 = t.1 ∧ ¬ t.2 < s.2

/-- Two decisions show the same pair by the same names, keep a relation of the same score and time,
and delete as many relations. -/
structure PairDecision.Alike (d d' : PairDecision) : Prop where
  /-- The skater is the same. -/
  subject : d.subject = d'.subject
  /-- The event is the same. -/
  target : d.target = d'.target
  /-- The skater has the same name. -/
  subjectLabel : d.subjectLabel = d'.subjectLabel
  /-- The event has the same name. -/
  targetLabel : d.targetLabel = d'.targetLabel
  /-- What is kept is as complete. -/
  keepScore : d.keep.score = d'.keep.score
  /-- What is kept was made at the same time, as texts go; a missing time is the empty text. -/
  keepCreated : d.keep.createdKey = d'.keep.createdKey
  /-- As many relations are deleted. -/
  deletions : d.delete.length = d'.delete.length

/-- No two different relations of a pair have the same score and were made at the same time. -/
def Relation.Untied (relations : List Relation) : Prop :=
  ∀ r ∈ relations, ∀ t ∈ relations, r.pair = t.pair → r.score = t.score →
    r.createdKey = t.createdKey → r = t

/-- Standings none of which is worse than the other are the same. -/
theorem NotWorse.antisymm {s t : ℕ × String} (hst : NotWorse s t) (hts : NotWorse t s) : s = t := by
  rcases hst with hst | ⟨hscore, hkey⟩
  · rcases hts with hts | ⟨hscore, -⟩ <;> omega
  · rcases hts with hts | ⟨-, hkey'⟩
    · omega
    · exact Prod.ext hscore (le_antisymm (not_lt.mp hkey) (not_lt.mp hkey'))

namespace PairDecision.Specified

variable {labels : Labels} {relations relations' : List Relation} {d d' : PairDecision}

/-- What a decision tells is sorted by standing. -/
theorem pairwise_notWorse (h : d.Specified labels relations) :
    (d.keep :: d.delete).Pairwise fun a b => NotWorse a.standing b.standing := by
  obtain ⟨ranking, -, hsorted, heq⟩ := h.ranking
  rw [heq, List.pairwise_map]
  exact hsorted.imp fun hab => Relation.ranksBefore_iff.mp (Relation.outranks_iff.mp hab).1

/-- Decisions about a pair in two orders of the input tell the same relations. -/
theorem perm_of_perm (h : d.Specified labels relations) (h' : d'.Specified labels relations')
    (hperm : relations.Perm relations') (hpair : d.pair = d'.pair) :
    (d.keep :: d.delete).Perm (d'.keep :: d'.delete) := by
  have hofPair : (Relation.ofPair relations d.pair).Perm (Relation.ofPair relations' d.pair) :=
    hperm.filter _
  rw [hpair] at hofPair
  exact (hpair ▸ h.ranking_perm).trans ((hofPair.map _).trans h'.ranking_perm.symm)

/-- Decisions about a pair in two orders of the input are alike. -/
theorem alike (h : d.Specified labels relations) (h' : d'.Specified labels relations')
    (hperm : relations.Perm relations') (hpair : d.pair = d'.pair) : d.Alike d' := by
  -- Both are sorted, and rearrangements of each other; of standings there is one such list.
  have hstandings : (d.keep :: d.delete).map ScoredRelation.standing =
      (d'.keep :: d'.delete).map ScoredRelation.standing :=
    List.Perm.eq_of_pairwise (fun _ _ _ _ hst hts => hst.antisymm hts)
      (List.pairwise_map.mpr h.pairwise_notWorse) (List.pairwise_map.mpr h'.pairwise_notWorse)
      ((h.perm_of_perm h' hperm hpair).map _)
  obtain ⟨hkeep, hdelete⟩ := List.cons.inj hstandings
  obtain ⟨hsubjectLabel, htargetLabel⟩ := h.labels_eq h' hpair
  exact {
    subject := congrArg Prod.fst hpair
    target := congrArg Prod.snd hpair
    subjectLabel := hsubjectLabel
    targetLabel := htargetLabel
    keepScore := congrArg Prod.fst hkeep
    keepCreated := congrArg Prod.snd hkeep
    deletions := by simpa using congrArg List.length hdelete }

/-- Without ties the decisions about a pair in two orders of the input are the same. -/
theorem eq_of_untied (h : d.Specified labels relations) (h' : d'.Specified labels relations')
    (hperm : relations.Perm relations') (hpair : d.pair = d'.pair)
    (huntied : Relation.Untied relations) : d = d' := by
  have hranking : (d.keep :: d.delete).Perm (d'.keep :: d'.delete) :=
    h.perm_of_perm h' hperm hpair
  -- Whatever a decision tells is told of a relation of the pair.
  have hfrom : ∀ a ∈ d.keep :: d.delete, ∃ r ∈ relations, r.pair = d.pair ∧ .ofRelation r = a := by
    intro a ha
    obtain ⟨r, hr, rfl⟩ := List.mem_map.mp (h.ranking_perm.mem_iff.mp ha)
    obtain ⟨hmem, hpair⟩ := List.mem_filter.mp hr
    exact ⟨r, hmem, beq_iff_eq.mp hpair, rfl⟩
  -- What is told of equal standing is the same, so that sorted rearrangements are equal here too.
  refine h.eq_of_ranking_eq h' hpair (List.Perm.eq_of_pairwise ?_ h.pairwise_notWorse
    h'.pairwise_notWorse hranking)
  intro a b ha hb hab hba
  obtain ⟨r, hr, hrpair, rfl⟩ := hfrom a ha
  obtain ⟨t, ht, htpair, rfl⟩ := hfrom b (hranking.mem_iff.mpr hb)
  obtain ⟨hscore, hkey⟩ := Prod.mk.inj (hab.antisymm hba)
  rw [huntied r hr t ht (hrpair.trans htpair.symm) hscore hkey]

end PairDecision.Specified

namespace DeletionPlan

/-- Planning over relations with well-formed ids succeeds in whatever order they come. In any two
orders the plans decide about the same pairs in the same order and the decisions are alike; if no
two different relations of a pair agree in score and time, the plans are the same, decisions and
items. -/
theorem make_reordered (labels : Labels) {relations relations' : List Relation}
    (hformed : ∀ r ∈ relations, r.WellFormed) (hperm : relations.Perm relations') :
    ∃ plan plan', make labels relations = .ok plan ∧ make labels relations' = .ok plan' ∧
      List.Forall₂ PairDecision.Alike plan.groups plan'.groups ∧
      (Relation.Untied relations → plan = plan') := by
  have hformed' : ∀ r ∈ relations', r.WellFormed := fun r hr => hformed r (hperm.mem_iff.mpr hr)
  have hspec := build_specified labels relations
  have hspec' := build_specified labels relations'
  have hgroups := hspec.forall₂_groups hspec' fun p => (hperm.map Relation.pair).count_eq p
  refine ⟨_, _, make_eq_ok_iff.mpr ⟨hformed, rfl⟩, make_eq_ok_iff.mpr ⟨hformed', rfl⟩, ?_, ?_⟩
  · exact hgroups.imp fun d d' ⟨hd, hd', hpair⟩ => hd.alike hd' hperm hpair
  · intro huntied
    have hsame : List.Forall₂ Eq (build labels relations).groups (build labels relations').groups :=
      hgroups.imp fun d d' ⟨hd, hd', hpair⟩ => hd.eq_of_untied hd' hperm hpair huntied
    exact hspec.eq_of_groups_eq hspec' (List.forall₂_eq_eq_eq ▸ hsame)

/-- Two pairs loaded forwards and backwards, the first with notes that say nothing, a missing time
and equal times at different scores: nothing is tied. -/
theorem make_reordered_reversed :
    let relations : List Relation :=
      [⟨"competed_in:1", "skater:ito", "event:pony_3", none, none, none, none, some "NONE", none,
          some "2001-01-02"⟩,
        ⟨"competed_in:2", "skater:doe", "event:pony_3", none, none, none, none, none, none, none⟩,
        ⟨"competed_in:3", "skater:ito", "event:pony_3", none, none, none, none, none, none, none⟩,
        ⟨"competed_in:4", "skater:doe", "event:pony_3", none, none, none, none, some "prints", none,
          some "2001-01-02"⟩,
        ⟨"competed_in:5", "skater:ito", "event:pony_3", none, none, none, none, some "prints", none,
          some "2001-01-02"⟩]
    (∀ r ∈ relations, r.WellFormed) ∧ relations.Perm relations.reverse ∧
      Relation.Untied relations ∧
      ∃ plan plan', make .empty relations = .ok plan ∧
        make .empty relations.reverse = .ok plan' ∧
        List.Forall₂ PairDecision.Alike plan.groups plan'.groups ∧ plan = plan' := by
  intro relations
  have hformed : ∀ r ∈ relations, r.WellFormed := Relation.forM_checkIds_eq_ok_iff.mp (by rfl)
  have hperm : relations.Perm relations.reverse := (List.reverse_perm relations).symm
  have huntied : Relation.Untied relations := by
    unfold Relation.Untied
    decide
  obtain ⟨plan, plan', hplan, hplan', halike, hsame⟩ := make_reordered .empty hformed hperm
  exact ⟨hformed, hperm, huntied, plan, plan', hplan, hplan', halike, hsame huntied⟩

end DeletionPlan

end SkaterLedger
