import SkaterLedger.Proofs.Relations.Plan

/-!
# Reasons for deletions

A plan says of each relation that it lists why another one of the pair is kept. The reason is chosen
by comparing scores and then times, and the last one, the order of the input, is given whenever
neither comparison decides. That it never covers up a relation that should have been kept is due to
the ranking: whatever is deleted is outranked by what is kept, so that where the last reason is
given scores and times agree and the deleted relation comes later (`PairDecision.item_justified`).
-/

namespace SkaterLedger

open Text (Precedes precedes_iff_lt)

/-- An item lists a relation for deletion because another one is kept, and its reason is true. Both
relations are given with their positions in the input. -/
structure PlanItem.Justified (item : PlanItem) (kept deleted : Relation × ℕ) : Prop where
  /-- The item is about the deleted relation. -/
  id : item.id = deleted.1.id
  /-- It says that the relation is less complete exactly if it is. -/
  lowerScore : item.reason = "Lower data completeness score (" ++ toString deleted.1.score ++
      "/8 vs " ++ toString kept.1.score ++ "/8)" ↔
    deleted.1.score < kept.1.score
  /-- It says that the relation is as complete and younger exactly if it is. -/
  createdLater : item.reason = "Equal data completeness score (" ++ toString deleted.1.score ++
      "/8), created after kept record" ↔
    deleted.1.score = kept.1.score ∧ Precedes kept.1.createdKey deleted.1.createdKey
  /-- It says that the order of the input decides exactly if scores and times agree. -/
  inputOrder : item.reason = "Equal data completeness score (" ++ toString deleted.1.score ++
      "/8), identical score and timestamp, input order" ↔
    deleted.1.score = kept.1.score ∧ deleted.1.createdKey = kept.1.createdKey
  /-- In that case the relation comes later in the input. -/
  later : deleted.1.score = kept.1.score → deleted.1.createdKey = kept.1.createdKey →
    kept.2 < deleted.2
  /-- What is told as a part of eight is no more than that. -/
  bounded : deleted.1.score ≤ 8 ∧ kept.1.score ≤ 8
  /-- There is no other case: the relation is not more complete, nor as complete and older. -/
  cases : deleted.1.score < kept.1.score ∨ deleted.1.score = kept.1.score ∧
    (Precedes kept.1.createdKey deleted.1.createdKey ∨
      deleted.1.createdKey = kept.1.createdKey)

namespace DeletionReason

/-! ## What reasons say -/

/-- A score out of the highest one. -/
theorem outOf_eq (score : ℕ) : outOf score = toString score ++ "/8" := by
  have hmax : toString Relation.maxScore = "8" := by decide
  rw [outOf, hmax, String.append_assoc]
  rfl

/-- How a lower score is told. -/
theorem text_lowerScore (deleted kept : ℕ) :
    (lowerScore deleted kept).text = "Lower data completeness score (" ++ toString deleted ++
      "/8 vs " ++ toString kept ++ "/8)" := by
  -- The texts are cut in front of the highest score here and behind it in the definition.
  have hvs : "/8 vs " = "/8" ++ " vs " := by decide
  have hclose : "/8)" = "/8" ++ ")" := by decide
  unfold text
  simp only [outOf_eq, hvs, hclose, String.append_assoc]

/-- How a later time is told. -/
theorem text_createdLater (score : ℕ) :
    (createdLater score).text = "Equal data completeness score (" ++ toString score ++
      "/8), created after kept record" := by
  have hclose : "/8), created after kept record" = "/8" ++ "), created after kept record" := by
    decide
  unfold text
  simp only [outOf_eq, hclose, String.append_assoc]

/-- How the order of the input is told. -/
theorem text_inputOrder (score : ℕ) :
    (inputOrder score).text = "Equal data completeness score (" ++ toString score ++
      "/8), identical score and timestamp, input order" := by
  have hclose : "/8), identical score and timestamp, input order" =
      "/8" ++ "), identical score and timestamp, input order" := by decide
  unfold text
  simp only [outOf_eq, hclose, String.append_assoc]

/-- Texts are different if their beginnings are, these being equally long. -/
theorem append_ne_append {a b c d : String} (hlen : a.toList.length = c.toList.length)
    (hne : a ≠ c) : a ++ b ≠ c ++ d := by
  intro h
  rw [← String.toList_inj, String.toList_append, String.toList_append] at h
  exact hne (String.toList_inj.mp (List.append_inj_left h hlen))

/-- A text that tells a lower score does not begin as one that tells an equal score. -/
theorem text_lowerScore_ne (deleted kept : ℕ) (rest : String) :
    (lowerScore deleted kept).text ≠ "Equal data completeness score (" ++ rest := by
  rw [text_lowerScore, String.append_assoc, String.append_assoc, String.append_assoc]
  exact append_ne_append (by decide) (by decide)

/-- A lower score is told in other words than a later time. -/
theorem text_lowerScore_ne_createdLater (deleted kept score : ℕ) :
    (lowerScore deleted kept).text ≠ (createdLater score).text := by
  rw [text_createdLater, String.append_assoc]
  exact text_lowerScore_ne deleted kept _

/-- A lower score is told in other words than the order of the input. -/
theorem text_lowerScore_ne_inputOrder (deleted kept score : ℕ) :
    (lowerScore deleted kept).text ≠ (inputOrder score).text := by
  rw [text_inputOrder, String.append_assoc]
  exact text_lowerScore_ne deleted kept _

/-- A later time is told in other words than the order of the input. -/
theorem text_createdLater_ne_inputOrder (score : ℕ) :
    (createdLater score).text ≠ (inputOrder score).text := by
  rw [text_createdLater, text_inputOrder, ne_eq, String.append_right_inj]
  decide

/-! ## When they say it -/

variable {d k : ScoredRelation}

/-- A lower score is told exactly if the score is lower. -/
theorem text_between_eq_lowerScore_iff :
    (between d k).text = (lowerScore d.score k.score).text ↔ d.score < k.score := by
  unfold between
  split_ifs with hscore hkey
  · exact iff_of_true rfl hscore
  · exact iff_of_false (text_lowerScore_ne_createdLater _ _ _).symm hscore
  · exact iff_of_false (text_lowerScore_ne_inputOrder _ _ _).symm hscore

/-- A later time is told exactly if the score is not lower and the time later. -/
theorem text_between_eq_createdLater_iff :
    (between d k).text = (createdLater d.score).text ↔
      ¬ d.score < k.score ∧ k.createdKey < d.createdKey := by
  unfold between
  split_ifs with hscore hkey
  · exact iff_of_false (text_lowerScore_ne_createdLater _ _ _) fun h => h.1 hscore
  · exact iff_of_true rfl ⟨hscore, hkey⟩
  · exact iff_of_false (text_createdLater_ne_inputOrder _).symm fun h => hkey h.2

/-- The order of the input is told in all other cases, an older relation included. -/
theorem text_between_eq_inputOrder_iff :
    (between d k).text = (inputOrder d.score).text ↔
      ¬ d.score < k.score ∧ ¬ k.createdKey < d.createdKey := by
  unfold between
  split_ifs with hscore hkey
  · exact iff_of_false (text_lowerScore_ne_inputOrder _ _ _) fun h => h.1 hscore
  · exact iff_of_false (text_createdLater_ne_inputOrder _) fun h => h.2 hkey
  · exact iff_of_true rfl ⟨hscore, hkey⟩

end DeletionReason

/-! ## Reasons in plans -/

/-- The item of a relation that is outranked by what its pair keeps gives a true reason. -/
theorem PairDecision.item_justified {d : PairDecision} {kept deleted : Relation × ℕ}
    (hkeep : d.keep = .ofRelation kept.1) (hout : Relation.Outranks kept deleted) :
    (d.item (.ofRelation deleted.1)).Justified kept deleted := by
  have hreason : (d.item (.ofRelation deleted.1)).reason =
      (DeletionReason.between (.ofRelation deleted.1) (.ofRelation kept.1)).text := by
    rw [← hkeep]
    rfl
  have hcases : deleted.1.score < kept.1.score ∨ deleted.1.score = kept.1.score ∧
      (kept.1.createdKey < deleted.1.createdKey ∨
        deleted.1.createdKey = kept.1.createdKey ∧ kept.2 < deleted.2) := by
    simpa only [Relation.Outranks, precedes_iff_lt, eq_comm] using hout
  -- What the reason only sees not to be lower, or later, is in fact the same.
  have hscore : ¬ deleted.1.score < kept.1.score ↔ deleted.1.score = kept.1.score := by omega
  have hkey (heq : deleted.1.score = kept.1.score) :
      ¬ kept.1.createdKey < deleted.1.createdKey ↔
        deleted.1.createdKey = kept.1.createdKey := by
    obtain ⟨-, hlater | ⟨hsame, -⟩⟩ := hcases.resolve_left heq.not_lt
    · exact iff_of_false (not_not.mpr hlater) hlater.ne'
    · exact iff_of_true hsame.not_gt hsame
  exact {
    id := rfl
    lowerScore := by
      rw [hreason, ← DeletionReason.text_lowerScore]
      exact DeletionReason.text_between_eq_lowerScore_iff
    createdLater := by
      rw [hreason, ← DeletionReason.text_createdLater, precedes_iff_lt]
      exact DeletionReason.text_between_eq_createdLater_iff.trans (and_congr_left' hscore)
    inputOrder := by
      rw [hreason, ← DeletionReason.text_inputOrder]
      exact DeletionReason.text_between_eq_inputOrder_iff.trans
        ((and_congr_left' hscore).trans (and_congr_right hkey))
    later := fun heq hsame => by
      obtain ⟨-, hlater | ⟨-, hpos⟩⟩ := hcases.resolve_left heq.not_lt
      · exact absurd hsame hlater.ne'
      · exact hpos
    bounded := ⟨Relation.score_le_maxScore _, Relation.score_le_maxScore _⟩
    cases := by
      obtain hlower | ⟨heq, hlater | ⟨hsame, -⟩⟩ := hcases
      · exact .inl hlower
      · exact .inr ⟨heq, .inl (precedes_iff_lt.mpr hlater)⟩
      · exact .inr ⟨heq, .inr hsame⟩ }

/-- The items of a decision give true reasons, one for each relation of the pair but the one that is
kept. -/
theorem PairDecision.Specified.items_justified {labels : Labels} {relations : List Relation}
    {d : PairDecision} (h : d.Specified labels relations) :
    ∃ kept deleted, (kept :: deleted).Perm (relations.zipIdx.filter fun a => a.1.pair == d.pair) ∧
      d.keep = .ofRelation kept.1 ∧ d.delete = deleted.map (fun a => .ofRelation a.1) ∧
      List.Forall₂ (fun a item => PlanItem.Justified item kept a) deleted d.items := by
  obtain ⟨kept, deleted, hperm, hout, hkeep, hdelete⟩ := h.exists_best
  refine ⟨kept, deleted, hperm, hkeep, hdelete, ?_⟩
  rw [PairDecision.items, hdelete, List.map_map, List.forall₂_map_right_iff, List.forall₂_same]
  exact fun a ha => item_justified hkeep (hout a ha)

namespace DeletionPlan

/-- Planning over relations with well-formed ids succeeds, and all its reasons are true. The items
are those of the decisions; of each decision the relation that is kept and those that are deleted
are, with their positions in the input, the relations of the pair, and the items tell of the deleted
ones, one after the other, truly why the kept one is preferred. -/
theorem make_justified (labels : Labels) (relations : List Relation)
    (hformed : ∀ r ∈ relations, r.WellFormed) :
    ∃ plan, make labels relations = .ok plan ∧
      plan.items = plan.groups.flatMap PairDecision.items ∧
      ∀ d ∈ plan.groups, ∃ kept deleted,
        (kept :: deleted).Perm (relations.zipIdx.filter fun a => a.1.pair == d.pair) ∧
        d.keep = .ofRelation kept.1 ∧ d.delete = deleted.map (fun a => .ofRelation a.1) ∧
        List.Forall₂ (fun a item => PlanItem.Justified item kept a) deleted d.items := by
  have hspec := build_specified labels relations
  exact ⟨build labels relations, make_eq_ok_iff.mpr ⟨hformed, rfl⟩, hspec.items,
    fun d hd => (hspec.groups d hd).items_justified⟩

/-- A pair of which the third relation is kept: the first is less complete, the second younger, and
the fourth the same in both, an empty time being as good as none. -/
theorem make_justified_everyReason :
    let relations : List Relation :=
      [⟨"competed_in:1", "skater:ito", "event:pony_3", none, none, none, none, some "NONE", none,
          some "2001-01-01"⟩,
        ⟨"competed_in:2", "skater:ito", "event:pony_3", none, none, none, none, some "prints", none,
          some "2001-01-02"⟩,
        ⟨"competed_in:3", "skater:ito", "event:pony_3", none, none, none, none, some "prints", none,
          none⟩,
        ⟨"competed_in:4", "skater:ito", "event:pony_3", none, none, none, none, some "prints", none,
          some ""⟩]
    (∀ r ∈ relations, r.WellFormed) ∧
      ∃ plan, make .empty relations = .ok plan ∧
        plan.items = plan.groups.flatMap PairDecision.items ∧
        ∀ d ∈ plan.groups, ∃ kept deleted,
          (kept :: deleted).Perm (relations.zipIdx.filter fun a => a.1.pair == d.pair) ∧
          d.keep = .ofRelation kept.1 ∧ d.delete = deleted.map (fun a => .ofRelation a.1) ∧
          List.Forall₂ (fun a item => PlanItem.Justified item kept a) deleted d.items := by
  intro relations
  have hformed : ∀ r ∈ relations, r.WellFormed := Relation.forM_checkIds_eq_ok_iff.mp (by rfl)
  exact ⟨hformed, make_justified .empty relations hformed⟩

end DeletionPlan

end SkaterLedger
