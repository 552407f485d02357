import Mathlib.Data.List.Basic
import Mathlib.Data.List.Induction
import Mathlib.Order.Nat
import SkaterLedger.Contacts.Report

/-!
# The skater that names fit best

The skaters are looked through once, and the best one so far is kept. What is kept at any time is
told without the pass (`StoredSkater.Standing`): nobody as long as no skater reaches the threshold,
and then the first of those with the highest score (`StoredSkater.LeadsAt`). One more skater keeps
this (`StoredSkater.Standing.better`), and no two positions lead (`StoredSkater.LeadsAt.unique`), so
the result of the pass is this skater and no other (`StoredSkater.bestMatch?_leads`).
-/

namespace SkaterLedger

/-- Magnitudes are ordered by their ranks. -/
instance (priority := low) Magnitude.linearOrder : LinearOrder Magnitude where
  le_refl a := Nat.le_refl a.rank
  le_trans _ _ _ h h' := Nat.le_trans h h'
  lt_iff_le_not_ge _ _ := Nat.lt_iff_le_and_not_ge
  le_antisymm a b h h' := by
    cases a
    cases b
    simpa using Nat.le_antisymm h h'
  le_total a b := Nat.le_total a.rank b.rank
  toDecidableLE a b := inferInstanceAs (Decidable (a.rank ≤ b.rank))

namespace StoredSkater

/-- The skater at a position of some skaters fits a first and last name best, and is the first who
does. -/
structure LeadsAt (first last : String) (skaters : List StoredSkater) (i : ℕ) (s : StoredSkater) :
    Prop where
  /-- The skater stands at the position. -/
  position : skaters[i]? = some s
  /-- The score reaches the threshold. -/
  reaches : matchThreshold ≤ s.score first last
  /-- Nobody has a higher score. -/
  highest : ∀ s' ∈ skaters, s'.score first last ≤ s.score first last
  /-- Everybody before has a lower score. -/
  earliest : ∀ s' ∈ skaters.take i, s'.score first last < s.score first last

/-- What is kept after some skaters. -/
inductive Standing (first last : String) (skaters : List StoredSkater) :
    Option (StoredSkater × Magnitude) → Prop where
  /-- Nobody as long as no skater reaches the threshold. -/
  | nobody (h : ∀ s ∈ skaters, s.score first last < matchThreshold) :
    Standing first last skaters none
  /-- Then the one who leads, with the score. -/
  | leader {s : StoredSkater} {i : ℕ} (h : LeadsAt first last skaters i s) :
    Standing first last skaters (some (s, s.score first last))

variable {first last : String} {skaters : List StoredSkater} {s s' : StoredSkater} {i i' : ℕ}
  {best : Option (StoredSkater × Magnitude)}

/-! ## One more skater -/

/-- Who leads goes on to lead if the next skater has no higher score. -/
theorem LeadsAt.append (h : LeadsAt first last skaters i s)
    (hle : s'.score first last ≤ s.score first last) :
    LeadsAt first last (skaters ++ [s']) i s := by
  obtain ⟨hi, -⟩ := List.getElem?_eq_some_iff.mp h.position
  refine ⟨?_, h.reaches, List.forall_mem_append.mpr ⟨h.highest, by simpa using hle⟩, ?_⟩
  · rw [List.getElem?_append_left hi]
    exact h.position
  · rw [List.take_append_of_le_length (Nat.le_of_lt hi)]
    exact h.earliest

/-- A skater with a higher score than all others leads from the end. -/
theorem leadsAt_length (hreaches : matchThreshold ≤ s.score first last)
    (hlt : ∀ s' ∈ skaters, s'.score first last < s.score first last) :
    LeadsAt first last (skaters ++ [s]) skaters.length s := by
  refine ⟨List.getElem?_concat_length, hreaches, ?_, ?_⟩
  · refine List.forall_mem_append.mpr ⟨fun s' hs' => le_of_lt (hlt s' hs'), ?_⟩
    exact List.forall_mem_singleton.mpr le_rfl
  · rw [List.take_left]
    exact hlt

/-- A skater below the threshold is passed over. -/
theorem better_of_lt (h : s.score first last < matchThreshold) :
    better first last best s = best := by
  unfold better
  dsimp only
  rw [if_pos h]

/-- The first skater who reaches the threshold is kept. -/
theorem better_none (h : matchThreshold ≤ s.score first last) :
    better first last none s = some (s, s.score first last) := by
  unfold better
  dsimp only
  rw [if_neg (not_lt.mpr h)]

/-- After that a skater who reaches the threshold is kept only with a higher score. -/
theorem better_some {b : StoredSkater} {score : Magnitude}
    (h : matchThreshold ≤ s.score first last) :
    better first last (some (b, score)) s =
      if score < s.score first last then some (s, s.score first last) else some (b, score) := by
  unfold better
  dsimp only
  rw [if_neg (not_lt.mpr h)]

/-- One more skater keeps what is kept in its place. -/
theorem Standing.better (h : Standing first last skaters best) (s : StoredSkater) :
    Standing first last (skaters ++ [s]) (better first last best s) := by
  rcases lt_or_ge (s.score first last) matchThreshold with hlow | hreaches
  · rw [better_of_lt hlow]
    cases h with
    | nobody h =>
      exact .nobody (List.forall_mem_append.mpr ⟨h, List.forall_mem_singleton.mpr hlow⟩)
    | leader h => exact .leader (h.append (le_of_lt (lt_of_lt_of_le hlow h.reaches)))
  · cases h with
    | nobody h =>
      rw [better_none hreaches]
      exact .leader (leadsAt_length hreaches fun s' hs' => lt_of_lt_of_le (h s' hs') hreaches)
    | leader h =>
      rw [better_some hreaches]
      split
      · rename_i hmore
        exact .leader (leadsAt_length hreaches fun s' hs' =>
          lt_of_le_of_lt (h.highest s' hs') hmore)
      · rename_i hless
        exact .leader (h.append (not_lt.mp hless))

/-- What is kept after all skaters. -/
theorem standing_foldl (first last : String) (skaters : List StoredSkater) :
    Standing first last skaters (skaters.foldl (better first last) none) := by
  induction skaters using List.reverseRecOn with
  | nil => exact .nobody (List.forall_mem_nil _)
  | append_singleton skaters s ih =>
    rw [List.foldl_append, List.foldl_cons, List.foldl_nil]
    exact ih.better s

/-! ## The result -/

/-- No skater leads from behind a position that leads. -/
theorem LeadsAt.le (h : LeadsAt first last skaters i s) (h' : LeadsAt first last skaters i' s') :
    i' ≤ i := by
  by_contra hlt
  have hmem : s ∈ skaters.take i' := by
    rw [List.mem_take_iff_getElem]
    obtain ⟨hi, hs⟩ := List.getElem?_eq_some_iff.mp h.position
    exact ⟨i, lt_min (not_le.mp hlt) hi, hs⟩
  have hhighest := h.highest s' (List.mem_of_getElem? h'.position)
  exact not_lt.mpr hhighest (h'.earliest s hmem)

/-- One position only leads. -/
theorem LeadsAt.unique (h : LeadsAt first last skaters i s)
    (h' : LeadsAt first last skaters i' s') : i = i' ∧ s = s' := by
  have hi : i = i' := le_antisymm (h'.le h) (h.le h')
  have hs := h.position
  rw [hi, h'.position] at hs
  exact ⟨hi, (Option.some.inj hs).symm⟩

/-- A first and last name fit no skater exactly if all scores are below the threshold, and they fit
a skater best exactly if this skater leads: the score reaches the threshold, nobody has a higher
one, and everybody who stands before has a lower one. So somebody is found as soon as one score
reaches the threshold, and in one position only. -/
theorem bestMatch?_leads (first last : String) (skaters : List StoredSkater) :
    (bestMatch? first last skaters = none ↔ ∀ s ∈ skaters, s.score first last < matchThreshold) ∧
      ∀ s, bestMatch? first last skaters = some s ↔ ∃! i, LeadsAt first last skaters i s := by
  have hstanding := standing_foldl first last skaters
  unfold bestMatch?
  generalize skaters.foldl (better first last) none = best at hstanding
  cases hstanding with
  | nobody hnone =>
    refine ⟨iff_of_true rfl hnone, fun s => iff_of_false (by simp) ?_⟩
    rintro ⟨i, hs, -⟩
    exact not_lt.mpr hs.reaches (hnone s (List.mem_of_getElem? hs.position))
  | @leader b i hb =>
    refine ⟨iff_of_false (by simp) fun hnone => ?_, fun s => ⟨?_, ?_⟩⟩
    · exact not_lt.mpr hb.reaches (hnone b (List.mem_of_getElem? hb.position))
    · rintro ⟨⟩
      exact ⟨i, hb, fun i' hi' => (hi'.unique hb).1⟩
    · rintro ⟨i', hs, -⟩
      exact congrArg some (hb.unique hs).2

/-- Of two skaters with the highest score the first is found, although somebody before them reaches
the threshold as well. -/
example :
    bestMatch? "Ann" "Lee"
      [⟨"skater:li_ann", "Ann", "Li", none⟩, ⟨"skater:lee_anne", "Anne", "Lee", none⟩,
        ⟨"skater:lee_ann_1", "Ann", "Lee", none⟩, ⟨"skater:lee_ann_2", "ANN", "LEE", none⟩] =
      some ⟨"skater:lee_ann_1", "Ann", "Lee", none⟩ := by
  decide +kernel

end StoredSkater

end SkaterLedger
