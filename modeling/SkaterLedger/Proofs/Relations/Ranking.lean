import Mathlib.Data.List.Basic
import Mathlib.Data.List.Nodup
import Mathlib.Data.List.NodupEquivFin
import SkaterLedger.Proofs.Text.ByteOrder
import SkaterLedger.Relations.Plan

/-!
# The ranking of a pair's relations

Relations of one pair are ranked by score, then by the time they were made, then by their position
in the list. The score only looks at which of four fields say something, an empty text and the text
`NONE` being as good as none (`score_clear`), and a field that says something never counts against
a relation (`score_le_score`). `Outranks` is this order on relations with their positions, a strict
total order, and `ranked` lists a pair's relations from the best on. A plan sorts the relations
without their positions; since its sort is stable, `ranked_map_fst` shows that the result is the
same.
-/

namespace SkaterLedger.Relation

open Text (Precedes precedes_iff_lt)

/-- A relation ranks before another one, each given with its position in a list: it is more
complete, or as complete and made earlier as the texts of the times go, or in all of this the same
and stands before it. -/
def Outranks (a b : Relation × ℕ) : Prop :=
  b.1.score < a.1.score ∨ a.1.score = b.1.score ∧
    (Precedes a.1.createdKey b.1.createdKey ∨ a.1.createdKey = b.1.createdKey ∧ a.2 < b.2)

/-- The relations of a pair with their positions in the list. -/
def placed (relations : List Relation) (p : String × String) : List (Relation × ℕ) :=
  relations.zipIdx.filter fun a => a.1.pair == p

/-- The relations of a pair with their positions, from the best on. -/
def ranked (relations : List Relation) (p : String × String) : List (Relation × ℕ) :=
  (placed relations p).mergeSort fun a b => ranksBefore a.1 b.1

/-- A relation of a list ranks before all others of its pair. -/
def Leads (relations : List Relation) (a : Relation × ℕ) : Prop :=
  a ∈ relations.zipIdx ∧
    ∀ b ∈ relations.zipIdx, b.1.pair = a.1.pair → b ≠ a → Outranks a b

/-- The relation of an id is outranked by another one of its pair. -/
def Outclassed (relations : List Relation) (id : String) : Prop :=
  ∃ a ∈ relations.zipIdx, ∃ b ∈ relations.zipIdx,
    a.1.pair = b.1.pair ∧ Outranks a b ∧ b.1.id = id

/-! ## Scores -/

/-- A text that says something: it is there, and neither empty nor `NONE`. -/
def Says (text : Option String) : Prop := ∃ s, text = some s ∧ s ≠ "" ∧ s ≠ "NONE"

/-- What is present says something. -/
theorem isPresent_iff {text : Option String} : isPresent text = true ↔ Says text := by
  cases text <;> simp [isPresent, Says]

/-- A text if it says something, otherwise none. -/
def cleared (text : Option String) : Option String := text.filter fun s => s ≠ "" ∧ s ≠ "NONE"

/-- A relation in which texts that say nothing are left out. -/
def clear (r : Relation) : Relation :=
  { r with
    notes := cleared r.notes
    galleryUrl := cleared r.galleryUrl
    purchaseDate := cleared r.purchaseDate }

/-- Leaving out what says nothing leaves the same present. -/
theorem isPresent_cleared (text : Option String) : isPresent (cleared text) = isPresent text := by
  have hsays : Says (cleared text) ↔ Says text := by
    unfold Says cleared
    simp only [Option.filter_eq_some_iff, decide_eq_true_eq]
    constructor
    · rintro ⟨s, ⟨hs, -⟩, hsays⟩
      exact ⟨s, hs, hsays⟩
    · rintro ⟨s, hs, hsays⟩
      exact ⟨s, ⟨hs, hsays⟩, hsays⟩
  rw [Bool.eq_iff_iff, isPresent_iff, isPresent_iff, hsays]

/-- A text `NONE` counts as none, and so does an empty one. -/
theorem score_clear (r : Relation) : r.clear.score = r.score := by
  unfold score clear
  simp only [isPresent_cleared]

/-- A relation is at least as complete as another one if it says something in every field in which
the other one does. -/
theorem score_le_score {r t : Relation}
    (hamount : r.purchaseAmount.isSome → t.purchaseAmount.isSome)
    (hnotes : Says r.notes → Says t.notes)
    (hgallery : Says r.galleryUrl → Says t.galleryUrl)
    (hdate : Says r.purchaseDate → Says t.purchaseDate) : r.score ≤ t.score := by
  have hweight {p q : Bool} (h : p = true → q = true) (w : ℕ) :
      (if p = true then w else 0) ≤ if q = true then w else 0 := by
    cases p
    · exact Nat.zero_le _
    · rw [h rfl]
  simp only [← isPresent_iff] at hnotes hgallery hdate
  unfold score
  gcongr ?_ + ?_ + ?_ + ?_
  · exact hweight hamount _
  · exact hweight hnotes _
  · exact hweight hgallery _
  · exact hweight hdate _

/-- No score exceeds the highest one, which is eight. -/
theorem score_le_maxScore (r : Relation) : r.score ≤ maxScore := by
  have hweight (p : Bool) (w : ℕ) : (if p = true then w else 0) ≤ w := by
    split
    · exact le_refl w
    · exact Nat.zero_le w
  unfold score maxScore
  gcongr ?_ + ?_ + ?_ + ?_
  · exact hweight _ _
  · exact hweight _ _
  · exact hweight _ _
  · exact hweight _ _

/-! ## The order -/

/-- Whether a relation may stand before another one, by scores and times. -/
theorem ranksBefore_iff {a b : Relation} :
    ranksBefore a b = true ↔
      b.score < a.score ∨ a.score = b.score ∧ ¬ b.createdKey < a.createdKey := by
  simp [ranksBefore]

/-- A relation outranks another one exactly when it may stand before it and, if the other may as
well stand before it, comes first in the list. -/
theorem outranks_iff {a b : Relation × ℕ} :
    Outranks a b ↔ ranksBefore a.1 b.1 = true ∧ (ranksBefore b.1 a.1 = true → a.2 < b.2) := by
  simp only [Outranks, ranksBefore_iff, precedes_iff_lt]
  -- Where scores and times are the same, each of the two may stand before the other.
  rcases lt_trichotomy a.1.score b.1.score with h | h | h
  · have h' : ¬ b.1.score < a.1.score := h.not_gt
    simp [h', h.ne]
  · rcases lt_trichotomy a.1.createdKey b.1.createdKey with hk | hk | hk
    · simp [h, hk, hk.not_gt]
    · simp [h, hk]
    · simp [h, hk, hk.not_gt, hk.ne']
  · have h' : ¬ a.1.score < b.1.score := h.not_gt
    simp [h, h', h.ne]

/-- Standing before is transitive. -/
theorem ranksBefore_trans (a b c : Relation) (hab : ranksBefore a b = true)
    (hbc : ranksBefore b c = true) : ranksBefore a c = true := by
  rw [ranksBefore_iff] at *
  rcases hab with hab | ⟨hab, hkab⟩
  · rcases hbc with hbc | ⟨hbc, -⟩ <;> exact .inl (by omega)
  · rcases hbc with hbc | ⟨hbc, hkbc⟩
    · exact .inl (by omega)
    · exact .inr ⟨by omega, not_lt.mpr ((not_lt.mp hkab).trans (not_lt.mp hkbc))⟩

/-- Of two relations one may stand before the other. -/
theorem ranksBefore_total (a b : Relation) : (ranksBefore a b || ranksBefore b a) = true := by
  rw [Bool.or_eq_true, ranksBefore_iff, ranksBefore_iff]
  rcases lt_trichotomy a.score b.score with h | h | h
  · exact .inr (.inl h)
  · rcases le_total a.createdKey b.createdKey with hk | hk
    · exact .inl (.inr ⟨h, not_lt.mpr hk⟩)
    · exact .inr (.inr ⟨h.symm, not_lt.mpr hk⟩)
  · exact .inl (.inl h)

/-- No two relations outrank each other. -/
theorem Outranks.asymm {a b : Relation × ℕ} (hab : Outranks a b) (hba : Outranks b a) : False := by
  rw [outranks_iff] at hab hba
  exact absurd (hab.2 hba.1) (hba.2 hab.1).not_gt

/-- Outranking is transitive. -/
theorem Outranks.trans {a b c : Relation × ℕ} (hab : Outranks a b) (hbc : Outranks b c) :
    Outranks a c := by
  rw [outranks_iff] at *
  refine ⟨ranksBefore_trans _ _ _ hab.1 hbc.1, fun hca => ?_⟩
  -- If `c` may stand before `a`, all three are alike, and their positions decide.
  have hba := ranksBefore_trans _ _ _ hbc.1 hca
  have hcb := ranksBefore_trans _ _ _ hca hab.1
  exact (hab.2 hba).trans (hbc.2 hcb)

/-- Of two relations at different positions one outranks the other. -/
theorem outranks_or_outranks {a b : Relation × ℕ} (h : a.2 ≠ b.2) :
    Outranks a b ∨ Outranks b a := by
  rw [outranks_iff, outranks_iff]
  have htotal := ranksBefore_total a.1 b.1
  cases hab : ranksBefore a.1 b.1
  · simp_all
  · cases hba : ranksBefore b.1 a.1
    · simp
    · rcases Nat.lt_or_gt_of_ne h with hlt | hgt
      · simp [hlt]
      · simp [hgt]

/-- Outranking only looks at the order of positions, not at the positions themselves. -/
theorem Outranks.congr_pos {r t : Relation} {i j i' j' : ℕ} (h : Outranks (r, i) (t, j))
    (hpos : i < j → i' < j') : Outranks (r, i') (t, j') := by
  rw [outranks_iff] at *
  exact ⟨h.1, fun hback => hpos (h.2 hback)⟩

/-! ## Two elements of a list, one before the other -/

/-- In a list without repetitions, of two elements only one stands before the other. -/
theorem not_pair_sublist_swap {α : Type} [DecidableEq α] {l : List α} {a b : α} (h : l.Nodup)
    (hab : [a, b].Sublist l) : ¬ [b, a].Sublist l := by
  have hidx : l.Pairwise fun x y => l.idxOf x < l.idxOf y := by
    rw [List.pairwise_iff_getElem]
    intro i j hi hj hij
    rwa [h.idxOf_getElem i hi, h.idxOf_getElem j hj]
  rw [List.pairwise_iff_forall_sublist] at hidx
  intro hba
  exact absurd (hidx hab) (hidx hba).not_gt

/-- In a list in the order of positions, the element with the smaller position stands before the
other. -/
theorem pair_sublist_of_lt {α : Type} {l : List (α × ℕ)} {a b : α × ℕ}
    (h : l.Pairwise fun x y => x.2 < y.2) (ha : a ∈ l) (hb : b ∈ l) (hab : a.2 < b.2) :
    [a, b].Sublist l := by
  induction l with
  | nil => simp at ha
  | cons x l ih =>
    obtain ⟨hx, hl⟩ := List.pairwise_cons.mp h
    rcases List.mem_cons.mp ha with rfl | ha'
    · rcases List.mem_cons.mp hb with rfl | hb'
      · exact absurd hab (lt_irrefl _)
      · exact (List.singleton_sublist.mpr hb').cons_cons _
    · rcases List.mem_cons.mp hb with rfl | hb'
      · exact absurd hab (hx a ha').not_gt
      · exact (ih hl ha' hb').cons _

/-! ## Relations with their positions -/

/-- The positions of a list's elements grow. -/
theorem zipIdx_pairwise_lt (relations : List Relation) :
    relations.zipIdx.Pairwise fun a b => a.2 < b.2 := by
  have h : (relations.zipIdx.map Prod.snd).Pairwise (· < ·) := by
    rw [List.zipIdx_map_snd]
    exact List.pairwise_lt_range'
  exact List.pairwise_map.mp h

/-- Elements of a list with the same position are the same. -/
theorem eq_of_mem_zipIdx {relations : List Relation} {a b : Relation × ℕ}
    (ha : a ∈ relations.zipIdx) (hb : b ∈ relations.zipIdx) (h : a.2 = b.2) : a = b := by
  rw [List.mem_zipIdx_iff_getElem?] at ha hb
  rw [h, hb, Option.some.injEq] at ha
  exact Prod.ext ha.symm h

/-- Elements of a list that have the same of something are the same if no two elements share it. -/
theorem eq_of_map_eq {α : Type} {f : Relation → α} {relations : List Relation}
    (hnodup : (relations.map f).Nodup) {a b : Relation × ℕ} (ha : a ∈ relations.zipIdx)
    (hb : b ∈ relations.zipIdx) (h : f a.1 = f b.1) : a = b := by
  have ha' := List.mem_zipIdx_iff_getElem?.mp ha
  have hb' := List.mem_zipIdx_iff_getElem?.mp hb
  have hlt : a.2 < (relations.map f).length := by
    simpa using (List.getElem?_eq_some_iff.mp ha').1
  refine eq_of_mem_zipIdx ha hb ((List.getElem?_inj hlt hnodup).mp ?_)
  rw [List.getElem?_map, List.getElem?_map, ha', hb', Option.map_some, Option.map_some, h]

/-- Elements of a list with the same id are the same if the ids are different from each other. -/
theorem eq_of_id_eq {relations : List Relation} (hids : (relations.map Relation.id).Nodup)
    {a b : Relation × ℕ} (ha : a ∈ relations.zipIdx) (hb : b ∈ relations.zipIdx)
    (h : a.1.id = b.1.id) : a = b :=
  eq_of_map_eq hids ha hb h

/-- The members of `placed` are the relations of the pair at their positions. -/
theorem mem_placed_iff {relations : List Relation} {p : String × String} {a : Relation × ℕ} :
    a ∈ placed relations p ↔ a ∈ relations.zipIdx ∧ a.1.pair = p := by
  simp [placed]

/-- The relations of a pair stand in the order of their positions. -/
theorem placed_pairwise_lt (relations : List Relation) (p : String × String) :
    (placed relations p).Pairwise fun a b => a.2 < b.2 :=
  (zipIdx_pairwise_lt relations).sublist List.filter_sublist

/-- Without their positions these are the pair's relations in input order. -/
theorem placed_map_fst (relations : List Relation) (p : String × String) :
    (placed relations p).map Prod.fst = ofPair relations p := by
  have h := List.filter_map (f := Prod.fst (β := ℕ)) (p := fun r : Relation => r.pair == p)
    (l := relations.zipIdx)
  rw [List.zipIdx_map_fst] at h
  rw [ofPair, h]
  rfl

/-- There are as many relations of a pair as the pair occurs. -/
theorem length_placed (relations : List Relation) (p : String × String) :
    (placed relations p).length = (relations.map pair).count p := by
  rw [← List.length_map (f := Prod.fst), placed_map_fst, ofPair, ← List.countP_eq_length_filter,
    List.count_eq_countP, List.countP_map]
  rfl

/-! ## From the best on -/

/-- The ranking of a pair holds the pair's relations. -/
theorem ranked_perm (relations : List Relation) (p : String × String) :
    (ranked relations p).Perm (placed relations p) :=
  List.mergeSort_perm _ _

/-- Without the positions, the ranking is what sorting the relations alone gives. -/
theorem ranked_map_fst (relations : List Relation) (p : String × String) :
    (ranked relations p).map Prod.fst = (ofPair relations p).mergeSort ranksBefore := by
  rw [ranked, List.map_mergeSort (s := ranksBefore) (fun _ _ _ _ => rfl), placed_map_fst]

/-- In the ranking of a pair, whoever stands before another outranks it. -/
theorem ranked_pairwise (relations : List Relation) (p : String × String) :
    (ranked relations p).Pairwise Outranks := by
  let le : Relation × ℕ → Relation × ℕ → Bool := fun a b => ranksBefore a.1 b.1
  have htrans : ∀ a b c, le a b = true → le b c = true → le a c = true :=
    fun a b c => ranksBefore_trans a.1 b.1 c.1
  have htotal : ∀ a b, (le a b || le b a) = true := fun a b => ranksBefore_total a.1 b.1
  have hsorted : (ranked relations p).Pairwise fun a b => le a b = true :=
    List.pairwise_mergeSort htrans htotal _
  have hnodup : (ranked relations p).Nodup :=
    (ranked_perm relations p).nodup_iff.mpr
      ((placed_pairwise_lt relations p).imp fun h => by rintro rfl; exact lt_irrefl _ h)
  rw [List.pairwise_iff_forall_sublist] at hsorted ⊢
  intro a b hab
  refine outranks_iff.mpr ⟨hsorted hab, fun hba => ?_⟩
  have hne : a ≠ b := List.pairwise_iff_forall_sublist.mp hnodup hab
  have ha : a ∈ placed relations p :=
    (ranked_perm relations p).mem_iff.mp (hab.subset (by simp))
  have hb : b ∈ placed relations p :=
    (ranked_perm relations p).mem_iff.mp (hab.subset (by simp))
  have hpos : a.2 ≠ b.2 := fun h =>
    hne (eq_of_mem_zipIdx (mem_placed_iff.mp ha).1 (mem_placed_iff.mp hb).1 h)
  -- If `b` came first in the list, the stable sort would have kept it before `a`.
  rcases lt_or_gt_of_ne hpos with hlt | hgt
  · exact hlt
  · have hsub : [b, a].Sublist (placed relations p) :=
      pair_sublist_of_lt (placed_pairwise_lt relations p) hb ha hgt
    have hback : [b, a].Sublist (ranked relations p) :=
      List.pair_sublist_mergeSort htrans htotal hba hsub
    exact absurd hback (not_pair_sublist_swap hnodup hab)

/-- Every pair of a list has a relation that leads it. -/
theorem exists_leads {relations : List Relation} {p : String × String}
    (h : p ∈ relations.map pair) : ∃ a, a.1.pair = p ∧ Leads relations a := by
  have hpairs := ranked_pairwise relations p
  have hmem : ∀ b, b ∈ ranked relations p ↔ b ∈ relations.zipIdx ∧ b.1.pair = p := fun b => by
    rw [(ranked_perm relations p).mem_iff, mem_placed_iff]
  -- The first relation of the ranking leads its pair.
  cases hr : ranked relations p with
  | nil =>
    have hlen := (ranked_perm relations p).length_eq
    rw [hr, length_placed, List.length_nil] at hlen
    exact absurd h (List.count_eq_zero.mp hlen.symm)
  | cons a rest =>
    rw [hr] at hpairs hmem
    obtain ⟨hmem_a, hpair_a⟩ := (hmem a).mp List.mem_cons_self
    refine ⟨a, hpair_a, hmem_a, fun b hb hpair hne => ?_⟩
    have hb' : b ∈ a :: rest := (hmem b).mpr ⟨hb, hpair.trans hpair_a⟩
    exact (List.pairwise_cons.mp hpairs).1 b ((List.mem_cons.mp hb').resolve_left hne)

/-- Nothing of its pair outranks the leading relation. -/
theorem Leads.not_outranked {relations : List Relation} {a b : Relation × ℕ}
    (ha : Leads relations a) (hb : b ∈ relations.zipIdx) (hpair : b.1.pair = a.1.pair) :
    ¬ Outranks b a := by
  intro hba
  have hne : b ≠ a := by
    rintro rfl
    exact hba.asymm hba
  exact hba.asymm (ha.2 b hb hpair hne)

/-- Where ids are different, the leading relation of a pair is not outclassed. -/
theorem Leads.not_outclassed {relations : List Relation} {a : Relation × ℕ}
    (hids : (relations.map Relation.id).Nodup) (ha : Leads relations a) :
    ¬ Outclassed relations a.1.id := by
  rintro ⟨b, hb, c, hc, hpair, hbc, hid⟩
  obtain rfl := eq_of_id_eq hids hc ha.1 hid
  exact ha.not_outranked hb hpair hbc

/-- What is outclassed by some of a list's relations is outclassed in the whole list. -/
theorem Outclassed.of_sublist {part relations : List Relation} {id : String}
    (h : Outclassed part id) (hsub : part.Sublist relations) : Outclassed relations id := by
  obtain ⟨⟨r, i⟩, hr, ⟨t, j⟩, ht, hpair, hout, hid⟩ := h
  obtain ⟨f, hf⟩ := List.sublist_iff_exists_orderEmbedding_getElem?_eq.mp hsub
  rw [List.mem_zipIdx_iff_getElem?] at hr ht
  dsimp only at hr ht
  rw [hf] at hr ht
  -- Positions in the part and in the whole list differ, but one comes before another in both.
  have hout' : Outranks (r, f i) (t, f j) := hout.congr_pos fun hij => f.lt_iff_lt.mpr hij
  exact ⟨(r, f i), List.mem_zipIdx_iff_getElem?.mpr hr, (t, f j),
    List.mem_zipIdx_iff_getElem?.mpr ht, hpair, hout', hid⟩

end SkaterLedger.Relation
