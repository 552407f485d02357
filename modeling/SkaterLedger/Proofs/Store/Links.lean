import SkaterLedger.Proofs.Store.Coherence
import SkaterLedger.Proofs.Store.Reapplied
import SkaterLedger.Proofs.Store.Upserts

/-!
# Links between skaters and families

A contact report links skaters to families, and it links no skater to a family twice. So the links
that it adds are those of its pairs of a skater and a family that are not linked yet, each once and in
the order of the report (`LinkRow.unlinked`). A skater's family, as far as addresses are concerned, is
where the earliest link of the skater leads; links are only added at the end, so that once there is
one it stays the earliest (`LinkRow.home?_append`).
-/

namespace SkaterLedger

namespace LinkRow

/-- Whether there is a link from a skater to a family. -/
def isLinked (links : List LinkRow) (p : String × String) : Bool :=
  links.any fun r => r.inId == .text p.1 && r.outId == .text p.2

/-- Whether a skater has a link. -/
def hasLink (links : List LinkRow) (skater : String) : Bool :=
  links.any fun r => r.inId == .text skater

/-- Where the earliest link of a skater leads to. -/
def home? (links : List LinkRow) (skater : String) : Option Cell :=
  (links.find? fun r => r.inId == .text skater).map LinkRow.outId

/-- The rows of new links, numbered from 0. -/
def rowsOf (m : Moment) (pairs : List (String × String)) : List LinkRow :=
  pairs.mapIdx fun n p => ⟨.text (m.linkId n), .text p.1, .text p.2, .text m.createdAt⟩

/-- The pairs of a skater and a family that are not linked yet, each once. -/
def unlinked (links : List LinkRow) (pairs : List (String × String)) : List (String × String) :=
  (pairs.filter fun p => !isLinked links p).eraseDups

/-- The links from a skater to a family. -/
def between (links : List LinkRow) (p : String × String) : List LinkRow :=
  links.filter fun r => r.inId == .text p.1 && r.outId == .text p.2

variable {m : Moment} {links new : List LinkRow} {pairs : List (String × String)}
  {p : String × String} {skater : String} {home : Cell}

/-! ## Links and new ones after them -/

/-- A skater is linked to a family by one of some links or by one of those after them. -/
theorem isLinked_append : isLinked (links ++ new) p = (isLinked links p || isLinked new p) :=
  List.any_append

/-- A skater has one of some links or one of those after them. -/
theorem hasLink_append :
    hasLink (links ++ new) skater = (hasLink links skater || hasLink new skater) :=
  List.any_append

/-- The links from a skater to a family are some of the links and some of those after them. -/
theorem between_append : between (links ++ new) p = between links p ++ between new p :=
  List.filter_append _ _

/-- The earliest link stays the earliest when others come after it. -/
theorem home?_append :
    home? (links ++ new) skater = (home? links skater).or (home? new skater) := by
  unfold home?
  rw [List.find?_append, Option.map_or]

/-- A skater with a link has an earliest one. -/
theorem home?_isSome : (home? links skater).isSome = hasLink links skater := by
  unfold home? hasLink
  rw [Option.isSome_map, Bool.eq_iff_iff, List.find?_isSome, List.any_eq_true]

/-- Whoever is linked to a family has a link to it. -/
theorem exists_of_isLinked (h : isLinked links p = true) :
    ∃ r ∈ links, r.inId = .text p.1 ∧ r.outId = .text p.2 := by
  obtain ⟨r, hr, hboth⟩ := List.any_eq_true.mp h
  rw [Bool.and_eq_true] at hboth
  exact ⟨r, hr, eq_of_beq hboth.1, eq_of_beq hboth.2⟩

/-- A skater who is linked to a family has a link. -/
theorem hasLink_of_isLinked (h : isLinked links p = true) : hasLink links p.1 = true := by
  obtain ⟨r, hr, hin, -⟩ := exists_of_isLinked h
  exact List.any_eq_true.mpr ⟨r, hr, beq_iff_eq.mpr hin⟩

/-- A skater is linked to where the earliest link leads. -/
theorem exists_of_home? (h : home? links skater = some home) :
    ∃ r ∈ links, r.inId = .text skater ∧ r.outId = home := by
  obtain ⟨r, hr, rfl⟩ := Option.map_eq_some_iff.mp h
  have hlinked := List.find?_some hr
  exact ⟨r, List.mem_of_find?_eq_some hr, eq_of_beq hlinked, rfl⟩

/-- There are links from a skater to a family exactly if the skater is linked to it. -/
theorem between_ne_nil_iff : between links p ≠ [] ↔ isLinked links p = true := by
  simp [between, isLinked, List.filter_eq_nil_iff]

/-- Where the keys of links hold, there is one link from a skater to a family at most. -/
theorem length_between_le (h : Shape.belongsTo.KeysHold links) : (between links p).length ≤ 1 := by
  have hpairs : (between links p).Pairwise fun _ _ => False := by
    refine (h.pairs.sublist List.filter_sublist).imp_of_mem fun {a b} ha hb hab => ?_
    have hcells {r : LinkRow} (hr : r ∈ between links p) :
        r.inId = .text p.1 ∧ r.outId = .text p.2 := by
      simpa using (List.mem_filter.mp hr).2
    obtain ⟨hin, hout⟩ := hcells ha
    obtain ⟨hin', hout'⟩ := hcells hb
    refine hab ?_ ?_ (hin.trans hin'.symm) (hout.trans hout'.symm)
    · rw [hin]
      exact Cell.noConfusion
    · rw [hout]
      exact Cell.noConfusion
  match between links p, hpairs with
  | [], _ => exact Nat.zero_le 1
  | [_], _ => exact le_refl 1
  | a :: b :: _, hpairs => exact ((List.pairwise_cons.mp hpairs).1 b List.mem_cons_self).elim

/-! ## The rows of pairs -/

/-- A new link has one of the first numbers. -/
theorem exists_linkId_of_mem_rowsOf {r : LinkRow} (hr : r ∈ rowsOf m pairs) :
    ∃ n < pairs.length, r.id = .text (m.linkId n) := by
  obtain ⟨n, hn, rfl⟩ := List.mem_mapIdx.mp hr
  exact ⟨n, hn, rfl⟩

/-- One more pair has one more row. -/
theorem rowsOf_concat : rowsOf m (pairs ++ [p]) = rowsOf m pairs ++
    [⟨.text (m.linkId pairs.length), .text p.1, .text p.2, .text m.createdAt⟩] := by
  unfold rowsOf
  rw [List.mapIdx_append, List.mapIdx_cons, List.mapIdx_nil, Nat.zero_add]

/-- New links link those pairs that they were made for. -/
theorem isLinked_rowsOf : isLinked (rowsOf m pairs) p = pairs.contains p := by
  induction pairs using List.reverseRecOn with
  | nil => rfl
  | append_singleton pairs q ih =>
    have hnew : isLinked [⟨.text (m.linkId pairs.length), .text q.1, .text q.2,
        .text m.createdAt⟩] p = [q].contains p := by
      rw [Bool.eq_iff_iff]
      simp [isLinked, Prod.ext_iff, @eq_comm _ q.1, @eq_comm _ q.2]
    rw [rowsOf_concat, isLinked_append, ih, hnew, ← List.contains_append]

/-- There are as many new links from a skater to a family as they are among the pairs. -/
theorem length_between_rowsOf : (between (rowsOf m pairs) p).length = pairs.count p := by
  induction pairs using List.reverseRecOn with
  | nil => rfl
  | append_singleton pairs q ih =>
    have hnew : (between [⟨.text (m.linkId pairs.length), .text q.1, .text q.2,
        .text m.createdAt⟩] p).length = [q].count p := by
      by_cases hq : q = p
      · simp [between, hq]
      · have hother : between [⟨.text (m.linkId pairs.length), .text q.1, .text q.2,
            .text m.createdAt⟩] p = [] := by
          simpa [between, List.filter_eq_nil_iff, Prod.ext_iff] using hq
        rw [hother, List.count_singleton, beq_false_of_ne hq]
        rfl
    rw [rowsOf_concat, between_append, List.length_append, ih, hnew, List.count_append]

/-- The skaters that have new links are those of the pairs. -/
theorem hasLink_rowsOf :
    hasLink (rowsOf m pairs) skater = (pairs.map Prod.fst).contains skater := by
  induction pairs using List.reverseRecOn with
  | nil => rfl
  | append_singleton pairs q ih =>
    have hnew : hasLink [⟨.text (m.linkId pairs.length), .text q.1, .text q.2,
        .text m.createdAt⟩] skater = [q.1].contains skater := by
      rw [Bool.eq_iff_iff]
      simp [hasLink, @eq_comm _ q.1]
    rw [rowsOf_concat, hasLink_append, ih, hnew, List.map_append, List.map_singleton,
      ← List.contains_append]

/-- The link of a pair is not one of other skaters. -/
theorem hasLink_rowsOf_concat_of_ne (h : skater ≠ p.1) :
    hasLink (links ++ rowsOf m (pairs ++ [p])) skater = hasLink (links ++ rowsOf m pairs) skater := by
  have hnew : hasLink [⟨.text (m.linkId pairs.length), .text p.1, .text p.2, .text m.createdAt⟩]
      skater = false := by
    simpa [hasLink] using h.symm
  rw [rowsOf_concat, ← List.append_assoc, hasLink_append, hnew, Bool.or_false]

/-- Links of more pairs come after those of the others. -/
theorem rowsOf_append (m : Moment) (pairs more : List (String × String)) :
    ∃ new, rowsOf m (pairs ++ more) = rowsOf m pairs ++ new := by
  unfold rowsOf
  rw [List.mapIdx_append]
  exact ⟨_, rfl⟩

/-- Where the earliest link of a skater leads stays the same when there are links of more pairs. -/
theorem home?_rowsOf_append (more : List (String × String))
    (h : home? (links ++ rowsOf m pairs) skater = some home) :
    home? (links ++ rowsOf m (pairs ++ more)) skater = some home := by
  obtain ⟨new, hnew⟩ := rowsOf_append m pairs more
  rw [hnew, ← List.append_assoc, home?_append, h, Option.some_or]

/-- The first link of a skater is the earliest one. -/
theorem home?_rowsOf_concat {family : String}
    (h : hasLink (links ++ rowsOf m pairs) skater = false) :
    home? (links ++ rowsOf m (pairs ++ [(skater, family)])) skater = some (.text family) := by
  have hnone : home? (links ++ rowsOf m pairs) skater = none := by
    rw [← Option.not_isSome_iff_eq_none, home?_isSome, h]
    exact Bool.false_ne_true
  rw [rowsOf_concat, ← List.append_assoc, home?_append, hnone, Option.none_or]
  simp [home?]

/-! ## Pairs that are not linked yet -/

/-- A pair that is left over is one of the pairs and is not linked. -/
theorem mem_unlinked_iff : p ∈ unlinked links pairs ↔ p ∈ pairs ∧ isLinked links p = false := by
  unfold unlinked
  rw [List.mem_eraseDups, List.mem_filter, Bool.not_eq_true']

/-- One more pair is left over, unless it is linked already or left over before. -/
theorem unlinked_concat : unlinked links (pairs ++ [p]) =
    if isLinked links p || (unlinked links pairs).contains p then unlinked links pairs
    else unlinked links pairs ++ [p] := by
  unfold unlinked
  rw [List.filter_append]
  by_cases hlinked : isLinked links p
  · rw [List.filter_cons_of_neg (by simpa using hlinked), List.filter_nil, List.append_nil,
      if_pos (by simp [hlinked])]
  · -- What counts is whether the pair came before, and it is left over from then on if it did.
    rw [List.filter_cons_of_pos (by simpa using hlinked), List.filter_nil, eraseDups_concat]
    have hsame : (isLinked links p ||
        (pairs.filter fun p => !isLinked links p).eraseDups.contains p) =
        (pairs.filter fun p => !isLinked links p).contains p := by
      rw [Bool.eq_iff_iff]
      simp [hlinked, List.mem_eraseDups]
    rw [hsame]

/-- No more pairs are left over than there are. -/
theorem length_unlinked_le (links : List LinkRow) (pairs : List (String × String)) :
    (unlinked links pairs).length ≤ pairs.length := by
  induction pairs using List.reverseRecOn with
  | nil => exact le_refl _
  | append_singleton pairs q ih =>
    rw [unlinked_concat, List.length_append, List.length_singleton]
    split
    · exact ih.trans (Nat.le_succ _)
    · rw [List.length_append, List.length_singleton]
      exact Nat.succ_le_succ ih

/-- Every pair is linked once those are that were not linked yet. -/
theorem isLinked_unlinked (hp : p ∈ pairs) :
    isLinked (links ++ rowsOf m (unlinked links pairs)) p = true := by
  rw [isLinked_append, isLinked_rowsOf, Bool.or_eq_true, List.contains_iff_mem, mem_unlinked_iff]
  cases hlinked : isLinked links p with
  | true => exact .inl rfl
  | false => exact .inr ⟨hp, rfl⟩

/-- The skaters that have a link then are those that had one and those of the pairs. -/
theorem hasLink_unlinked : hasLink (links ++ rowsOf m (unlinked links pairs)) skater =
    (hasLink links skater || (pairs.map Prod.fst).contains skater) := by
  rw [hasLink_append, hasLink_rowsOf, Bool.eq_iff_iff]
  simp only [Bool.or_eq_true, List.contains_iff_mem, List.mem_map, mem_unlinked_iff]
  constructor
  · rintro (hlink | ⟨p, ⟨hp, -⟩, rfl⟩)
    · exact .inl hlink
    · exact .inr ⟨p, hp, rfl⟩
  · rintro (hlink | ⟨p, hp, rfl⟩)
    · exact .inl hlink
    · -- A pair that is not left over was linked, so that its skater had a link before.
      cases hlinked : isLinked links p with
      | true => exact .inl (hasLink_of_isLinked hlinked)
      | false => exact .inr ⟨p, ⟨hp, hlinked⟩, rfl⟩

end LinkRow

end SkaterLedger
