import Mathlib.Data.List.Induction
import Mathlib.Data.List.Nodup
import Mathlib.Data.String.Basic
import SkaterLedger.Json.Value

/-!
# Sorted objects

The objects that the ledger builds by key have their keys in ascending order, each once
(`sorted_sortMembers`). Sorting such an object again changes nothing (`sortMembers_eq_self`), and it
is told by its values under all keys, in whatever order they came (`sortMembers_eq_iff`).
-/

namespace SkaterLedger.Json

/-- The keys of the members of an object ascend. -/
def Sorted {α : Type} (members : List (String × α)) : Prop :=
  (members.map Prod.fst).Pairwise (· < ·)

variable {α : Type} {key : String} {value : α} {members : List (String × α)}

/-- A member of an object with one more is the new one or one of the others. -/
theorem mem_of_mem_insertMember {m : String × α} (h : m ∈ insertMember key value members) :
    m = (key, value) ∨ m ∈ members := by
  induction members with
  | nil => exact .inl (List.mem_singleton.mp h)
  | cons other members ih =>
    unfold insertMember at h
    split_ifs at h
    · exact List.mem_cons.mp h
    · exact (List.mem_cons.mp h).imp_right (List.mem_cons_of_mem _)
    · rcases List.mem_cons.mp h with rfl | h
      · exact .inr List.mem_cons_self
      · exact (ih h).imp_right (List.mem_cons_of_mem _)

/-- One more member keeps the keys ascending. -/
theorem Sorted.insertMember (h : Sorted members) : Sorted (insertMember key value members) := by
  unfold Sorted at *
  rw [List.pairwise_map] at *
  induction members with
  | nil => exact List.pairwise_singleton _ _
  | cons other members ih =>
    obtain ⟨k, v⟩ := other
    obtain ⟨hother, hmembers⟩ := List.pairwise_cons.mp h
    unfold Json.insertMember
    split_ifs with hlt heq
    · refine List.pairwise_cons.mpr ⟨fun m hm => ?_, h⟩
      rcases List.mem_cons.mp hm with rfl | hm
      · exact hlt
      · exact hlt.trans (hother m hm)
    · refine List.pairwise_cons.mpr ⟨fun m hm => ?_, hmembers⟩
      exact heq ▸ hother m hm
    · refine List.pairwise_cons.mpr ⟨fun m hm => ?_, ih hmembers⟩
      rcases mem_of_mem_insertMember hm with rfl | hm
      · exact lt_of_le_of_ne (not_lt.mp hlt) (Ne.symm heq)
      · exact hother m hm

/-- The keys of a sorted object ascend. -/
theorem sorted_sortMembers (members : List (String × α)) : Sorted (sortMembers members) := by
  have hfold : ∀ (members sorted : List (String × α)), Sorted sorted →
      Sorted (members.foldl (fun sorted m => insertMember m.1 m.2 sorted) sorted) := by
    intro members
    induction members with
    | nil => exact fun _ h => h
    | cons m members ih => exact fun sorted h => ih _ h.insertMember
  exact hfold members [] List.Pairwise.nil

/-- The members of a sorted object are among those that it was made of. -/
theorem mem_of_mem_sortMembers {m : String × α} (h : m ∈ sortMembers members) : m ∈ members := by
  have hfold : ∀ (members sorted : List (String × α)),
      m ∈ members.foldl (fun sorted m => insertMember m.1 m.2 sorted) sorted →
        m ∈ sorted ∨ m ∈ members := by
    intro members
    induction members with
    | nil => exact fun _ h => .inl h
    | cons other members ih =>
      intro sorted h
      rcases ih _ h with h | h
      · rcases mem_of_mem_insertMember h with rfl | h
        · exact .inr List.mem_cons_self
        · exact .inl h
      · exact .inr (List.mem_cons_of_mem _ h)
  exact (hfold members [] h).resolve_left List.not_mem_nil

/-- A member whose key is larger than all others goes to the end. -/
theorem insertMember_of_lt (h : ∀ m ∈ members, m.1 < key) :
    insertMember key value members = members ++ [(key, value)] := by
  induction members with
  | nil => rfl
  | cons other members ih =>
    obtain ⟨k, v⟩ := other
    have hk : k < key := h _ List.mem_cons_self
    unfold insertMember
    rw [if_neg (lt_asymm hk), if_neg hk.ne', ih fun m hm => h m (List.mem_cons_of_mem _ hm),
      List.cons_append]

/-- Sorting members whose keys ascend changes nothing. -/
theorem sortMembers_eq_self (h : Sorted members) : sortMembers members = members := by
  have hfold : ∀ (members sorted : List (String × α)), Sorted (sorted ++ members) →
      members.foldl (fun sorted m => insertMember m.1 m.2 sorted) sorted = sorted ++ members := by
    intro members
    induction members with
    | nil => simp
    | cons m members ih =>
      intro sorted h
      have hlt : ∀ other ∈ sorted, other.1 < m.1 := by
        intro other hother
        unfold Sorted at h
        rw [List.pairwise_map, List.pairwise_append] at h
        exact h.2.2 other hother m List.mem_cons_self
      rw [List.foldl_cons, insertMember_of_lt hlt, ih, List.append_assoc, List.singleton_append]
      rwa [List.append_assoc, List.singleton_append]
  exact hfold members [] h

/-- What is read with the keys of a sorted object is that object, sorted again, only if it was it
before. -/
theorem map_sortMembers_eq_some_iff {read : Option (List (String × α))} (hsorted : Sorted members)
    (hkeys : ∀ ms ∈ read, ms.map Prod.fst = members.map Prod.fst) :
    read.map sortMembers = some members ↔ read = some members := by
  rw [Option.map_eq_some_iff]
  constructor
  · rintro ⟨ms, hread, hsort⟩
    have hsorted' : Sorted ms := by
      unfold Sorted
      rwa [hkeys ms hread]
    rw [sortMembers_eq_self hsorted'] at hsort
    rw [hread, hsort]
  · intro hread
    exact ⟨members, hread, sortMembers_eq_self hsorted⟩

/-! ## Objects as maps -/

/-- The value of a key in an object that is made member by member: that of the last member of the
key. -/
def valueOf? (key : String) (members : List (String × α)) : Option α := members.reverse.lookup key

/-- A value that an object has under a key is that of one of its members. -/
theorem mem_of_valueOf? (h : valueOf? key members = some value) : (key, value) ∈ members := by
  obtain ⟨before, after, hmembers, -⟩ := List.lookup_eq_some_iff.mp h
  rw [← List.mem_reverse, hmembers]
  exact List.mem_append_right _ List.mem_cons_self

/-- The value of a key in an object with one more member in front. -/
theorem lookup_cons (k : String) (m : String × α) (members : List (String × α)) :
    (m :: members).lookup k = if k = m.1 then some m.2 else members.lookup k := by
  by_cases h : k = m.1
  · rw [if_pos h, List.lookup_cons, beq_iff_eq.mpr h]
  · rw [if_neg h, List.lookup_cons, beq_false_of_ne h]

/-- The value of a key among converted values is the converted value of the key. -/
theorem lookup_map {β : Type} (f : α → β) (k : String) (members : List (String × α)) :
    (members.map fun m => (m.1, f m.2)).lookup k = (members.lookup k).map f := by
  induction members with
  | nil => rfl
  | cons m members ih =>
    rw [List.map_cons, lookup_cons, lookup_cons, ih]
    split_ifs <;> rfl

/-- Converting the values does not change which of them counts. -/
theorem valueOf?_map {β : Type} (f : α → β) (key : String) (members : List (String × α)) :
    valueOf? key (members.map fun m => (m.1, f m.2)) = (valueOf? key members).map f := by
  unfold valueOf?
  rw [← List.map_reverse, lookup_map]

/-- An object with one more member has its value under its key, and what it had under the others. -/
theorem lookup_insertMember (k : String) :
    (insertMember key value members).lookup k =
      if k = key then some value else members.lookup k := by
  induction members with
  | nil => exact lookup_cons k (key, value) []
  | cons other members ih =>
    obtain ⟨k', v⟩ := other
    unfold insertMember
    by_cases hlt : key < k'
    · rw [if_pos hlt, lookup_cons]
    · rw [if_neg hlt]
      by_cases heq : key = k'
      · -- The new member takes the place of the old one.
        subst heq
        rw [if_pos rfl, lookup_cons, lookup_cons]
        split_ifs <;> rfl
      · rw [if_neg heq, lookup_cons, lookup_cons, ih]
        split_ifs with h h'
        · exact absurd (h'.symm.trans h) heq
        · rfl
        · rfl
        · rfl

/-- A sorted object has under each key the last value of it. -/
theorem lookup_sortMembers (k : String) (members : List (String × α)) :
    (sortMembers members).lookup k = valueOf? k members := by
  unfold sortMembers valueOf?
  induction members using List.reverseRecOn with
  | nil => rfl
  | append_singleton members m ih =>
    rw [List.foldl_append, List.foldl_cons, List.foldl_nil, lookup_insertMember, ih,
      List.reverse_append, List.reverse_singleton, List.singleton_append, lookup_cons]

/-- An object that has each key once has a value under a key exactly if it has the member. -/
theorem lookup_eq_some_iff_mem (h : (members.map Prod.fst).Nodup) :
    members.lookup key = some value ↔ (key, value) ∈ members := by
  rw [List.lookup_eq_some_iff]
  constructor
  · rintro ⟨before, after, rfl, -⟩
    exact List.mem_append_right _ List.mem_cons_self
  · intro hm
    obtain ⟨before, after, rfl⟩ := List.append_of_mem hm
    refine ⟨before, after, rfl, fun other hother => ?_⟩
    rw [List.map_append, List.map_cons, List.nodup_append] at h
    simpa using (h.2.2 other.1 (List.mem_map_of_mem hother) key List.mem_cons_self).symm

/-- In an object that has each key once, the first value of a key is the last. -/
theorem valueOf?_eq_lookup (h : (members.map Prod.fst).Nodup) (key : String) :
    valueOf? key members = members.lookup key := by
  have hreverse : (members.reverse.map Prod.fst).Nodup := by
    rwa [List.map_reverse, List.nodup_reverse]
  refine Option.ext fun value => ?_
  rw [valueOf?, lookup_eq_some_iff_mem hreverse, lookup_eq_some_iff_mem h, List.mem_reverse]

/-- A sorted object has each key once. -/
theorem Sorted.nodup (h : Sorted members) : (members.map Prod.fst).Nodup :=
  List.Pairwise.imp (fun hlt => hlt.ne) h

/-- Sorted objects with the same values under all keys are the same. -/
theorem Sorted.ext {members' : List (String × α)} (h : Sorted members) (h' : Sorted members')
    (hsame : ∀ k, members.lookup k = members'.lookup k) : members = members' := by
  have hmem (m : String × α) : m ∈ members ↔ m ∈ members' := by
    rw [← lookup_eq_some_iff_mem h.nodup, ← lookup_eq_some_iff_mem h'.nodup, hsame]
  have hperm : members.Perm members' :=
    (List.perm_ext_iff_of_nodup (List.Nodup.of_map _ h.nodup) (List.Nodup.of_map _ h'.nodup)).mpr hmem
  unfold Sorted at h h'
  rw [List.pairwise_map] at h h'
  exact hperm.eq_of_pairwise (fun a b _ _ hab hba => absurd hab hba.not_gt) h h'

/-- Objects are sorted to the same one exactly if they have the same values under all keys. -/
theorem sortMembers_eq_iff {members' : List (String × α)} :
    sortMembers members = sortMembers members' ↔
      ∀ k, valueOf? k members = valueOf? k members' := by
  simp only [← lookup_sortMembers]
  constructor
  · intro h k
    rw [h]
  · exact (sorted_sortMembers members).ext (sorted_sortMembers members')

/-- Converting the values of a sorted object gives a sorted object. -/
theorem Sorted.map {β : Type} (h : Sorted members) (f : α → β) :
    Sorted (members.map fun m => (m.1, f m.2)) := by
  unfold Sorted at *
  rwa [List.map_map]

/-- It does not matter whether values are converted before their keys are sorted or after. -/
theorem sortMembers_map {β : Type} (f : α → β) (members : List (String × α)) :
    sortMembers (members.map fun m => (m.1, f m.2)) =
      (sortMembers members).map fun m => (m.1, f m.2) := by
  refine (sorted_sortMembers _).ext ((sorted_sortMembers members).map f) fun k => ?_
  rw [lookup_map, lookup_sortMembers, lookup_sortMembers, valueOf?_map]

end SkaterLedger.Json
