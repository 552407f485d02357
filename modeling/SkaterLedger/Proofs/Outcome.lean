import Mathlib.Data.List.Forall2

/-!
# Steps that may fail

A step of the store gives a result or a failure, and steps are chained so that the first failure is
the failure of the whole. What a chain needs in order to succeed, and to give a certain result, stated
once for all steps.
-/

namespace SkaterLedger

variable {ε ε' α β : Type}

/-- A chain succeeds exactly when its first step does and the rest does on the first one's result. -/
theorem bind_eq_ok_iff {x : Except ε α} {f : α → Except ε β} {b : β} :
    (x >>= f) = .ok b ↔ ∃ a, x = .ok a ∧ f a = .ok b := by
  cases x <;> simp [bind, Except.bind]

/-- A chain fails exactly when its first step does or the rest does on the first one's result. -/
theorem bind_eq_error_iff {x : Except ε α} {f : α → Except ε β} {failure : ε} :
    (x >>= f) = .error failure ↔
      x = .error failure ∨ ∃ a, x = .ok a ∧ f a = .error failure := by
  cases x <;> simp [bind, Except.bind]

/-- Renaming a failure changes no result. -/
theorem mapError_eq_ok_iff {x : Except ε α} {f : ε → ε'} {a : α} :
    x.mapError f = .ok a ↔ x = .ok a := by
  cases x <;> simp [Except.mapError]

/-- Changing a result does not change whether there is one. -/
theorem map_eq_ok_iff {x : Except ε α} {f : α → β} {b : β} :
    x.map f = .ok b ↔ ∃ a, x = .ok a ∧ f a = b := by
  cases x <;> simp [Except.map]

/-- Changing a result changes no failure. -/
theorem map_eq_error_iff {x : Except ε α} {f : α → β} {failure : ε} :
    x.map f = .error failure ↔ x = .error failure := by
  cases x <;> simp [Except.map]

/-- A step over a list succeeds exactly when it does on every element, with one result for each. -/
theorem mapM_eq_ok_iff {f : α → Except ε β} {as : List α} {bs : List β} :
    as.mapM f = .ok bs ↔ List.Forall₂ (fun a b => f a = .ok b) as bs := by
  induction as generalizing bs with
  | nil => cases bs <;> simp [pure, Except.pure]
  | cons a as ih =>
    rw [List.mapM_cons, bind_eq_ok_iff]
    constructor
    · rintro ⟨b, hb, h⟩
      obtain ⟨bs', hbs', h'⟩ := bind_eq_ok_iff.mp h
      obtain rfl : b :: bs' = bs := by simpa [pure, Except.pure] using h'
      exact .cons hb (ih.mp hbs')
    · rintro (_ | ⟨hb, hbs⟩)
      exact ⟨_, hb, bind_eq_ok_iff.mpr ⟨_, ih.mpr hbs, rfl⟩⟩

/-- A partial function over a list gives a value exactly when it does on every element. -/
theorem mapM_eq_some_iff {f : α → Option β} {as : List α} {bs : List β} :
    as.mapM f = some bs ↔ List.Forall₂ (fun a b => f a = some b) as bs := by
  induction as generalizing bs with
  | nil => cases bs <;> simp
  | cons a as ih =>
    rw [List.mapM_cons]
    constructor
    · intro h
      obtain ⟨b, hb, h⟩ := Option.bind_eq_some_iff.mp h
      obtain ⟨bs', hbs', h'⟩ := Option.bind_eq_some_iff.mp h
      obtain rfl : b :: bs' = bs := Option.some.inj h'
      exact .cons hb (ih.mp hbs')
    · rintro (_ | ⟨hb, hbs⟩)
      exact Option.bind_eq_some_iff.mpr ⟨_, hb, Option.bind_eq_some_iff.mpr ⟨_, ih.mpr hbs, rfl⟩⟩

/-- A check over a list passes exactly when it does on every element. -/
theorem forM_eq_ok_iff {f : α → Except ε Unit} {as : List α} :
    as.forM f = .ok () ↔ ∀ a ∈ as, f a = .ok () := by
  induction as with
  | nil => simp [pure, Except.pure]
  | cons a as ih =>
    simp only [List.forM_eq_forM] at ih ⊢
    rw [List.forM_cons, bind_eq_ok_iff, List.forall_mem_cons, ih]
    exact ⟨fun ⟨_, h⟩ => h, fun h => ⟨(), h⟩⟩

/-- A check over a list fails as it does on the first element on which it fails. -/
theorem forM_eq_error_iff {f : α → Except ε Unit} {as : List α} {failure : ε} :
    as.forM f = .error failure ↔ ∃ before a after, as = before ++ a :: after ∧
      (∀ b ∈ before, f b = .ok ()) ∧ f a = .error failure := by
  induction as with
  | nil => simp [pure, Except.pure]
  | cons a as ih =>
    simp only [List.forM_eq_forM] at ih ⊢
    rw [List.forM_cons]
    cases ha : f a with
    | error failure' =>
      -- The pass fails at once, with nothing in front of the failing element.
      constructor
      · intro h
        exact ⟨[], a, as, rfl, by simp, ha.trans h⟩
      · rintro ⟨_ | ⟨b, before⟩, a', after, heq, hbefore, ha'⟩
        · obtain ⟨rfl, -⟩ := List.cons.inj heq
          exact ha.symm.trans ha'
        · -- The first element is not in front of itself.
          obtain ⟨rfl, -⟩ := List.cons.inj heq
          simp [ha] at hbefore
    | ok u =>
      -- The failing element is the one of the rest, with one more in front of it.
      have hrest : (Except.ok u >>= fun _ => forM as f) = forM as f := rfl
      rw [hrest, ih]
      constructor
      · rintro ⟨before, a', after, rfl, hbefore, ha'⟩
        exact ⟨a :: before, a', after, rfl, List.forall_mem_cons.mpr ⟨ha, hbefore⟩, ha'⟩
      · rintro ⟨_ | ⟨b, before⟩, a', after, heq, hbefore, ha'⟩
        · obtain ⟨rfl, -⟩ := List.cons.inj heq
          simp [ha] at ha'
        · obtain ⟨rfl, rfl⟩ := List.cons.inj heq
          exact ⟨before, a', after, rfl, (List.forall_mem_cons.mp hbefore).2, ha'⟩

/-! ## Whether there is a result -/

/-- A step gives a result, whatever it is. -/
def Succeeds (x : Except ε α) : Prop := ∃ a, x = .ok a

/-- Whether a step gives a result can be asked of what it gives. -/
theorem isOk_iff {x : Except ε α} : x.isOk = true ↔ Succeeds x := by
  cases x <;> simp [Succeeds, Except.isOk, Except.toBool]

/-- Whether a step gives a result is told by taking it. -/
instance decidableSucceeds (x : Except ε α) : Decidable (Succeeds x) :=
  decidable_of_iff (x.isOk = true) isOk_iff

/-- A step that gives a result does not fail, and one that does not fails. -/
theorem not_succeeds_iff {x : Except ε α} : ¬ Succeeds x ↔ ∃ failure, x = .error failure := by
  cases x <;> simp [Succeeds]

/-- Whether a chain succeeds is decided by its rest, if its first step succeeds. -/
theorem succeeds_bind_iff {x : Except ε α} {f : α → Except ε β} :
    Succeeds (x >>= f) ↔ ∃ a, x = .ok a ∧ Succeeds (f a) := by
  cases x <;> simp [Succeeds, bind, Except.bind]

/-- A chain succeeds under the conditions of its first step and of its rest, if those of the rest do
not depend on the result of the first step. -/
theorem succeeds_bind_iff_and {x : Except ε α} {f : α → Except ε β} {P Q : Prop}
    (hx : Succeeds x ↔ P) (hf : ∀ a, x = .ok a → (Succeeds (f a) ↔ Q)) :
    Succeeds (x >>= f) ↔ P ∧ Q := by
  rw [succeeds_bind_iff]
  constructor
  · rintro ⟨a, ha, hrest⟩
    exact ⟨hx.mp ⟨a, ha⟩, (hf a ha).mp hrest⟩
  · rintro ⟨hP, hQ⟩
    obtain ⟨a, ha⟩ := hx.mpr hP
    exact ⟨a, ha, (hf a ha).mpr hQ⟩

/-- A step that uses the result of another without failing succeeds exactly when the other does. -/
theorem succeeds_bind_ok_iff {x : Except ε α} {f : α → β} :
    Succeeds (x >>= fun a => .ok (f a)) ↔ Succeeds x := by
  cases x <;> simp [Succeeds, bind, Except.bind]

/-- Renaming a failure does not change whether there is a result. -/
theorem succeeds_mapError_iff {x : Except ε α} {f : ε → ε'} :
    Succeeds (x.mapError f) ↔ Succeeds x := by
  cases x <;> simp [Succeeds, Except.mapError]

/-- Changing a result does not change whether there is one. -/
theorem succeeds_map_iff {x : Except ε α} {f : α → β} : Succeeds (x.map f) ↔ Succeeds x := by
  cases x <;> simp [Succeeds, Except.map]

/-- A step over a list succeeds exactly when it does on every element. -/
theorem succeeds_mapM_iff {f : α → Except ε β} {as : List α} :
    Succeeds (as.mapM f) ↔ ∀ a ∈ as, Succeeds (f a) := by
  simp only [Succeeds, mapM_eq_ok_iff]
  induction as with
  | nil => simp
  | cons a as ih =>
    rw [List.forall_mem_cons, ← ih]
    constructor
    · rintro ⟨_, _ | ⟨hb, hbs⟩⟩
      exact ⟨⟨_, hb⟩, _, hbs⟩
    · rintro ⟨⟨b, hb⟩, bs, hbs⟩
      exact ⟨b :: bs, .cons hb hbs⟩

/-- Every result of a step over a list is that of one of its elements. -/
theorem exists_of_mem_mapM {f : α → Except ε β} {as : List α} {bs : List β} {b : β}
    (h : as.mapM f = .ok bs) (hb : b ∈ bs) : ∃ a ∈ as, f a = .ok b := by
  have hall := mapM_eq_ok_iff.mp h
  clear h
  induction hall with
  | nil => cases hb
  | cons hfirst _ ih =>
    rcases List.mem_cons.mp hb with rfl | hb
    · exact ⟨_, List.mem_cons_self, hfirst⟩
    · obtain ⟨a, ha, hresult⟩ := ih hb
      exact ⟨a, List.mem_cons_of_mem _ ha, hresult⟩

/-- Every element of a list has a result when a step succeeds over the list. -/
theorem exists_mem_of_mapM {f : α → Except ε β} {as : List α} {bs : List β} {a : α}
    (h : as.mapM f = .ok bs) (ha : a ∈ as) : ∃ b ∈ bs, f a = .ok b := by
  have hall := mapM_eq_ok_iff.mp h
  clear h
  induction hall with
  | nil => cases ha
  | cons hfirst _ ih =>
    rcases List.mem_cons.mp ha with rfl | ha
    · exact ⟨_, List.mem_cons_self, hfirst⟩
    · obtain ⟨b, hb, hresult⟩ := ih ha
      exact ⟨b, List.mem_cons_of_mem _ hb, hresult⟩

end SkaterLedger
