import SkaterLedger.Proofs.Relations.WellFormed

/-!
# The first malformed id

Planning checks the ids of all relations before it looks at any pair, whether the pair has
duplicates or not. It fails exactly if some id is malformed, and names the first one in the order of
the relations and, within a relation, of its fields (`DeletionPlan.make_names_malformed`). The
checks of a relation are those of its fields one after the other, so that the checks of all
relations are one pass over all their fields, and a pass fails as its first failing element does.
-/

namespace SkaterLedger

namespace RecordId

/-- The characters of a table's name are the ASCII letters and digits and the underscore. -/
theorem isTableChar_iff {c : Char} : isTableChar c = true ↔ c.isAlphanum = true ∨ c = '_' := by
  have hupper : ('A' ≤ c && c ≤ 'Z') = c.isUpper :=
    (Bool.decide_and ('A' ≤ c) (c ≤ 'Z')).symm
  have halphanum : c.isAlphanum = ((c.isUpper || c.isLower) || c.isDigit) := rfl
  rw [isTableChar, hupper, halphanum, Bool.or_comm c.isUpper, Bool.or_eq_true, beq_iff_eq]
  rfl

/-- A text is well-formed if it has a colon, before the first of which stand one or more letters,
digits and underscores, and after which some character is not blank. -/
theorem wellFormed_iff {s : String} :
    WellFormed s ↔ ∃ table key, s.toList = table ++ ':' :: key ∧ ':' ∉ table ∧ table ≠ [] ∧
      (∀ c ∈ table, c.isAlphanum = true ∨ c = '_') ∧ ∃ c ∈ key, ¬ Text.isBlank c := by
  simp only [WellFormed, isTableChar_iff]
  constructor
  · -- A colon is no character of a table, so that the one behind the table is the first.
    rintro ⟨table, key, hs, hne, htable, hkey⟩
    exact ⟨table, key, hs, fun h => absurd (htable _ h) (by decide), hne, htable, hkey⟩
  · rintro ⟨table, key, hs, -, hne, htable, hkey⟩
    exact ⟨table, key, hs, hne, htable, hkey⟩

/-- An id is read from what it is shown as, and from nothing else. -/
theorem parse_eq_ok_iff {field : IdField} {s : String} {r : RecordId} :
    parse field s = .ok r ↔ r.toText = s ∧ r.Valid := by
  rw [← ofText?_eq_some_iff, parse]
  cases ofText? s <;> simp

/-- A text that is not well-formed is refused with the field that it stands in. -/
theorem parse_eq_error_iff {field : IdField} {s : String} {failure : Failure} :
    parse field s = .error failure ↔ ¬ WellFormed s ∧ failure = .malformedId field s := by
  rw [← ofText?_isSome_iff, parse]
  cases ofText? s <;> simp [eq_comm]

/-- Checks the id in a field. -/
def check (x : IdField × String) : Except Failure Unit := (parse x.1 x.2).map fun _ => ()

/-- The check of a field passes exactly on the well-formed ids. -/
theorem check_eq_ok_iff {x : IdField × String} : check x = .ok () ↔ WellFormed x.2 := by
  simp [check, map_eq_ok_iff, parse_isOk_iff]

/-- The check of a field fails exactly on the others, which it names. -/
theorem check_eq_error_iff {x : IdField × String} {failure : Failure} :
    check x = .error failure ↔ ¬ WellFormed x.2 ∧ failure = .malformedId x.1 x.2 := by
  rw [← parse_eq_error_iff, check]
  cases parse x.1 x.2 <;> simp [Except.map]

end RecordId

namespace Relation

/-- The ids of a relation with their fields, in the order in which they are checked. -/
def idFields (r : Relation) : List (IdField × String) :=
  [(.id, r.id), (.subject, r.subject), (.target, r.target)]

/-- The check of a relation is that of its fields. -/
theorem checkIds_eq_forM (r : Relation) : r.checkIds = r.idFields.forM RecordId.check := by
  simp only [idFields, List.forM_eq_forM, List.forM_cons, List.forM_nil, RecordId.check, checkIds]
  cases RecordId.parse .id r.id <;> cases RecordId.parse .subject r.subject <;>
    cases RecordId.parse .target r.target <;> rfl

/-- The checks of some relations are those of all their fields. -/
theorem forM_checkIds_eq_forM (relations : List Relation) :
    relations.forM checkIds = (relations.flatMap idFields).forM RecordId.check := by
  induction relations with
  | nil => rfl
  | cons r relations ih =>
    simp only [List.forM_eq_forM] at ih ⊢
    rw [List.forM_cons, List.flatMap_cons, List.forM_append, ih, checkIds_eq_forM]
    rfl

/-- All ids of a well-formed relation are well-formed. -/
theorem WellFormed.of_mem_idFields {r : Relation} (h : r.WellFormed) {x : IdField × String}
    (hx : x ∈ r.idFields) : RecordId.WellFormed x.2 := by
  simp only [idFields, List.mem_cons, List.not_mem_nil, or_false] at hx
  rcases hx with rfl | rfl | rfl
  · exact h.id
  · exact h.subject
  · exact h.target

end Relation

namespace DeletionPlan

variable {labels : Labels} {relations : List Relation} {failure : Failure}

/-- Planning fails exactly as the first malformed id says. -/
theorem make_eq_error_iff :
    make labels relations = .error failure ↔ ∃ before field value after,
      relations.flatMap Relation.idFields = before ++ (field, value) :: after ∧
      (∀ x ∈ before, RecordId.WellFormed x.2) ∧ ¬ RecordId.WellFormed value ∧
      failure = .malformedId field value := by
  -- Behind the checks nothing fails.
  have hmake : make labels relations = .error failure ↔
      relations.forM Relation.checkIds = .error failure := by
    rw [make]
    cases relations.forM Relation.checkIds <;> simp [bind, Except.bind]
  rw [hmake, Relation.forM_checkIds_eq_forM, forM_eq_error_iff]
  simp only [RecordId.check_eq_ok_iff, RecordId.check_eq_error_iff, Prod.exists]

/-- Planning finds a malformed id exactly if there is one. -/
theorem exists_malformedId_iff :
    (∃ field value, make labels relations = .error (.malformedId field value)) ↔
      ∃ r ∈ relations, ∃ x ∈ r.idFields, ¬ RecordId.WellFormed x.2 := by
  constructor
  · rintro ⟨field, value, h⟩
    obtain ⟨before, field', value', after, hsplit, -, hbad, -⟩ := make_eq_error_iff.mp h
    have hmem : (field', value') ∈ relations.flatMap Relation.idFields := by simp [hsplit]
    obtain ⟨r, hr, hx⟩ := List.mem_flatMap.mp hmem
    exact ⟨r, hr, _, hx, hbad⟩
  · rintro ⟨r, hr, x, hx, hbad⟩
    cases hmake : make labels relations with
    | ok plan =>
      have hformed := (make_eq_ok_iff.mp hmake).1 r hr
      exact absurd (hformed.of_mem_idFields hx) hbad
    | error failure =>
      obtain ⟨_, field, value, _, -, -, -, rfl⟩ := make_eq_error_iff.mp hmake
      exact ⟨field, value, rfl⟩

/-- Ids are accepted if they have a colon, before the first of which stand one or more ASCII
letters, digits and underscores and after which some character is not blank. An accepted text is
what the id is shown as, and an id whose table and key are such is read from what it is shown as.
Planning fails, and then for a malformed id, exactly if some id of some relation is not accepted; it
names the field and the text of the first one in the order of the relations and, within a relation,
of its own id, the skater's and the event's, whose fields are named `id`, `in` and `out`. -/
theorem make_names_malformed (labels : Labels) (relations : List Relation) :
    (∀ (field : IdField) (s : String), (∃ r, RecordId.parse field s = .ok r) ↔
      ∃ table key, s.toList = table ++ ':' :: key ∧ ':' ∉ table ∧ table ≠ [] ∧
        (∀ c ∈ table, c.isAlphanum = true ∨ c = '_') ∧ ∃ c ∈ key, ¬ Text.isBlank c) ∧
    (∀ (field : IdField) (s : String) (r : RecordId),
      RecordId.parse field s = .ok r ↔ r.toText = s ∧ r.Valid) ∧
    ((∃ field value, make labels relations = .error (.malformedId field value)) ↔
      ∃ r ∈ relations, ∃ x ∈ r.idFields, ¬ ∃ id, RecordId.parse x.1 x.2 = .ok id) ∧
    (∀ r : Relation, r.idFields.map (fun x => (x.1.name, x.2)) =
      [("id", r.id), ("in", r.subject), ("out", r.target)]) ∧
    ∀ failure, make labels relations = .error failure ↔ ∃ before field value after,
      relations.flatMap Relation.idFields = before ++ (field, value) :: after ∧
      (∀ x ∈ before, ∃ id, RecordId.parse x.1 x.2 = .ok id) ∧
      (¬ ∃ id, RecordId.parse field value = .ok id) ∧
      failure = .malformedId field value := by
  simp only [RecordId.parse_isOk_iff]
  exact ⟨fun _ _ => RecordId.wellFormed_iff, fun _ _ _ => RecordId.parse_eq_ok_iff,
    exists_malformedId_iff, fun _ => rfl, fun _ => make_eq_error_iff⟩

/-- A key may hold a colon, a table no letter beyond ASCII; of two faults the earlier is named. -/
example :
    make .empty
      [⟨"competed_in:1", "skater:ito:kei", "event:pony_3", none, none, none, none, none, none,
          none⟩,
        ⟨"competed_in:2", "skäter:ito", "event: ", none, none, none, none, none, none, none⟩] =
      .error (.malformedId .subject "skäter:ito") := by
  rfl

end DeletionPlan

end SkaterLedger
