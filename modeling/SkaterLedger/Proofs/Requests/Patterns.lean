import Mathlib.Data.List.TakeWhile
import SkaterLedger.Proofs.Text.Decimal
import SkaterLedger.Proofs.Text.Search
import SkaterLedger.Requests.Status

/-!
# Searching for amounts in a frame

A frame stands at the start of a text if its parts are found there one after another, with an amount
between every two of them. As many characters as possible are taken for an amount, and no other
choice leads to an amount that the next part follows, since a part starts with a character that no
amount has (`amountsAt?_eq_some_iff`). In a text the frame is found where it stands first
(`findAmounts?_append`, `findAmounts?_eq_none_iff`).
-/

namespace SkaterLedger.StatusPattern

variable {part next cs amount rest : List Char} {parts amounts : List (List Char)}

/-! ## Amounts -/

/-- An amount as it may stand in a text: digits, of which there is one at least, possibly a point,
and possibly more digits. -/
def IsAmount (cs : List Char) : Prop :=
  ∃ whole point fraction, cs = whole ++ (point ++ fraction) ∧ whole ≠ [] ∧
    (∀ c ∈ whole, Text.isDigit c = true) ∧ (point = [] ∨ point = ['.']) ∧
    ∀ c ∈ fraction, Text.isDigit c = true

/-- An amount starts with a digit. -/
theorem IsAmount.exists_cons (h : IsAmount amount) :
    ∃ d ds, amount = d :: ds ∧ Text.isDigit d = true := by
  obtain ⟨whole, point, fraction, rfl, hne, hwhole, -, -⟩ := h
  obtain ⟨d, ds, rfl⟩ := List.exists_cons_of_ne_nil hne
  exact ⟨d, ds ++ (point ++ fraction), rfl, hwhole d List.mem_cons_self⟩

/-- An amount is a run of digits, possibly with a point and one more run behind it. -/
theorem IsAmount.exists_whole (h : IsAmount amount) :
    ∃ whole, whole ≠ [] ∧ (∀ c ∈ whole, Text.isDigit c = true) ∧
      (amount = whole ∨ ∃ fraction, (∀ c ∈ fraction, Text.isDigit c = true) ∧
        amount = whole ++ '.' :: fraction) := by
  obtain ⟨whole, point, fraction, rfl, hne, hwhole, rfl | rfl, hfraction⟩ := h
  · have hall : ∀ c ∈ whole ++ fraction, Text.isDigit c = true := fun c hc =>
      (List.mem_append.mp hc).elim (hwhole c) (hfraction c)
    exact ⟨whole ++ fraction, List.append_ne_nil_of_left_ne_nil hne _, hall, .inl rfl⟩
  · exact ⟨whole, hne, hwhole, .inr ⟨fraction, hfraction, rfl⟩⟩

/-- An amount does not go on with a text. -/
def EndsAmount (cs : List Char) : Prop := ∀ c ∈ cs.head?, Text.isDigit c = false ∧ c ≠ '.'

instance : (cs : List Char) → Decidable (EndsAmount cs)
  | [] => .isTrue (by simp [EndsAmount])
  | c :: _ => decidable_of_iff (Text.isDigit c = false ∧ c ≠ '.') (by simp [EndsAmount])

/-- An amount is taken as a whole where it does not go on. -/
theorem amount?_append (h : IsAmount amount) (hrest : EndsAmount rest) :
    amount? (amount ++ rest) = some (amount, rest) := by
  have hdigit : ∀ c ∈ rest.head?, Text.isDigit c = false := fun c hc => (hrest c hc).1
  have hpoint (more : List Char) : ∀ c ∈ ('.' :: more).head?, Text.isDigit c = false := by
    rintro c ⟨⟩
    decide
  obtain ⟨whole, hne, hwhole, rfl | ⟨fraction, hfraction, rfl⟩⟩ := h.exists_whole
  · unfold amount?
    dsimp only
    rw [Text.takeWhile_append_of_head? hwhole hdigit, Text.dropWhile_append_of_head? hwhole hdigit,
      if_neg (by simpa using hne)]
    split
    · exact absurd rfl (hrest '.' rfl).2
    · rfl
  · unfold amount?
    dsimp only
    rw [List.append_assoc, List.cons_append, Text.takeWhile_append_of_head? hwhole (hpoint _),
      Text.dropWhile_append_of_head? hwhole (hpoint _), if_neg (by simpa using hne)]
    simp only [Text.takeWhile_append_of_head? hfraction hdigit,
      Text.dropWhile_append_of_head? hfraction hdigit]

/-- What is taken is an amount. -/
theorem isAmount_of_amount? (h : amount? cs = some (amount, rest)) :
    IsAmount amount ∧ cs = amount ++ rest := by
  have hdigits (cs : List Char) : ∀ c ∈ cs.takeWhile Text.isDigit, Text.isDigit c = true :=
    fun c hc => List.mem_takeWhile_imp hc
  have hcut := List.takeWhile_append_dropWhile (p := Text.isDigit) (l := cs)
  unfold amount? at h
  dsimp only at h
  split_ifs at h with hempty
  have hne : cs.takeWhile Text.isDigit ≠ [] := by simpa using hempty
  split at h
  · rename_i more hpoint
    obtain ⟨rfl, rfl⟩ := Prod.mk.inj (Option.some.inj h)
    refine ⟨⟨_, ['.'], _, rfl, hne, hdigits cs, .inr rfl, hdigits more⟩, ?_⟩
    rw [List.append_assoc, List.cons_append, List.takeWhile_append_dropWhile, ← hpoint, hcut]
  · obtain ⟨rfl, rfl⟩ := Prod.mk.inj (Option.some.inj h)
    refine ⟨⟨_, [], [], ?_, hne, hdigits cs, .inl rfl, List.forall_mem_nil _⟩, hcut.symm⟩
    rw [List.append_nil, List.append_nil]

/-! ## Frames -/

/-- A text starts with a frame that has the amounts between its parts. -/
inductive Starts : List (List Char) → List (List Char) → List Char → Prop
  /-- The last part stands there. -/
  | last (part rest : List Char) : Starts [part] [] (part ++ rest)
  /-- A part stands there, and behind it an amount and the rest of the frame. -/
  | amount {part amount rest : List Char} {parts amounts : List (List Char)} :
    IsAmount amount → Starts parts amounts rest →
      Starts (part :: parts) (amount :: amounts) (part ++ (amount ++ rest))

/-- A frame of one part stands at the start of this part. -/
theorem starts_singleton (part : List Char) : Starts [part] [] part := by
  have hstarts := Starts.last part []
  rwa [List.append_nil] at hstarts

/-- A frame whose parts, but the first, end an amount in front of them. -/
def Separates (parts : List (List Char)) : Prop := ∀ part ∈ parts.tail, part ≠ [] ∧ EndsAmount part

instance (parts : List (List Char)) : Decidable (Separates parts) :=
  inferInstanceAs (Decidable (∀ part ∈ parts.tail, part ≠ [] ∧ EndsAmount part))

/-- The frames of all patterns do. -/
theorem separates_frame (pattern : StatusPattern) : Separates pattern.frame := by
  cases pattern <;> decide

/-- No frame is without parts. -/
theorem frame_ne_nil (pattern : StatusPattern) : pattern.frame ≠ [] := by
  cases pattern <;> exact List.cons_ne_nil _ _

/-- A text that starts with a part ends an amount if the part does. -/
theorem Starts.endsAmount (h : Starts (part :: parts) amounts cs) (hne : part ≠ [])
    (hpart : EndsAmount part) : EndsAmount cs := by
  have hhead : cs.head? = part.head? := by
    cases h <;> exact List.head?_append_of_ne_nil _ hne
  unfold EndsAmount
  rwa [hhead]

/-- The amounts of a frame at the start of a text are found there, and no others. -/
theorem amountsAt?_eq_some_iff (hne : parts ≠ []) (hparts : Separates parts) :
    amountsAt? parts cs = some amounts ↔ Starts parts amounts cs := by
  induction parts generalizing cs amounts with
  | nil => exact absurd rfl hne
  | cons part parts ih =>
    cases parts with
    | nil =>
      constructor
      · intro h
        unfold amountsAt? at h
        split_ifs at h with hpart
        obtain rfl := Option.some.inj h
        obtain ⟨rest, rfl⟩ := List.isPrefixOf_iff_prefix.mp hpart
        exact .last part rest
      · intro h
        cases h with
        | last _ rest => rw [amountsAt?, if_pos (Text.isPrefixOf_append part rest)]
        | amount _ h => cases h
    | cons next parts =>
      have hnext : next ≠ [] ∧ EndsAmount next := hparts next List.mem_cons_self
      have htail : Separates (next :: parts) := fun p hp => hparts p (List.mem_cons_of_mem _ hp)
      constructor
      · intro h
        unfold amountsAt? at h
        split_ifs at h with hpart
        obtain ⟨more, rfl⟩ := List.isPrefixOf_iff_prefix.mp hpart
        obtain ⟨⟨amount, rest⟩, hamount, h⟩ := Option.bind_eq_some_iff.mp h
        obtain ⟨later, hlater, h⟩ := Option.bind_eq_some_iff.mp h
        obtain rfl := Option.some.inj h
        rw [List.drop_left] at hamount
        obtain ⟨hisAmount, rfl⟩ := isAmount_of_amount? hamount
        exact .amount hisAmount ((ih (List.cons_ne_nil _ _) htail).mp hlater)
      · intro h
        cases h with
        | @amount _ amount rest _ later hamount hrest =>
          have hfound := amount?_append hamount (hrest.endsAmount hnext.1 hnext.2)
          have hlater := (ih (List.cons_ne_nil _ _) htail).mpr hrest
          rw [amountsAt?, if_pos (Text.isPrefixOf_append part _), List.drop_left, hfound]
          · simp [hlater]
          · simp

/-! ## Where a frame stands first -/

/-- A frame that nowhere begins in the first characters is found in the others. -/
theorem findAmounts?_append {xs : List Char}
    (h : ∀ ys, ys ≠ [] → ys <:+ xs → amountsAt? parts (ys ++ cs) = none) :
    findAmounts? parts (xs ++ cs) = findAmounts? parts cs := by
  induction xs with
  | nil => rfl
  | cons x xs ih =>
    have hhere : amountsAt? parts (x :: (xs ++ cs)) = none :=
      h (x :: xs) (List.cons_ne_nil _ _) (List.suffix_refl _)
    rw [List.cons_append, findAmounts?, hhere]
    exact ih fun ys hne hys => h ys hne (hys.trans (List.suffix_cons x xs))

/-- A frame is not found in a text in which it stands nowhere. -/
theorem findAmounts?_eq_none_iff :
    findAmounts? parts cs = none ↔ ∀ rest, rest <:+ cs → amountsAt? parts rest = none := by
  induction cs with
  | nil => simp [findAmounts?]
  | cons c cs ih =>
    unfold findAmounts?
    cases hhere : amountsAt? parts (c :: cs) with
    | some amounts =>
      refine ⟨nofun, fun h => ?_⟩
      rw [h _ (List.suffix_refl _)] at hhere
      cases hhere
    | none =>
      simp only [ih, List.suffix_cons_iff, or_imp, forall_and, forall_eq, hhere, true_and]

/-- The frame of a pattern at the start of a text is found first. -/
theorem findAmounts?_of_starts {pattern : StatusPattern} (h : Starts pattern.frame amounts cs) :
    findAmounts? pattern.frame cs = some amounts := by
  have hat := (amountsAt?_eq_some_iff (frame_ne_nil pattern) (separates_frame pattern)).mpr h
  cases cs with
  | nil => exact hat
  | cons c cs => rw [findAmounts?, hat]

end SkaterLedger.StatusPattern
