import Mathlib.Data.List.Basic
import SkaterLedger.Proofs.Json.Numerals
import SkaterLedger.Proofs.Json.Strings

/-!
# Reading what was laid out

A printed value is read as its parse tree (`ofText?_laidOut`), wherever blanks stand between its
parts. The compact and the indented form differ in these blanks alone (`Spacing`), so one induction
over values serves both.
-/

namespace SkaterLedger.Json

/-- The blanks between the parts of a document. -/
structure Spacing where
  /-- What stands in front of the items and members of a depth, and in front of a bracket that closes
  at this depth. -/
  line : ℕ → List Char
  /-- What stands between the colon and the value of a member. -/
  gap : List Char
  /-- Only blanks stand in front. -/
  line_isSpace : ∀ depth, ∀ c ∈ line depth, Tree.isSpace c = true
  /-- Only blanks stand after the colon. -/
  gap_isSpace : ∀ c ∈ gap, Tree.isSpace c = true

/-- The blanks of the compact form: none. -/
def Spacing.compact : Spacing := ⟨fun _ => [], [], by simp, by simp⟩

/-- The blanks of the indented form. -/
def Spacing.indented : Spacing where
  line := newline
  gap := [' ']
  line_isSpace depth c hc := by
    rcases List.mem_cons.mp hc with rfl | hc
    · decide
    · rw [List.eq_of_mem_replicate hc]
      decide
  gap_isSpace := List.all_eq_true.mp rfl

mutual

/-- The text of a value at a depth. -/
def laidOut (σ : Spacing) (depth : ℕ) : Json → List Char
  | null => printWord none
  | bool b => printWord (some b)
  | int n => printInt n
  | real x => printReal x
  | str s => printString s
  | arr [] => ['[', ']']
  | arr items => '[' :: laidOutItems σ (depth + 1) items ++ σ.line depth ++ [']']
  | obj [] => ['\x7b', '\x7d']
  | obj members => '\x7b' :: laidOutMembers σ (depth + 1) members ++ σ.line depth ++ ['\x7d']

/-- The text of the items of an array. -/
def laidOutItems (σ : Spacing) (depth : ℕ) : List Json → List Char
  | [] => []
  | [v] => σ.line depth ++ laidOut σ depth v
  | v :: rest => σ.line depth ++ laidOut σ depth v ++ ',' :: laidOutItems σ depth rest

/-- The text of the members of an object. -/
def laidOutMembers (σ : Spacing) (depth : ℕ) : List (String × Json) → List Char
  | [] => []
  | [(k, v)] => σ.line depth ++ printString k ++ ':' :: σ.gap ++ laidOut σ depth v
  | (k, v) :: rest =>
    σ.line depth ++ printString k ++ ':' :: σ.gap ++ laidOut σ depth v ++
      ',' :: laidOutMembers σ depth rest

end

mutual

/-- The indented form is a layout. -/
theorem indented_eq (depth : ℕ) : ∀ v : Json, indented depth v = laidOut .indented depth v
  | null => rfl
  | bool _ => rfl
  | int _ => rfl
  | real _ => rfl
  | str _ => rfl
  | arr [] => rfl
  | arr (v :: items) => by
    simp [indented, laidOut, indentedItems_eq (depth + 1) (v :: items), Spacing.indented]
  | obj [] => rfl
  | obj (m :: members) => by
    simp [indented, laidOut, indentedMembers_eq (depth + 1) (m :: members), Spacing.indented]

/-- So is the indented form of items. -/
theorem indentedItems_eq (depth : ℕ) :
    ∀ items : List Json, indentedItems depth items = laidOutItems .indented depth items
  | [] => rfl
  | [v] => by simp [indentedItems, laidOutItems, indented_eq depth v, Spacing.indented]
  | v :: w :: items => by
    simp [indentedItems, laidOutItems, indented_eq depth v, indentedItems_eq depth (w :: items),
      Spacing.indented]

/-- So is the indented form of members. -/
theorem indentedMembers_eq (depth : ℕ) :
    ∀ members : List (String × Json),
      indentedMembers depth members = laidOutMembers .indented depth members
  | [] => rfl
  | [(k, v)] => by simp [indentedMembers, laidOutMembers, indented_eq depth v, Spacing.indented]
  | (k, v) :: m :: members => by
    simp [indentedMembers, laidOutMembers, indented_eq depth v,
      indentedMembers_eq depth (m :: members), Spacing.indented]

end

mutual

/-- The compact form is a layout, whatever the depth. -/
theorem compact_eq (depth : ℕ) : ∀ v : Json, compact v = laidOut .compact depth v
  | null => rfl
  | bool _ => rfl
  | int _ => rfl
  | real _ => rfl
  | str _ => rfl
  | arr [] => rfl
  | arr (v :: items) => by
    simp [compact, laidOut, compactItems_eq (depth + 1) (v :: items), Spacing.compact]
  | obj [] => rfl
  | obj (m :: members) => by
    simp [compact, laidOut, compactMembers_eq (depth + 1) (m :: members), Spacing.compact]

/-- So is the compact form of items. -/
theorem compactItems_eq (depth : ℕ) :
    ∀ items : List Json, compactItems items = laidOutItems .compact depth items
  | [] => rfl
  | [v] => by simp [compactItems, laidOutItems, compact_eq depth v, Spacing.compact]
  | v :: w :: items => by
    simp [compactItems, laidOutItems, compact_eq depth v, compactItems_eq depth (w :: items),
      Spacing.compact]

/-- So is the compact form of members. -/
theorem compactMembers_eq (depth : ℕ) :
    ∀ members : List (String × Json),
      compactMembers members = laidOutMembers .compact depth members
  | [] => rfl
  | [(k, v)] => by simp [compactMembers, laidOutMembers, compact_eq depth v, Spacing.compact]
  | (k, v) :: m :: members => by
    simp [compactMembers, laidOutMembers, compact_eq depth v,
      compactMembers_eq depth (m :: members), Spacing.compact]

end

namespace Tree

mutual

/-- The parse tree of a printed value. -/
def ofValue : Json → Tree
  | .null => .null
  | .bool b => .bool b
  | .int n => .number (.ofInt n)
  | .real x => if x.isFinite then .number (.ofReal x) else .null
  | .str s => .string (pieces s)
  | .arr items => .array (ofValues items)
  | .obj members => .object (ofMembers members)

/-- The parse trees of items. -/
def ofValues : List Json → List Tree
  | [] => []
  | v :: items => ofValue v :: ofValues items

/-- The parse trees of members, with the pieces of their keys. -/
def ofMembers : List (String × Json) → List (List Piece × Tree)
  | [] => []
  | (k, v) :: members => (pieces k, ofValue v) :: ofMembers members

end

variable {σ : Spacing} {fuel depth : ℕ} {blanks rest : List Char} {c : Char} {cs : List Char}

/-! ## Blanks -/

/-- Blanks in front of a text are skipped. -/
theorem skipSpace_append (h : ∀ c ∈ blanks, isSpace c = true) (cs : List Char) :
    skipSpace (blanks ++ cs) = skipSpace cs :=
  List.dropWhile_append_of_pos h

/-- A text that starts with something else is left as it is. -/
theorem skipSpace_cons (h : isSpace c = false) (cs : List Char) : skipSpace (c :: cs) = c :: cs := by
  simp [skipSpace, h]

/-- Skipping blanks twice is skipping them once. -/
theorem skipSpace_skipSpace (cs : List Char) : skipSpace (skipSpace cs) = skipSpace cs :=
  List.dropWhile_idempotent isSpace cs

/-- Blanks in front of a value are skipped. -/
theorem value?_skipSpace (fuel : ℕ) (cs : List Char) :
    value? fuel (skipSpace cs) = value? fuel cs := by
  cases fuel with
  | zero => rfl
  | succ fuel =>
    unfold value?
    rw [skipSpace_skipSpace]

/-- Blanks in front of a value do not matter. -/
theorem value?_append (h : ∀ c ∈ blanks, isSpace c = true) (fuel : ℕ) (cs : List Char) :
    value? fuel (blanks ++ cs) = value? fuel cs := by
  rw [← value?_skipSpace, skipSpace_append h, value?_skipSpace]

/-! ## Values without parts -/

/-- A string is read. -/
theorem value?_printString (s : String) (fuel : ℕ) (rest : List Char) :
    value? (fuel + 1) (printString s ++ rest) = some (.string (pieces s), rest) := by
  obtain ⟨body, htext, hbody⟩ := pieces?_printString s rest
  rw [htext, value?, skipSpace_cons (by decide)]
  simp [hbody]

/-- What starts neither a word nor a string, an array or an object is read as a number. -/
theorem value?_of_head (hspace : isSpace c = false) (h : c ∉ ['"', 'n', 't', 'f', '[', '\x7b'])
    (fuel : ℕ) (cs : List Char) :
    value? (fuel + 1) (c :: cs) = (numeral? (c :: cs)).map fun p => (.number p.1, p.2) := by
  simp only [List.mem_cons, List.not_mem_nil, or_false, not_or] at h
  rw [value?, skipSpace_cons hspace]
  simp [h]

/-- A number is read. -/
theorem value?_numeral {n : Numeral} (hn : n.Valid) (hrest : Numeral.Ended rest) (fuel : ℕ) :
    value? (fuel + 1) (n.text ++ rest) = some (.number n, rest) := by
  have hread := Numeral.numeral?_text hn hrest
  obtain ⟨c, cs, htext, hspace, hhead⟩ : ∃ c cs, n.text = c :: cs ∧ isSpace c = false ∧
      c ∉ ['"', 'n', 't', 'f', '[', '\x7b'] := by
    unfold Numeral.text
    cases n.negative with
    | true => exact ⟨'-', n.body, rfl, by decide, by decide⟩
    | false =>
      obtain ⟨d, ds, hds⟩ := List.exists_cons_of_ne_nil hn.whole.1
      have hd := hn.whole.2 d (hds ▸ List.mem_cons_self)
      refine ⟨d, ds ++ (Numeral.fractionText n.fraction ++ Numeral.exponentText n.exponent),
        by simp [Numeral.body, hds], ?_, ?_⟩
      · rw [Bool.eq_false_iff]
        intro hspace
        simp only [isSpace, Bool.or_eq_true, beq_iff_eq] at hspace
        rcases hspace with ((rfl | rfl) | rfl) | rfl <;> exact absurd hd (by decide)
      · intro hmem
        simp only [List.mem_cons, List.not_mem_nil, or_false] at hmem
        rcases hmem with rfl | rfl | rfl | rfl | rfl | rfl <;> exact absurd hd (by decide)
  rw [htext, List.cons_append] at hread ⊢
  rw [value?_of_head hspace hhead, hread, Option.map_some]

/-- A word is read. -/
theorem value?_printWord (w : Option Bool) (fuel : ℕ) (rest : List Char) :
    value? (fuel + 1) (printWord w ++ rest) = some (ofValue (w.elim .null .bool), rest) := by
  match w with
  | none | some true | some false => rfl

/-- A number with a point or an exponent is read; infinity is read as `null`. -/
theorem value?_printReal (x : Binary64) (hrest : Numeral.Ended rest) (fuel : ℕ) :
    value? (fuel + 1) (printReal x ++ rest) = some (ofValue (.real x), rest) := by
  unfold ofValue
  cases h : x.isFinite with
  | true =>
    rw [Numeral.printReal_eq_text h, value?_numeral (Numeral.valid_ofReal x) hrest]
    rfl
  | false =>
    unfold printReal
    rw [h]
    exact value?_printWord none fuel rest

/-! ## Arrays and objects -/

variable {item : Tree} {items : List Tree} {key : List Piece} {members : List (List Piece × Tree)}

/-- An array of no items is read. -/
theorem value?_nil_array (fuel : ℕ) (rest : List Char) :
    value? (fuel + 1) ('[' :: ']' :: rest) = some (.array [], rest) := rfl

/-- An object of no members is read. -/
theorem value?_nil_object (fuel : ℕ) (rest : List Char) :
    value? (fuel + 1) ('\x7b' :: '\x7d' :: rest) = some (.object [], rest) := rfl

/-- The last item of an array is read up to the closing bracket. -/
theorem items?_last (hitem : value? fuel cs = some (item, blanks ++ ']' :: rest))
    (hblanks : ∀ c ∈ blanks, isSpace c = true) : items? (fuel + 1) cs = some ([item], rest) := by
  have hskip : skipSpace (blanks ++ ']' :: rest) = ']' :: rest := by
    rw [skipSpace_append hblanks, skipSpace_cons (by decide)]
  simp [items?, hitem, hskip]

/-- An item with more items behind it is read up to the comma. -/
theorem items?_cons {cs' : List Char} (hitem : value? fuel cs = some (item, ',' :: cs'))
    (hitems : items? fuel cs' = some (items, rest)) :
    items? (fuel + 1) cs = some (item :: items, rest) := by
  have hskip : skipSpace (',' :: cs') = ',' :: cs' := skipSpace_cons (by decide) cs'
  simp [items?, hitem, hskip, hitems]

/-- No value starts with a closing bracket. -/
theorem value?_close (fuel : ℕ) (cs : List Char) : value? fuel (']' :: cs) = none := by
  cases fuel with
  | zero => rfl
  | succ fuel =>
    rw [value?_of_head (by decide) (by decide)]
    rfl

/-- An array is read once its items are. -/
theorem value?_array (h : items? fuel cs = some (items, rest)) :
    value? (fuel + 1) ('[' :: cs) = some (.array items, rest) := by
  have hskip : items? fuel (skipSpace cs) = items? fuel cs := by
    cases fuel with
    | zero => rfl
    | succ fuel =>
      unfold items?
      rw [value?_skipSpace]
  have hclose : ∀ cs', skipSpace cs ≠ ']' :: cs' := by
    intro cs' hcs
    rw [← hskip, hcs] at h
    cases fuel with
    | zero => simp [items?] at h
    | succ fuel => simp [items?, value?_close] at h
  rw [value?, skipSpace_cons (by decide)]
  simp [hskip, h]

/-- The last member of an object is read up to the closing brace. -/
theorem members?_last {body cs' : List Char} (hskip : skipSpace cs = '"' :: body)
    (hkey : pieces? body = some (key, ':' :: cs'))
    (hitem : value? fuel cs' = some (item, blanks ++ '\x7d' :: rest))
    (hblanks : ∀ c ∈ blanks, isSpace c = true) :
    members? (fuel + 1) cs = some ([(key, item)], rest) := by
  have hcolon : skipSpace (':' :: cs') = ':' :: cs' := skipSpace_cons (by decide) cs'
  have hclose : skipSpace (blanks ++ '\x7d' :: rest) = '\x7d' :: rest := by
    rw [skipSpace_append hblanks, skipSpace_cons (by decide)]
  simp [members?, hskip, hkey, hcolon, hitem, hclose]

/-- A member with more members behind it is read up to the comma. -/
theorem members?_cons {body cs' cs'' : List Char} (hskip : skipSpace cs = '"' :: body)
    (hkey : pieces? body = some (key, ':' :: cs'))
    (hitem : value? fuel cs' = some (item, ',' :: cs''))
    (hmembers : members? fuel cs'' = some (members, rest)) :
    members? (fuel + 1) cs = some ((key, item) :: members, rest) := by
  have hcolon : skipSpace (':' :: cs') = ':' :: cs' := skipSpace_cons (by decide) cs'
  have hcomma : skipSpace (',' :: cs'') = ',' :: cs'' := skipSpace_cons (by decide) cs''
  simp [members?, hskip, hkey, hcolon, hitem, hcomma, hmembers]

/-- An object is read once its members are. -/
theorem value?_object (h : members? fuel cs = some (members, rest)) :
    value? (fuel + 1) ('\x7b' :: cs) = some (.object members, rest) := by
  have hskip : members? fuel (skipSpace cs) = members? fuel cs := by
    cases fuel with
    | zero => rfl
    | succ fuel =>
      unfold members?
      rw [skipSpace_skipSpace]
  have hclose : ∀ cs', skipSpace cs ≠ '\x7d' :: cs' := by
    intro cs' hcs
    rw [← hskip, hcs] at h
    cases fuel with
    | zero => simp [members?] at h
    | succ fuel =>
      have hbrace : skipSpace ('\x7d' :: cs') = '\x7d' :: cs' := skipSpace_cons (by decide) cs'
      simp [members?, hbrace] at h
  rw [value?, skipSpace_cons (by decide)]
  simp [hskip, h]

/-! ## Layouts -/

/-- A character that does not go on with a numeral ends it. -/
theorem ended_cons (hc : Numeral.continues c = false) (rest : List Char) :
    Numeral.Ended (c :: rest) := by
  intro d hd
  obtain rfl : c = d := Option.some.inj hd
  exact hc

/-- Blanks end a numeral as well, whatever character stands behind them. -/
theorem ended_append (hblanks : ∀ c ∈ blanks, isSpace c = true) (hc : Numeral.continues c = false)
    (rest : List Char) : Numeral.Ended (blanks ++ c :: rest) := by
  cases blanks with
  | nil => exact ended_cons hc rest
  | cons b blanks =>
    have hb := hblanks b List.mem_cons_self
    refine ended_cons ?_ (blanks ++ c :: rest)
    simp only [isSpace, Bool.or_eq_true, beq_iff_eq] at hb
    rcases hb with ((rfl | rfl) | rfl) | rfl <;> decide

/-- Every value has a text. -/
theorem laidOut_ne_nil (σ : Spacing) (depth : ℕ) (v : Json) : laidOut σ depth v ≠ [] := by
  match v with
  | .null | .bool true | .bool false | .arr [] | .obj [] => exact List.cons_ne_nil _ _
  | .int n =>
    rw [laidOut, Numeral.printInt_eq_text]
    exact (Numeral.valid_ofInt n).text_ne_nil
  | .real x =>
    rw [laidOut]
    cases h : x.isFinite with
    | true =>
      rw [Numeral.printReal_eq_text h]
      exact (Numeral.valid_ofReal x).text_ne_nil
    | false => simp [printReal, h]
  | .str s => simp [laidOut, printString]
  | .arr (v :: items) => simp [laidOut]
  | .obj (m :: members) => simp [laidOut]

mutual

/-- A value that was laid out is read as its parse tree, if nothing follows that could belong to
it. -/
theorem value?_laidOut (σ : Spacing) (depth fuel : ℕ) (rest : List Char) (v : Json)
    (hfuel : 2 * (laidOut σ depth v).length ≤ fuel + 1) (hrest : Numeral.Ended rest) :
    value? fuel (laidOut σ depth v ++ rest) = some (ofValue v, rest) := by
  have hlength := List.length_pos_iff.mpr (laidOut_ne_nil σ depth v)
  obtain ⟨fuel, rfl⟩ : ∃ n, fuel = n + 1 := ⟨fuel - 1, by omega⟩
  match v with
  | .null => exact value?_printWord none fuel rest
  | .bool b => exact value?_printWord (some b) fuel rest
  | .int n =>
    rw [laidOut, Numeral.printInt_eq_text, value?_numeral (Numeral.valid_ofInt n) hrest]
    rfl
  | .real x => exact value?_printReal x hrest fuel
  | .str s => exact value?_printString s fuel rest
  | .arr [] => exact value?_nil_array fuel rest
  | .arr (v :: items) =>
    simp only [laidOut, List.length_cons, List.length_append] at hfuel
    have hitems := items?_laidOut σ (depth + 1) fuel rest (σ.line_isSpace depth) (v :: items)
      (List.cons_ne_nil _ _) (by omega)
    simpa [laidOut, ofValue] using value?_array hitems
  | .obj [] => exact value?_nil_object fuel rest
  | .obj (m :: members) =>
    simp only [laidOut, List.length_cons, List.length_append] at hfuel
    have hmembers := members?_laidOut σ (depth + 1) fuel rest (σ.line_isSpace depth) (m :: members)
      (List.cons_ne_nil _ _) (by omega)
    simpa [laidOut, ofValue] using value?_object hmembers

/-- The items of an array that were laid out are read up to the closing bracket. -/
theorem items?_laidOut (σ : Spacing) (depth fuel : ℕ) (rest : List Char) {blanks : List Char}
    (hblanks : ∀ c ∈ blanks, isSpace c = true) (items : List Json) (hitems : items ≠ [])
    (hfuel : 2 * (laidOutItems σ depth items).length ≤ fuel) :
    items? fuel (laidOutItems σ depth items ++ (blanks ++ ']' :: rest)) =
      some (ofValues items, rest) := by
  match items with
  | [v] =>
    have hlength := List.length_pos_iff.mpr (laidOut_ne_nil σ depth v)
    simp only [laidOutItems, List.length_append] at hfuel
    obtain ⟨fuel, rfl⟩ : ∃ n, fuel = n + 1 := ⟨fuel - 1, by omega⟩
    have hv := value?_laidOut σ depth fuel (blanks ++ ']' :: rest) v (by omega)
      (ended_append hblanks (by decide) rest)
    rw [← value?_append (σ.line_isSpace depth)] at hv
    simpa [laidOutItems, ofValues] using items?_last hv hblanks
  | v :: w :: items =>
    simp only [laidOutItems, List.length_append, List.length_cons] at hfuel
    obtain ⟨fuel, rfl⟩ : ∃ n, fuel = n + 1 := ⟨fuel - 1, by omega⟩
    have hmore := items?_laidOut σ depth fuel rest hblanks (w :: items) (List.cons_ne_nil _ _)
      (by omega)
    have hv := value?_laidOut σ depth fuel
      (',' :: (laidOutItems σ depth (w :: items) ++ (blanks ++ ']' :: rest))) v (by omega)
      (ended_cons (by decide) _)
    rw [← value?_append (σ.line_isSpace depth)] at hv
    simpa [laidOutItems, ofValues] using items?_cons hv hmore

/-- The members of an object that were laid out are read up to the closing brace. -/
theorem members?_laidOut (σ : Spacing) (depth fuel : ℕ) (rest : List Char) {blanks : List Char}
    (hblanks : ∀ c ∈ blanks, isSpace c = true) (members : List (String × Json))
    (hmembers : members ≠ []) (hfuel : 2 * (laidOutMembers σ depth members).length ≤ fuel) :
    members? fuel (laidOutMembers σ depth members ++ (blanks ++ '\x7d' :: rest)) =
      some (ofMembers members, rest) := by
  match members with
  | [(k, v)] =>
    simp only [laidOutMembers, List.length_append, List.length_cons] at hfuel
    obtain ⟨fuel, rfl⟩ : ∃ n, fuel = n + 1 := ⟨fuel - 1, by omega⟩
    have hv := value?_laidOut σ depth fuel (blanks ++ '\x7d' :: rest) v (by omega)
      (ended_append hblanks (by decide) rest)
    rw [← value?_append σ.gap_isSpace] at hv
    obtain ⟨body, hbody, hkey⟩ := pieces?_printString k
      (':' :: (σ.gap ++ (laidOut σ depth v ++ (blanks ++ '\x7d' :: rest))))
    have hskip : skipSpace (laidOutMembers σ depth [(k, v)] ++ (blanks ++ '\x7d' :: rest)) =
        '"' :: body := by
      rw [← skipSpace_cons (by decide : isSpace '"' = false) body, ← hbody]
      simp [laidOutMembers, skipSpace_append (σ.line_isSpace depth)]
    exact members?_last hskip hkey hv hblanks
  | (k, v) :: m :: members =>
    simp only [laidOutMembers, List.length_append, List.length_cons] at hfuel
    obtain ⟨fuel, rfl⟩ : ∃ n, fuel = n + 1 := ⟨fuel - 1, by omega⟩
    have hmore := members?_laidOut σ depth fuel rest hblanks (m :: members) (List.cons_ne_nil _ _)
      (by omega)
    have hv := value?_laidOut σ depth fuel
      (',' :: (laidOutMembers σ depth (m :: members) ++ (blanks ++ '\x7d' :: rest))) v (by omega)
      (ended_cons (by decide) _)
    rw [← value?_append σ.gap_isSpace] at hv
    obtain ⟨body, hbody, hkey⟩ := pieces?_printString k
      (':' :: (σ.gap ++ (laidOut σ depth v ++
        ',' :: (laidOutMembers σ depth (m :: members) ++ (blanks ++ '\x7d' :: rest)))))
    have hskip : skipSpace (laidOutMembers σ depth ((k, v) :: m :: members) ++
        (blanks ++ '\x7d' :: rest)) = '"' :: body := by
      rw [← skipSpace_cons (by decide : isSpace '"' = false) body, ← hbody]
      simp [laidOutMembers, skipSpace_append (σ.line_isSpace depth)]
    exact members?_cons hskip hkey hv hmore

end

/-- A document that was laid out is read as the parse tree of its value. -/
theorem ofText?_laidOut (σ : Spacing) (depth : ℕ) (v : Json) :
    ofText? (laidOut σ depth v) = some (ofValue v) := by
  have hread := value?_laidOut σ depth (2 * (laidOut σ depth v).length + 2) [] v (by omega)
    nofun
  rw [List.append_nil] at hread
  unfold ofText?
  rw [hread]
  rfl

end Tree

/-- A document in indented form is read as the parse tree of its value. -/
theorem ofText?_toIndented (v : Json) : Tree.ofText? v.toIndented.toList = some (.ofValue v) := by
  rw [toIndented, String.toList_ofList, indented_eq]
  exact Tree.ofText?_laidOut .indented 0 v

/-- A document in compact form is read as the parse tree of its value. -/
theorem ofText?_compact (v : Json) : Tree.ofText? v.compact = some (.ofValue v) := by
  rw [compact_eq 0]
  exact Tree.ofText?_laidOut .compact 0 v

end SkaterLedger.Json
