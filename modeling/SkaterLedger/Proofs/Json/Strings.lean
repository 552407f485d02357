import Mathlib.Data.List.Basic
import Mathlib.Tactic.SplitIfs
import SkaterLedger.Json.Printer
import SkaterLedger.Json.Reading
import SkaterLedger.Proofs.Text.Utf8

/-!
# Strings of JSON text

A string that is printed is read back, whatever characters it has and whatever follows it: character
by character its text is taken apart into pieces (`pieces?_printString`), and the pieces are the
characters again (`chars?_map_piece`). Only control characters that have no short escape are written
as code units, and no control character is half of a surrogate pair.
-/

namespace SkaterLedger.Json

/-- The piece that a character is written as. -/
def piece (c : Char) : Piece :=
  if c.toNat < 0x20 ∧ c ∉ ['\n', '\r', '\t', '\x08', '\x0c'] then .unit c.toNat else .char c

/-- The pieces that a string is written as. -/
def pieces (s : String) : List Piece := s.toList.map piece

variable {c : Char} {cs rest : List Char} {n : ℕ} {ps : List Piece}

/-- The four digits of a control character read back. -/
theorem numberOfHex?_paddedHex : ∀ n < 0x20, (Text.paddedHex 4 n).length = 4 ∧
    Text.numberOfHex? (Text.paddedHex 4 n) = some n := by
  decide

/-- A code unit written with four digits is taken off the front. -/
theorem pieces?_unit (h : n < 0x20) (rest : List Char) :
    Tree.pieces? ('\\' :: 'u' :: Text.paddedHex 4 n ++ rest) =
      (Tree.pieces? rest).map fun p => (.unit n :: p.1, p.2) := by
  obtain ⟨hlength, hvalue⟩ := numberOfHex?_paddedHex n h
  match hdigits : Text.paddedHex 4 n, hlength with
  | [a, b, c, d], _ =>
    rw [hdigits] at hvalue
    cases hrest : Tree.pieces? rest <;> simp [Tree.pieces?, hvalue, hrest]

/-- A character with a short escape is taken off the front. -/
theorem pieces?_short {e : Char} (h : Tree.shortEscape? e = some c) (hu : e ≠ 'u')
    (rest : List Char) :
    Tree.pieces? ('\\' :: e :: rest) =
      (Tree.pieces? rest).map fun p => (.char c :: p.1, p.2) := by
  cases hrest : Tree.pieces? rest <;> simp [Tree.pieces?, h, hu, hrest]

/-- A character that stands for itself is taken off the front. -/
theorem pieces?_plain (hcontrol : ¬ c.toNat < 0x20) (hquote : c ≠ '"') (hescape : c ≠ '\\')
    (rest : List Char) :
    Tree.pieces? (c :: rest) = (Tree.pieces? rest).map fun p => (.char c :: p.1, p.2) := by
  cases hrest : Tree.pieces? rest <;> simp [Tree.pieces?, hcontrol, hescape, hrest]

/-- A character is taken off the front of a string as its piece. -/
theorem pieces?_escapeChar (c : Char) (rest : List Char) :
    Tree.pieces? (escapeChar c ++ rest) =
      (Tree.pieces? rest).map fun p => (piece c :: p.1, p.2) := by
  unfold escapeChar
  simp only [beq_iff_eq]
  split_ifs with h₁ h₂ h₃ h₄ h₅ h₆ h₇ h₈
  · subst h₁
    exact pieces?_short rfl (by decide) rest
  · subst h₂
    exact pieces?_short rfl (by decide) rest
  · subst h₃
    exact pieces?_short rfl (by decide) rest
  · subst h₄
    exact pieces?_short rfl (by decide) rest
  · subst h₅
    exact pieces?_short rfl (by decide) rest
  · subst h₆
    exact pieces?_short rfl (by decide) rest
  · subst h₇
    exact pieces?_short rfl (by decide) rest
  · have hpiece : piece c = .unit c.toNat := by simp [piece, h₃, h₄, h₅, h₆, h₇, h₈]
    rw [hpiece]
    exact pieces?_unit h₈ rest
  · have hpiece : piece c = .char c := by simp [piece, h₈]
    rw [hpiece]
    exact pieces?_plain h₈ h₁ h₂ rest

/-- A string that is printed is taken apart into its pieces, up to its closing quotation mark. -/
theorem pieces?_printString (s : String) (rest : List Char) :
    ∃ body, printString s ++ rest = '"' :: body ∧ Tree.pieces? body = some (pieces s, rest) := by
  refine ⟨s.toList.flatMap escapeChar ++ '"' :: rest, by simp [printString], ?_⟩
  unfold pieces
  generalize s.toList = cs
  induction cs with
  | nil => rfl
  | cons c cs ih =>
    rw [List.flatMap_cons, List.append_assoc, pieces?_escapeChar, ih, Option.map_some,
      List.map_cons]

/-- A code unit that is no half of a surrogate pair is a character. -/
theorem chars?_unit (h : n < 0xD800) (ps : List Piece) :
    chars? (.unit n :: ps) = (chars? ps).map (Char.ofNat n :: ·) := by
  have hhigh : isHighSurrogate n = false := by simp [isHighSurrogate]; omega
  have hlow : isLowSurrogate n = false := by simp [isLowSurrogate]; omega
  match ps with
  | [] => simp [chars?, hhigh, hlow]
  | .char c :: ps => simp [chars?, hhigh, hlow, Function.comp_def]
  | .unit m :: ps => simp [chars?, hhigh, hlow]

/-- The piece of a character is the character again. -/
theorem chars?_piece (c : Char) (ps : List Piece) :
    chars? (piece c :: ps) = (chars? ps).map (c :: ·) := by
  unfold piece
  split_ifs with h
  · rw [chars?_unit (by omega), Char.ofNat_toNat]
  · rw [chars?]

/-- The pieces of characters are the characters again. -/
theorem chars?_map_piece (cs : List Char) : chars? (cs.map piece) = some cs := by
  induction cs with
  | nil => rfl
  | cons c cs ih => rw [List.map_cons, chars?_piece, ih, Option.map_some]

/-- A string that is printed is read back. -/
theorem chars?_pieces (s : String) : chars? (pieces s) = some s.toList := chars?_map_piece _

end SkaterLedger.Json
