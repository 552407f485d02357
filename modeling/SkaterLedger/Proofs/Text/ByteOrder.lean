import Mathlib.Data.String.Basic
import Mathlib.Tactic.SplitIfs
import SkaterLedger.Text.Utf8

/-!
# The order of bytes

Ids and timestamps are ordered by their bytes, while a `String` is compared by its code points. UTF-8
makes the two the same: `encodeChar_append_lt` shows that a smaller character has the smaller bytes,
whatever follows, since the leading byte grows with the number of bytes and the continuation bytes
are the digits of the code point to base 64. `precedes_iff_lt` carries this over to strings.
-/

namespace SkaterLedger.Text

/-- A string comes before another one in the order of their UTF-8 bytes. -/
def Precedes (a b : String) : Prop := bytesOfString a < bytesOfString b

/-- Bytes are ordered as the numbers below 256 that they are made of. -/
theorem byte_ofNat_lt_iff {m n : ℕ} (hm : m < 256) (hn : n < 256) :
    UInt8.ofNat m < UInt8.ofNat n ↔ m < n := by
  rw [UInt8.lt_iff_toNat_lt, UInt8.toNat_ofNat', UInt8.toNat_ofNat', Nat.mod_eq_of_lt (by omega),
    Nat.mod_eq_of_lt (by omega)]

/-- A byte determines the number below 256 that it is made of. -/
theorem byte_ofNat_eq_iff {m n : ℕ} (hm : m < 256) (hn : n < 256) :
    UInt8.ofNat m = UInt8.ofNat n ↔ m = n := by
  rw [← UInt8.toNat_inj, UInt8.toNat_ofNat', UInt8.toNat_ofNat', Nat.mod_eq_of_lt (by omega),
    Nat.mod_eq_of_lt (by omega)]

/-- Code points lie below `0x110000`. -/
theorem char_toNat_lt (c : Char) : c.toNat < 0x110000 := by
  rcases c.valid with h | ⟨-, h⟩
  · exact lt_trans h (by decide)
  · exact h

/-- Every character has a byte. -/
theorem encodeChar_ne_nil (c : Char) : encodeChar c ≠ [] := by
  unfold encodeChar
  dsimp only
  split_ifs <;> simp

/-- A smaller character has the smaller bytes, whatever follows them. -/
theorem encodeChar_append_lt {c d : Char} (h : c < d) (x y : List UInt8) :
    encodeChar c ++ x < encodeChar d ++ y := by
  have hcd : c.toNat < d.toNat := h
  have hd := char_toNat_lt d
  unfold encodeChar
  dsimp only
  generalize c.toNat = m at *
  generalize d.toNat = n at *
  -- One case for every two lengths; within one length the bytes are digits of the code points.
  split_ifs <;>
    simp (disch := omega) only [List.cons_append, List.nil_append, List.cons_lt_cons_iff,
      byte_ofNat_lt_iff, byte_ofNat_eq_iff] <;>
    omega

/-- A smaller text has the smaller bytes. -/
theorem encode_lt_of_lt : ∀ {a b : List Char}, a < b → encode a < encode b
  | [], [], h => absurd h (List.lt_irrefl [])
  | [], d :: b, _ => by
    obtain ⟨byte, bytes, hb⟩ := List.exists_cons_of_ne_nil (encodeChar_ne_nil d)
    simp [encode, hb]
  | c :: a, [], h => absurd h (List.not_lt_nil _)
  | c :: a, d :: b, h => by
    simp only [encode, List.flatMap_cons]
    rcases List.cons_lt_cons_iff.mp h with hcd | ⟨rfl, hab⟩
    · exact encodeChar_append_lt hcd _ _
    · exact List.append_left_lt (encode_lt_of_lt hab)

/-- Comparing strings by their bytes is comparing them by their code points. -/
theorem precedes_iff_lt {a b : String} : Precedes a b ↔ a < b := by
  have mono : ∀ {x y : String}, x < y → Precedes x y := fun h =>
    encode_lt_of_lt (String.lt_iff.mp h)
  -- The order of code points is total, so the order of bytes cannot differ from it.
  refine ⟨fun h => ?_, mono⟩
  rcases lt_trichotomy a b with hab | rfl | hba
  · exact hab
  · exact absurd h (List.lt_irrefl _)
  · exact absurd (mono hba) (List.lt_asymm h)

end SkaterLedger.Text
