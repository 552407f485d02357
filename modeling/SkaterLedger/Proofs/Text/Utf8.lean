import Mathlib.Data.List.Basic
import Mathlib.Tactic.SplitIfs
import SkaterLedger.Proofs.Text.ByteOrder

/-!
# Decoding what was encoded

The bytes of a string are read back as the string (`stringOfBytes?_bytesOfString`). The leading byte
of a character tells how many bytes belong to it, and the code point is put together from the digits
that the bytes were made of.
-/

namespace SkaterLedger.Text

variable {n : ℕ} {c : Char} {b₀ b₁ b₂ b₃ : UInt8} {bytes rest : List UInt8} {cs : List Char}

/-- A byte that is made of a number below 256 is this number. -/
theorem toNat_byte (h : n < 256) : (UInt8.ofNat n).toNat = n := by
  rw [UInt8.toNat_ofNat', Nat.mod_eq_of_lt (by omega)]

/-- Code points are not surrogates. -/
theorem char_toNat_not_surrogate (c : Char) : ¬ (0xD800 ≤ c.toNat ∧ c.toNat < 0xE000) := by
  rcases c.valid with h | ⟨h, -⟩
  · exact fun hc => absurd h (Nat.not_lt.mpr hc.1)
  · exact fun hc => absurd hc.2 (Nat.not_lt.mpr h)

/-! ## Code points -/

/-- Two bytes give the code point that they are made of. -/
theorem codeOfTwo?_eq (h₀ : b₀.toNat = 0xC0 + n / 0x40) (h₁ : b₁.toNat = 0x80 + n % 0x40)
    (hlow : 0x80 ≤ n) (hhigh : n < 0x800) : codeOfTwo? b₀ b₁ = some n := by
  have hcode : b₀.toNat % 0x20 * 0x40 + payload b₁ = n := by
    rw [payload, h₀, h₁]
    omega
  have hbounds : 0xC0 ≤ b₀.toNat ∧ b₀.toNat < 0xE0 ∧ 0x80 ≤ b₁.toNat ∧ b₁.toNat < 0xC0 := by
    omega
  simp [codeOfTwo?, isContinuation, hcode, hbounds, hlow]

/-- A leading byte of more than two bytes is not one of two. -/
theorem codeOfTwo?_eq_none (h₀ : 0xE0 ≤ b₀.toNat) : codeOfTwo? b₀ b₁ = none := by
  have hnot : ¬ b₀.toNat < 0xE0 := Nat.not_lt.mpr h₀
  simp [codeOfTwo?, hnot]

/-- Three bytes give the code point that they are made of. -/
theorem codeOfThree?_eq (h₀ : b₀.toNat = 0xE0 + n / 0x1000)
    (h₁ : b₁.toNat = 0x80 + n / 0x40 % 0x40) (h₂ : b₂.toNat = 0x80 + n % 0x40) (hlow : 0x800 ≤ n)
    (hhigh : n < 0x10000) (hpoint : ¬ (0xD800 ≤ n ∧ n < 0xE000)) :
    codeOfThree? b₀ b₁ b₂ = some n := by
  have hcode : b₀.toNat % 0x10 * 0x1000 + payload b₁ * 0x40 + payload b₂ = n := by
    rw [payload, payload, h₀, h₁, h₂]
    omega
  have hbounds : 0xE0 ≤ b₀.toNat ∧ b₀.toNat < 0xF0 ∧ 0x80 ≤ b₁.toNat ∧ b₁.toNat < 0xC0 ∧
      0x80 ≤ b₂.toNat ∧ b₂.toNat < 0xC0 := by
    omega
  simpa [codeOfThree?, isContinuation, hcode, hbounds, hlow] using hpoint

/-- A leading byte of more than three bytes is not one of three. -/
theorem codeOfThree?_eq_none (h₀ : 0xF0 ≤ b₀.toNat) : codeOfThree? b₀ b₁ b₂ = none := by
  have hnot : ¬ b₀.toNat < 0xF0 := Nat.not_lt.mpr h₀
  simp [codeOfThree?, hnot]

/-- Four bytes give the code point that they are made of. -/
theorem codeOfFour?_eq (h₀ : b₀.toNat = 0xF0 + n / 0x40000)
    (h₁ : b₁.toNat = 0x80 + n / 0x1000 % 0x40) (h₂ : b₂.toNat = 0x80 + n / 0x40 % 0x40)
    (h₃ : b₃.toNat = 0x80 + n % 0x40) (hlow : 0x10000 ≤ n) (hhigh : n < 0x110000) :
    codeOfFour? b₀ b₁ b₂ b₃ = some n := by
  have hcode : b₀.toNat % 0x08 * 0x40000 + payload b₁ * 0x1000 + payload b₂ * 0x40 + payload b₃ =
      n := by
    rw [payload, payload, payload, h₀, h₁, h₂, h₃]
    omega
  have hbounds : 0xF0 ≤ b₀.toNat ∧ b₀.toNat < 0xF8 ∧ 0x80 ≤ b₁.toNat ∧ b₁.toNat < 0xC0 ∧
      0x80 ≤ b₂.toNat ∧ b₂.toNat < 0xC0 ∧ 0x80 ≤ b₃.toNat ∧ b₃.toNat < 0xC0 := by
    omega
  simp [codeOfFour?, isContinuation, hcode, hbounds, hlow, hhigh]

/-! ## Characters -/

/-- Two bytes that have a code point are its character, whatever follows them. -/
theorem charAt?_two (hlead : ¬ b₀.toNat < 0x80) (htwo : codeOfTwo? b₀ b₁ = some n) :
    charAt? (b₀ :: b₁ :: rest) = some (Char.ofNat n, 1) := by
  match rest with
  | [] => simp [charAt?, hlead, htwo]
  | [_] => simp [charAt?, hlead, htwo]
  | _ :: _ :: _ => simp [charAt?, hlead, htwo]

/-- Three bytes that have a code point are its character, unless two of them have one. -/
theorem charAt?_three (hlead : ¬ b₀.toNat < 0x80) (htwo : codeOfTwo? b₀ b₁ = none)
    (hthree : codeOfThree? b₀ b₁ b₂ = some n) :
    charAt? (b₀ :: b₁ :: b₂ :: rest) = some (Char.ofNat n, 2) := by
  match rest with
  | [] => simp [charAt?, hlead, htwo, hthree]
  | _ :: _ => simp [charAt?, hlead, htwo, hthree]

/-- Four bytes that have a code point are its character, unless fewer of them have one. -/
theorem charAt?_four (hlead : ¬ b₀.toNat < 0x80) (htwo : codeOfTwo? b₀ b₁ = none)
    (hthree : codeOfThree? b₀ b₁ b₂ = none) (hfour : codeOfFour? b₀ b₁ b₂ b₃ = some n) :
    charAt? (b₀ :: b₁ :: b₂ :: b₃ :: rest) = some (Char.ofNat n, 3) := by
  simp [charAt?, hlead, htwo, hthree, hfour]

/-- A character is read from its bytes, whatever follows them. -/
theorem charAt?_encodeChar (c : Char) (rest : List UInt8) :
    charAt? (encodeChar c ++ rest) = some (c, (encodeChar c).length - 1) := by
  have hlt := char_toNat_lt c
  have hpoint := char_toNat_not_surrogate c
  have hread : some (Char.ofNat c.toNat, (encodeChar c).length - 1) =
      some (c, (encodeChar c).length - 1) := by
    rw [Char.ofNat_toNat]
  rw [← hread]
  unfold encodeChar
  dsimp only
  generalize c.toNat = n at *
  split_ifs with h₁ h₂ h₃
  · have h₀ := toNat_byte (n := n) (by omega)
    simp only [List.singleton_append, charAt?, h₀, h₁, if_true, List.length_singleton]
  · have h₀ := toNat_byte (n := 0xC0 + n / 0x40) (by omega)
    exact charAt?_two (by omega) (codeOfTwo?_eq h₀ (toNat_byte (by omega)) (by omega) h₂)
  · have h₀ := toNat_byte (n := 0xE0 + n / 0x1000) (by omega)
    exact charAt?_three (by omega) (codeOfTwo?_eq_none (by omega))
      (codeOfThree?_eq h₀ (toNat_byte (by omega)) (toNat_byte (by omega)) (by omega) h₃ hpoint)
  · have h₀ := toNat_byte (n := 0xF0 + n / 0x40000) (by omega)
    exact charAt?_four (by omega) (codeOfTwo?_eq_none (by omega)) (codeOfThree?_eq_none (by omega))
      (codeOfFour?_eq h₀ (toNat_byte (by omega)) (toNat_byte (by omega)) (toNat_byte (by omega))
        (by omega) hlt)

/-! ## Texts -/

/-- The bytes that belong to a character already decoded are passed over. -/
theorem decodeFrom_append (bytes rest : List UInt8) :
    decodeFrom bytes.length (bytes ++ rest) = decodeFrom 0 rest := by
  induction bytes with
  | nil => rfl
  | cons b bytes ih => simpa only [List.length_cons, List.cons_append, decodeFrom] using ih

/-- The bytes of a text are decoded to its characters. -/
theorem decode_encode (cs : List Char) : decode (encode cs) = cs.map some := by
  unfold decode
  induction cs with
  | nil => rfl
  | cons c cs ih =>
    have hchar := charAt?_encodeChar c (encode cs)
    have hcons : encode (c :: cs) = encodeChar c ++ encode cs := List.flatMap_cons
    rw [hcons, List.map_cons, ← ih]
    cases hbytes : encodeChar c with
    | nil => simp [encodeChar_ne_nil] at hbytes
    | cons b more =>
      rw [hbytes] at hchar
      rw [List.cons_append] at hchar ⊢
      simp only [decodeFrom, hchar, List.length_cons, Nat.add_sub_cancel]
      rw [decodeFrom_append]

/-- Characters that were all decoded are an intact text. -/
theorem intact?_map_some (cs : List Char) : intact? (cs.map some) = some cs := by
  induction cs with
  | nil => rfl
  | cons c cs ih => rw [List.map_cons, intact?, ih, Option.map_some]

/-- A string is read back from its bytes. -/
theorem stringOfBytes?_bytesOfString (s : String) : stringOfBytes? (bytesOfString s) = some s := by
  unfold stringOfBytes? bytesOfString
  rw [decode_encode, intact?_map_some, Option.map_some, String.ofList_toList]

end SkaterLedger.Text
