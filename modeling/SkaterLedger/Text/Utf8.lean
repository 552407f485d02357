/-!
# UTF-8

Texts as bytes. Decoding goes on after a byte that belongs to no character, so that a reader can say
which part of a file is damaged.
-/

namespace SkaterLedger.Text

/-- The bytes of a character. -/
def encodeChar (c : Char) : List UInt8 :=
  let n := c.toNat
  if n < 0x80 then [UInt8.ofNat n]
  else if n < 0x800 then [UInt8.ofNat (0xC0 + n / 0x40), UInt8.ofNat (0x80 + n % 0x40)]
  else if n < 0x10000 then
    [UInt8.ofNat (0xE0 + n / 0x1000), UInt8.ofNat (0x80 + n / 0x40 % 0x40),
      UInt8.ofNat (0x80 + n % 0x40)]
  else
    [UInt8.ofNat (0xF0 + n / 0x40000), UInt8.ofNat (0x80 + n / 0x1000 % 0x40),
      UInt8.ofNat (0x80 + n / 0x40 % 0x40), UInt8.ofNat (0x80 + n % 0x40)]

/-- The bytes of a text. -/
def encode (cs : List Char) : List UInt8 := cs.flatMap encodeChar

/-- Whether a byte continues a character. -/
def isContinuation (b : UInt8) : Bool := 0x80 ≤ b.toNat && b.toNat < 0xC0

/-- The six bits that a continuation byte carries. -/
def payload (b : UInt8) : Nat := b.toNat % 0x40

/-- The code point of a leading byte and one continuation byte. -/
def codeOfTwo? (b0 b1 : UInt8) : Option Nat :=
  let n := b0.toNat % 0x20 * 0x40 + payload b1
  if 0xC0 ≤ b0.toNat && b0.toNat < 0xE0 && isContinuation b1 && 0x80 ≤ n then some n else none

/-- The code point of a leading byte and two continuation bytes; the surrogates have none. -/
def codeOfThree? (b0 b1 b2 : UInt8) : Option Nat :=
  let n := b0.toNat % 0x10 * 0x1000 + payload b1 * 0x40 + payload b2
  if 0xE0 ≤ b0.toNat && b0.toNat < 0xF0 && isContinuation b1 && isContinuation b2 && 0x800 ≤ n &&
      !(0xD800 ≤ n && n < 0xE000) then some n
  else none

/-- The code point of a leading byte and three continuation bytes. -/
def codeOfFour? (b0 b1 b2 b3 : UInt8) : Option Nat :=
  let n := b0.toNat % 0x08 * 0x40000 + payload b1 * 0x1000 + payload b2 * 0x40 + payload b3
  if 0xF0 ≤ b0.toNat && b0.toNat < 0xF8 && isContinuation b1 && isContinuation b2 &&
      isContinuation b3 && 0x10000 ≤ n && n < 0x110000 then some n
  else none

/-- The character at the start of some bytes, with the number of bytes after the first one that
belong to it. -/
def charAt? : List UInt8 → Option (Char × Nat)
  | [] => none
  | b0 :: rest =>
    if b0.toNat < 0x80 then some (Char.ofNat b0.toNat, 0)
    else
      match rest with
      | b1 :: b2 :: b3 :: _ =>
        match codeOfTwo? b0 b1, codeOfThree? b0 b1 b2, codeOfFour? b0 b1 b2 b3 with
        | some n, _, _ => some (Char.ofNat n, 1)
        | none, some n, _ => some (Char.ofNat n, 2)
        | none, none, some n => some (Char.ofNat n, 3)
        | none, none, none => none
      | [b1, b2] =>
        match codeOfTwo? b0 b1, codeOfThree? b0 b1 b2 with
        | some n, _ => some (Char.ofNat n, 1)
        | none, some n => some (Char.ofNat n, 2)
        | none, none => none
      | [b1] => (codeOfTwo? b0 b1).map fun n => (Char.ofNat n, 1)
      | [] => none

/-- Drops `skip` bytes, which belong to a character already decoded, and decodes the rest; a byte
that belongs to no character is `none`. -/
def decodeFrom : Nat → List UInt8 → List (Option Char)
  | _, [] => []
  | skip + 1, _ :: bytes => decodeFrom skip bytes
  | 0, b :: bytes =>
    match charAt? (b :: bytes) with
    | some (c, more) => some c :: decodeFrom more bytes
    | none => none :: decodeFrom 0 bytes

/-- The characters of some bytes. -/
def decode (bytes : List UInt8) : List (Option Char) := decodeFrom 0 bytes

/-- The characters of a decoded text; `none` if a byte belongs to no character. -/
def intact? : List (Option Char) → Option (List Char)
  | [] => some []
  | none :: _ => none
  | some c :: cs => (intact? cs).map (c :: ·)

/-- The string that some bytes encode. -/
def stringOfBytes? (bytes : List UInt8) : Option String :=
  (intact? (decode bytes)).map String.ofList

/-- The bytes of a string. -/
def bytesOfString (s : String) : List UInt8 := encode s.toList

end SkaterLedger.Text
