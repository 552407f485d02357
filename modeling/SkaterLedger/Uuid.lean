import SkaterLedger.Text.Digit

/-!
# Identifiers of 128 bits

Rows that need an id of their own take one from a supply that never repeats itself.
-/

namespace SkaterLedger

/-- The number of identifiers. -/
def uuidCount : Nat := Nat.pow 2 128

/-- An identifier of 128 bits. -/
structure Uuid where
  /-- The identifier as a number. -/
  value : Nat
  /-- It has at most 128 bits. -/
  value_lt : value < uuidCount
deriving DecidableEq, Repr

namespace Uuid

/-- The identifier of a number, of which the bits beyond 128 are dropped. -/
def ofNat (n : Nat) : Uuid := ⟨n % uuidCount, Nat.mod_lt _ (by decide)⟩

/-- The 32 hexadecimal digits. -/
def digits (u : Uuid) : List Char := Text.paddedHex 32 u.value

/-- The digits without separators. -/
def simple (u : Uuid) : String := String.ofList u.digits

/-- The digits in groups of 8, 4, 4, 4 and 12 with dashes between them. -/
def hyphenated (u : Uuid) : String :=
  let ds := u.digits
  String.ofList
    (ds.take 8 ++ '-' :: (ds.drop 8).take 4 ++ '-' :: (ds.drop 12).take 4 ++
      '-' :: (ds.drop 16).take 4 ++ '-' :: ds.drop 20)

end Uuid

end SkaterLedger
