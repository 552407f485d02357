/-!
# Binary64 numbers

The numbers of the format binary64 other than the NaNs. The magnitudes are numbered by their rank:
zero has rank 0, each further finite magnitude has the rank after the one below it, and infinity
comes last. A rank is at the same time the low 63 bits of the format. All finite magnitudes are
multiples of one unit, `2^-1074`, so arithmetic is arithmetic of natural numbers followed by one
rounding.
-/

namespace SkaterLedger

/-- The number of magnitudes in a binade, `2^52`. -/
def binadeSize : Nat := 4503599627370496

/-- The rank of infinity: there are 2047 exponents below it. -/
def infiniteRank : Nat := 2047 * binadeSize

/-- A magnitude of binary64, given by its rank. -/
structure Magnitude where
  /-- The number of magnitudes below this one. -/
  rank : Nat
  /-- Infinity is the last magnitude. -/
  rank_le : rank ≤ infiniteRank
deriving DecidableEq, Repr

namespace Magnitude

/-- The magnitude of a rank, infinity for a rank beyond it. -/
def ofRank (n : Nat) : Magnitude := ⟨min n infiniteRank, Nat.min_le_right ..⟩

/-- The magnitude zero. -/
def zero : Magnitude := ofRank 0

/-- The magnitude one. -/
def one : Magnitude := ofRank (1023 * binadeSize)

/-- Infinity. -/
def infinity : Magnitude := ofRank infiniteRank

/-- Whether a magnitude is infinity. -/
def isInfinite (m : Magnitude) : Bool := m.rank == infiniteRank

/-- A finite magnitude as a multiple of the unit `2^-1074`. Below `2^52` units every multiple is a
magnitude; from there on each binade has `2^52` of them. -/
def units (m : Magnitude) : Nat :=
  if m.rank < binadeSize then m.rank
  else (binadeSize + m.rank % binadeSize) * Nat.pow 2 (m.rank / binadeSize - 1)

/-- A quotient rounded to the nearest whole number, a half to the even neighbour. -/
def roundQuotient (num den : Nat) : Nat :=
  let quotient := num / den
  let rest := 2 * (num % den)
  if rest < den then quotient
  else if den < rest then quotient + 1
  else if quotient % 2 == 0 then quotient
  else quotient + 1

/-- The magnitude nearest to `num / den` units, a tie to the one of even rank. A quotient with more
than 53 binary digits is rounded to 53 of them. -/
def nearestUnits (num den : Nat) : Magnitude :=
  let shift := Nat.log2 (num / den) - 52
  ofRank (shift * binadeSize + roundQuotient num (den * Nat.pow 2 shift))

/-- The number of units in one. -/
def unitsPerOne : Nat := Nat.pow 2 1074

/-- The magnitude nearest to a quotient. -/
def ofQuotient (num den : Nat) : Magnitude := nearestUnits (num * unitsPerOne) den

/-- The magnitude nearest to a natural number. -/
def ofNat (n : Nat) : Magnitude := ofQuotient n 1

/-- The sum of two magnitudes, rounded. -/
def add (a b : Magnitude) : Magnitude := nearestUnits (a.units + b.units) 1

/-- The difference of two magnitudes, rounded; zero if the second is the larger. -/
def sub (a b : Magnitude) : Magnitude := nearestUnits (a.units - b.units) 1

/-- The product of two finite magnitudes, rounded. -/
def mul (a b : Magnitude) : Magnitude := nearestUnits (a.units * b.units) unitsPerOne

/-- The quotient of two finite magnitudes, rounded. -/
def div (a b : Magnitude) : Magnitude := ofQuotient a.units b.units

instance : Add Magnitude := ⟨add⟩
instance : Sub Magnitude := ⟨sub⟩
instance : Mul Magnitude := ⟨mul⟩
instance : Div Magnitude := ⟨div⟩
instance : LT Magnitude := ⟨fun a b => a.rank < b.rank⟩
instance : LE Magnitude := ⟨fun a b => a.rank ≤ b.rank⟩
instance (a b : Magnitude) : Decidable (a < b) := inferInstanceAs (Decidable (a.rank < b.rank))
instance (a b : Magnitude) : Decidable (a ≤ b) := inferInstanceAs (Decidable (a.rank ≤ b.rank))

end Magnitude

/-- A number of the format binary64 other than a NaN. -/
structure Binary64 where
  /-- Whether the sign is minus; zero has both signs. -/
  negative : Bool
  /-- The number without its sign. -/
  magnitude : Magnitude
deriving DecidableEq, Repr

namespace Binary64

/-- The number of positive sign nearest to a natural number. -/
def ofNat (n : Nat) : Binary64 := ⟨false, .ofNat n⟩

/-- The number nearest to an integer. -/
def ofInt (n : Int) : Binary64 := ⟨n < 0, .ofNat n.natAbs⟩

/-- Whether a number is zero, of either sign. -/
def isZero (x : Binary64) : Bool := x.magnitude.rank == 0

/-- Whether a number is finite. -/
def isFinite (x : Binary64) : Bool := !x.magnitude.isInfinite

/-- A number in which zero has a positive sign. -/
def withoutNegativeZero (x : Binary64) : Binary64 :=
  if x.isZero then { x with negative := false } else x

end Binary64

end SkaterLedger
