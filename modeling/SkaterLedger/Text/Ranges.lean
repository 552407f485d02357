/-!
# Ranges of code points

The tables of Unicode properties are lists of ranges of code points.
-/

namespace SkaterLedger.Text

/-- Whether a code point lies in one of the ranges, each given by its first and last member. -/
def inRanges (ranges : List (Nat × Nat)) (n : Nat) : Bool :=
  ranges.any fun (first, last) => first ≤ n && n ≤ last

/-- Whether a code point is one of `first, first + step, …` up to `last` for one of the triples
`(first, last, step)`. -/
def inStrides (strides : List (Nat × Nat × Nat)) (n : Nat) : Bool :=
  strides.any fun (first, last, step) => first ≤ n && n ≤ last && (n - first) % step == 0

end SkaterLedger.Text
