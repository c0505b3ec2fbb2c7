/-! # Ranges of code points

A property of characters is given by the ranges of code points that have it.
-/

namespace GrammarCheck.Written

/-- Ranges of code points, ends included. -/
abbrev CodeRanges := List (Nat × Nat)

def CodeRanges.contains (ranges : CodeRanges) (c : Char) : Bool :=
  ranges.any fun (first, last) => first ≤ c.toNat && c.toNat ≤ last

end GrammarCheck.Written
