/-!
# Ranges of code points

A set of characters is given by ranges of code points. A range has its first and its last
code point.
-/

namespace ChainRpc.Text

/-- The code point lies in one of the ranges. -/
def inRanges (ranges : List (Nat × Nat)) (n : Nat) : Bool :=
  ranges.any fun (first, last) => first ≤ n && n ≤ last

end ChainRpc.Text
