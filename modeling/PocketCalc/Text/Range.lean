/-!
# Ranges of code points

A class of characters is kept as a table of ranges, both ends included, in the order of the code
points.
-/

namespace PocketCalc.Text

/-- In one of the ranges. -/
def inRanges (ranges : List (Nat × Nat)) (n : Nat) : Bool :=
  ranges.any fun range => range.1 ≤ n && n ≤ range.2

end PocketCalc.Text
