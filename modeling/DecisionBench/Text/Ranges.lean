/-!
# Ranges of code points

A class of characters is written as the ranges of its code points, ascending and apart from each
other.
-/

namespace DecisionBench.Text

/-- Ranges of code points with both ends, ascending. -/
abbrev Ranges := List (Nat × Nat)

/-- Whether a code point lies in one of the ranges of a class. -/
def inRanges (ranges : Ranges) (n : Nat) : Bool :=
  ranges.any fun range => range.1 ≤ n && n ≤ range.2

end DecisionBench.Text
