/-!
# Sets of characters as ranges

A set of code points is a list of closed ranges, in ascending order.
-/

namespace Frontier.Text

/-- Whether a code point lies in one of the ranges. -/
def inRanges (ranges : List (Nat × Nat)) (n : Nat) : Bool :=
  ranges.any fun r => r.1 ≤ n && n ≤ r.2

end Frontier.Text
