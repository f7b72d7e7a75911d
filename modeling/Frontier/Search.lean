/-!
# Binary search

`partitionPoint p xs` finds where a predicate that holds on an initial part of an array, and nowhere after
it, stops to hold.
-/

namespace Frontier

/-- Halves the window `[low, high)` until it is empty; below `low` the predicate holds, from `high` on it fails. -/
def partitionIn {α : Type} (p : α → Bool) (xs : Array α) (low high : Nat) : Nat :=
  if h : low < high then
    let middle := low + (high - low) / 2
    if xs[middle]?.any p then partitionIn p xs (middle + 1) high else partitionIn p xs low middle
  else low
termination_by high - low
decreasing_by all_goals omega

/-- How many elements at the front of an array satisfy the predicate. -/
def partitionPoint {α : Type} (p : α → Bool) (xs : Array α) : Nat := partitionIn p xs 0 xs.size

end Frontier
