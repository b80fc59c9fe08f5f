/-!
# ServiceDoubles.Text.CodePoints

Sets of characters that a standard lists, as ranges of code points.
-/

namespace ServiceDoubles.Text

/-- Closed ranges of code points, ascending and apart. -/
abbrev CodePoints := List (Nat × Nat)

/-- Whether one of the ranges holds `n`. The first range that does not end below `n` decides, since
those behind it begin above its end. -/
def CodePoints.has : CodePoints → Nat → Bool
  | [], _ => false
  | (low, high) :: rest, n => if n ≤ high then low ≤ n else has rest n

end ServiceDoubles.Text
