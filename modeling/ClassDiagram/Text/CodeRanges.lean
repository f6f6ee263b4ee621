/-!
# Sets of code points as tables

A table lists inclusive ranges in ascending order. The search stops at the first range that begins
beyond the code point it looks for, which is right because no two ranges overlap.
-/

namespace ClassDiagram.Text

/-- Inclusive ranges of code points, ascending and apart from each other. -/
abbrev CodeRanges := List (Nat × Nat)

/-- Whether a code point is in one of the ranges. -/
def CodeRanges.holds : CodeRanges → Nat → Bool
  | [], _ => false
  | (first, last) :: rest, n =>
      if n < first then false else if n ≤ last then true else holds rest n

end ClassDiagram.Text
