/-!
# Character classes given by ranges

Membership of a code point in a list of inclusive ranges.
-/

namespace CallGraphs.Text

/-- Whether a code point lies in one of the inclusive ranges. -/
def inRanges (ranges : List (Nat × Nat)) (n : Nat) : Bool :=
  ranges.any fun r => r.1 ≤ n && n ≤ r.2

end CallGraphs.Text
