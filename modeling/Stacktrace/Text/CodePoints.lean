import Stacktrace.Text.Basic

/-!
# Classes of code points

A class of characters is given by its closed ranges of code points in ascending order.
-/

namespace Stacktrace.Text

/-- Whether a code point lies in one of the closed ranges. -/
def inRanges (ranges : List (Nat × Nat)) (n : Nat) : Bool :=
  ranges.any fun r => r.1 ≤ n && n ≤ r.2

end Stacktrace.Text
