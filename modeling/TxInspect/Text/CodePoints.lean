/-!
# Ranges of code points

A Unicode property is kept as a list of ranges of code points, both ends included; `inRanges` looks
a code point up.
-/

namespace TxInspect.Text

/-- The code point lies in one of the ranges. -/
def inRanges (ranges : List (Nat × Nat)) (n : Nat) : Bool :=
  ranges.any fun r => r.1 ≤ n && n ≤ r.2

end TxInspect.Text
