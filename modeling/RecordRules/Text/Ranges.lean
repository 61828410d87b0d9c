/-!
# Ranges of code points

A property of characters is given by the closed ranges of code points that have it.
-/

namespace RecordRules.Text

/-- Does one of the closed ranges hold the code point? -/
def inRanges (ranges : List (Nat × Nat)) (code : Nat) : Bool :=
  ranges.any fun range => range.1 ≤ code && code ≤ range.2

end RecordRules.Text
