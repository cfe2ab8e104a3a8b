/-!
# Ranges of code points

A property of characters is a table of closed ranges of code points.
-/

namespace Gatehouse.Text

/-- Whether a code point lies in one of the closed ranges. -/
def inRanges (ranges : List (Nat × Nat)) (code : Nat) : Bool :=
  ranges.any fun range => range.1 ≤ code && code ≤ range.2

@[simp]
theorem inRanges_nil (code : Nat) : inRanges [] code = false := rfl

end Gatehouse.Text
