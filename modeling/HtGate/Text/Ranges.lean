/-!
# Ranges of code points

Character properties are tables of closed ranges of code points in increasing order.
-/

namespace HtGate.Text

/-- Whether a code point lies in one of the closed ranges, which stand in increasing order. -/
def inRanges (n : Nat) : List (Nat × Nat) → Bool
  | [] => false
  | (low, high) :: more => if n ≤ high then decide (low ≤ n) else inRanges n more

end HtGate.Text
