/-!
# Code points in a list of ranges

A Unicode property is stored as the inclusive ranges of code points that have it.
-/

namespace TreeAdapter.Text
set_option autoImplicit false

/-- Some range of `ranges` holds `n`. -/
def inRanges (ranges : List (Nat × Nat)) (n : Nat) : Bool :=
  ranges.any fun r => decide (r.1 ≤ n) && decide (n ≤ r.2)

end TreeAdapter.Text
