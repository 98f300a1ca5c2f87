/-!
# Ranges of characters

A class of characters is a list of ranges of code points, both ends of which belong to it.
-/

namespace BranchGuard.Text

/-- Whether the character belongs to one of the ranges. -/
def isIn (ranges : List (Nat × Nat)) (c : Char) : Bool :=
  ranges.any fun range => decide (range.1 ≤ c.toNat) && decide (c.toNat ≤ range.2)

end BranchGuard.Text
