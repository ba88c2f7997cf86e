/-!
# Sets of characters given by ranges

A property of characters is stored as the list of the closed ranges of code points that have
it.  `Ranges.has` tests a character against such a list.
-/

namespace Transclusion.Text

/-- Closed ranges of code points, in ascending order. -/
abbrev Ranges := List (Nat × Nat)

/-- Whether the code point of `c` lies in one of the ranges. -/
def Ranges.has (ranges : Ranges) (c : Char) : Bool :=
  ranges.any fun range => decide (range.1 ≤ c.toNat) && decide (c.toNat ≤ range.2)

theorem Ranges.has_iff {ranges : Ranges} {c : Char} :
    ranges.has c = true ↔ ∃ range ∈ ranges, range.1 ≤ c.toNat ∧ c.toNat ≤ range.2 := by
  simp [Ranges.has]

end Transclusion.Text
