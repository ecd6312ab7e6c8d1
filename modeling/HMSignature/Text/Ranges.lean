/-!
# Sets of code points

A property of characters is given as a list of closed intervals of code points, as the tables of Unicode are.
-/

namespace HMSignature.Text

/-- A set of code points, as closed intervals. -/
abbrev Ranges := List (Nat × Nat)

/-- The point lies in one of the intervals. -/
def Ranges.contains (ranges : Ranges) (point : Nat) : Bool :=
  ranges.any fun range => range.1 ≤ point && point ≤ range.2

theorem Ranges.contains_iff {ranges : Ranges} {point : Nat} :
    ranges.contains point = true ↔ ∃ range ∈ ranges, range.1 ≤ point ∧ point ≤ range.2 := by
  simp [Ranges.contains, List.any_eq_true]

end HMSignature.Text
