/-
Sets of code points.

A class of characters is given by a table: inclusive ranges of code points, as the
standard that defines the class lists them. A character belongs to the class exactly if
one of the ranges holds its code point.
-/

set_option autoImplicit false

namespace Fibonacci.Text

/-- Whether one of the ranges, ends included, holds a number. -/
def inRanges (ranges : List (Nat × Nat)) (n : Nat) : Bool :=
  ranges.any fun range => decide (range.1 ≤ n ∧ n ≤ range.2)

theorem inRanges_eq_true_iff {ranges : List (Nat × Nat)} {n : Nat} :
    inRanges ranges n = true ↔ ∃ range ∈ ranges, range.1 ≤ n ∧ n ≤ range.2 := by
  simp [inRanges]

end Fibonacci.Text
