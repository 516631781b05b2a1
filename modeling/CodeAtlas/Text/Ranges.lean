/-!
# Sets of code points

A set of code points is given by its ranges in ascending order, ends included.
-/

namespace CodeAtlas.Text

/-- Whether a code point lies in one of the ranges, which ascend. -/
def inRanges (n : Nat) : List (Nat × Nat) → Bool
  | [] => false
  | (low, high) :: rest => low ≤ n && (n ≤ high || inRanges n rest)

/-- A code point below the first range lies in none. -/
theorem inRanges_of_lt {n low high : Nat} (rest : List (Nat × Nat)) (h : n < low) :
    inRanges n ((low, high) :: rest) = false := by
  simp [inRanges, Nat.not_le.2 h]

end CodeAtlas.Text
