/-
Module: HttpScript.Text.Ranges
Purpose: Sets of characters given by ranges of code points.
Main exports: inRanges
-/

namespace HttpScript.Text

/-- Whether a code point lies in one of the ranges, both ends included. -/
def inRanges (ranges : List (Nat × Nat)) (n : Nat) : Bool :=
  ranges.any (fun r => r.1 ≤ n && n ≤ r.2)

end HttpScript.Text
