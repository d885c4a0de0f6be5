import ChatDice.Text

/-!
Classes of code points given by tables of inclusive ranges in ascending order.
-/

namespace ChatDice.CodePoint

/-- Looks a number up by halving a slice of the ranges. -/
def withinSlice (ranges : Array (Nat × Nat)) (n : Nat) : (fuel low high : Nat) → Bool
  | 0, _, _ => false
  | fuel + 1, low, high =>
    if low < high then
      let middle := (low + high) / 2
      match ranges[middle]? with
      | none => false
      | some (first, last) =>
        if n < first then withinSlice ranges n fuel low middle
        else if last < n then withinSlice ranges n fuel (middle + 1) high
        else true
    else false

/-- Whether a code point lies in one of the ranges. -/
def within (ranges : Array (Nat × Nat)) (c : CodePoint) : Bool :=
  withinSlice ranges c.val ranges.size 0 ranges.size

end ChatDice.CodePoint
