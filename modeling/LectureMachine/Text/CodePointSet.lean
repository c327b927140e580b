/-!
# Sets of code points

A property of characters is a set of code points, given by the ranges that it consists of. The
ranges are in ascending order and do not overlap, so that a code point is found by halving.
-/

namespace LectureMachine.Text

/-- A set of code points, as ascending ranges with both ends included. -/
structure CodePointSet where
  ranges : Array (Nat × Nat)

namespace CodePointSet

/-- Whether one of the ranges between the positions `low` and `high` has the code point. -/
def search (ranges : Array (Nat × Nat)) (n low high : Nat) : Bool :=
  if low < high then
    let middle := (low + high) / 2
    match ranges[middle]? with
    | none => false
    | some (first, last) =>
      if n < first then search ranges n low middle
      else if last < n then search ranges n (middle + 1) high
      else true
  else false
termination_by high - low

/-- Whether a character is in the set. -/
def contains (s : CodePointSet) (c : Char) : Bool :=
  search s.ranges c.toNat 0 s.ranges.size

end CodePointSet

end LectureMachine.Text
