/-! # Ranges of code points

    A property of characters is given by a row of ranges of code points, in
    order and apart from each other, so that a code point is looked up by
    halving.  The rows in this library hold for Unicode 17. -/

namespace LayeredRoots.Text

/-- Whether one of the ranges with an index from `low` on and below `high`
    holds `n`, found in at most `steps` halvings. -/
def halve (ranges : Array (Nat × Nat)) (n : Nat) (steps low high : Nat) : Bool :=
  match steps with
  | 0 => false
  | steps + 1 =>
    if low < high then
      let middle := (low + high) / 2
      match ranges[middle]? with
      | none => false
      | some (first, last) =>
        if n < first then halve ranges n steps low middle
        else if last < n then halve ranges n steps (middle + 1) high
        else true
    else false

/-- Whether one of the ranges holds `n`.  Each halving leaves fewer ranges, so
    there are no more halvings than ranges. -/
def inRanges (ranges : Array (Nat × Nat)) (n : Nat) : Bool :=
  halve ranges n ranges.size 0 ranges.size

end LayeredRoots.Text
