/-!
# Ranges of code points

A class of characters is a table of closed ranges of code points in rising order, which is
searched by halves.
-/
namespace ThresholdDaemon.Text

/-- A table of ranges: the first and the last code point of each, in rising order. -/
abbrev Ranges := Array (Nat × Nat)

/-- Search the ranges from `low` up to but not including `high`, with one step of `fuel` for each
halving. -/
def inRangesFrom (ranges : Ranges) (point : Nat) : (fuel low high : Nat) → Bool
  | 0, _, _ => false
  | fuel + 1, low, high =>
    if low < high then
      let middle := (low + high) / 2
      match ranges[middle]? with
      | none => false
      | some (first, last) =>
        if point < first then inRangesFrom ranges point fuel low middle
        else if last < point then inRangesFrom ranges point fuel (middle + 1) high
        else true
    else false

/-- A code point lies in one of some ranges. -/
def inRanges (ranges : Ranges) (point : Nat) : Bool :=
  inRangesFrom ranges point (ranges.size.log2 + 1) 0 ranges.size

end ThresholdDaemon.Text
