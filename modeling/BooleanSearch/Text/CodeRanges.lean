/-!
# Sets of code points

A set of code points is kept as sorted, disjoint, inclusive ranges and searched by halving.
-/

namespace BooleanSearch.Text

/-- A set of code points, given by sorted, disjoint, inclusive ranges. -/
structure CodeRanges where
  ranges : Array (Nat × Nat)

namespace CodeRanges

/-- Binary search for the range that holds `code` among the ranges between two indices.  The fuel
bounds the number of halvings; one unit for each range is more than enough. -/
def findBetween? (table : CodeRanges) (code : Nat) : Nat → Nat → Nat → Option (Nat × Nat)
  | 0, _, _ => none
  | fuel + 1, low, high =>
    if low < high then
      let middle := (low + high) / 2
      match table.ranges[middle]? with
      | none => none
      | some (first, last) =>
        if code < first then findBetween? table code fuel low middle
        else if last < code then findBetween? table code fuel (middle + 1) high
        else some (first, last)
    else none

/-- The range that holds a code point. -/
def rangeOf? (table : CodeRanges) (code : Nat) : Option (Nat × Nat) :=
  findBetween? table code table.ranges.size 0 table.ranges.size

/-- Whether a code point is in the set. -/
def contains (table : CodeRanges) (code : Nat) : Bool :=
  (table.rangeOf? code).isSome

end CodeRanges

end BooleanSearch.Text
