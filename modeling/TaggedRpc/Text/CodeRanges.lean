/-!
# Sets of code points

A set of code points as a table of inclusive ranges in ascending order, searched by halving.
-/

namespace TaggedRpc.Text

/-- Inclusive ranges of code points, in ascending order and apart from one another. -/
structure CodeRanges where
  /-- The first and the last code point of each range. -/
  ranges : Array (Nat × Nat)

namespace CodeRanges

/-- Whether a code point is in one of the ranges with an index from `low` up to `high`. -/
def search (table : CodeRanges) (code low high : Nat) : Bool :=
  if low < high then
    let middle := (low + high) / 2
    match table.ranges[middle]? with
    | none => false
    | some (first, last) =>
      if code < first then table.search code low middle
      else if last < code then table.search code (middle + 1) high
      else true
  else false
termination_by high - low

/-- Whether a code point is in one of the ranges. -/
def contains (table : CodeRanges) (code : Nat) : Bool := table.search code 0 table.ranges.size

end CodeRanges

end TaggedRpc.Text
