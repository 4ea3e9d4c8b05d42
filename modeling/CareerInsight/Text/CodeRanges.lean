/-!
# Code point range tables

A set of characters written as an array of inclusive code point ranges
`(first, last)`, ascending and disjoint, so that membership is a binary
search: the middle range either holds the code point or tells which half
of the array can.  The Unicode property tables of the library (word
characters, grapheme extenders, characters shown escaped) are all of this
shape.
-/

namespace CareerInsight

/-- Whether some range of `table` with index between `lo` (inclusive) and
`hi` (exclusive) holds `n`.  Each step halves the window, so `fuel` above
the binary logarithm of the table's size suffices. -/
def rangeSearch (table : Array (Nat × Nat)) (n lo hi : Nat) (fuel : Nat) : Bool :=
  match fuel with
  | 0 => false
  | fuel + 1 =>
    if hi ≤ lo then false
    else
      let mid := (lo + hi) / 2
      let (a, b) := table.getD mid (0, 0)
      if n < a then rangeSearch table n lo mid fuel
      else if b < n then rangeSearch table n (mid + 1) hi fuel
      else true

/-- Whether a range of `table`, ascending and disjoint, holds `n`.  Twenty
halvings cover every table of fewer than a million ranges. -/
def rangesHold (table : Array (Nat × Nat)) (n : Nat) : Bool :=
  rangeSearch table n 0 table.size 20

end CareerInsight
