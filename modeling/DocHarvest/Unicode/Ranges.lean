/-!
# Tables of code points

A property of characters is given by an ascending table of closed ranges. `RangeTable.holds` looks a
code point up; `StrideTable.holds` does so where only every second code point of a range belongs, as
in the alphabets whose capital and small letters alternate. Where nothing else is said, the tables are
those of version 17 of the Unicode standard.
-/

namespace DocHarvest.Unicode

/-- Closed ranges of code points, ascending and apart. -/
abbrev RangeTable := List (Nat × Nat)

/-- Whether a code point lies in a range of the table. The ranges ascend, so the search ends at the
first range that starts above it. -/
def RangeTable.holds : RangeTable → Nat → Bool
  | [], _ => false
  | (first, last) :: rest, n =>
    if n < first then false else if n ≤ last then true else RangeTable.holds rest n

/-- Runs `(first, last, step)`: the code points `first`, `first + step`, ... up to `last`. -/
abbrev StrideTable := List (Nat × Nat × Nat)

/-- Whether a code point belongs to a run of the table. -/
def StrideTable.holds : StrideTable → Nat → Bool
  | [], _ => false
  | (first, last, step) :: rest, n =>
    if first ≤ n && n ≤ last && (n - first) % step == 0 then true else StrideTable.holds rest n

end DocHarvest.Unicode
