/-! Sets of numbers given by runs.

A run is given by its first number and the number after its last one; the runs
stand one behind the other in ascending order. A number is in a run exactly if an
odd number of these boundaries do not exceed it.
-/

set_option autoImplicit false

namespace HarvardBench.Text

/-- The number of leading entries between two positions that do not exceed a value, plus
the first position, for ascending entries. -/
def countUpTo (boundaries : Array Nat) (value low high : Nat) : Nat :=
  if low < high then
    let middle := (low + high) / 2
    if boundaries.getD middle 0 ≤ value then countUpTo boundaries value (middle + 1) high
    else countUpTo boundaries value low middle
  else low
termination_by high - low

def inRuns (boundaries : Array Nat) (value : Nat) : Bool :=
  countUpTo boundaries value 0 boundaries.size % 2 == 1

end HarvardBench.Text
