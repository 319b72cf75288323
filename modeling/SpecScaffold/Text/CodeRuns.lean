/-!
# Sets of code points as runs

A run `(first, last, step)` holds the code points `first, first + step, …, last`; a table is a list
of runs in increasing order that do not overlap.  `inRuns` stops at the first run that starts above
the code point, so a look-up near the start of a table is short.
-/

namespace SpecScaffold.Text

/-- Whether a code point lies on one of the runs of an increasing table. -/
def inRuns : List (Nat × Nat × Nat) → Nat → Bool
  | [], _ => false
  | (first, last, step) :: runs, n =>
    if n < first then false
    else if n ≤ last then (n - first) % step == 0
    else inRuns runs n

end SpecScaffold.Text
