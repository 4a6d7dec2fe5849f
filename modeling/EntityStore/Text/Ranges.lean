/-!
# Ranges of characters

Character properties are kept as ranges of code points.
-/

namespace EntityStore.Text

/-- Whether a code point lies in one of the ranges. -/
def inRanges (ranges : List (Nat × Nat)) (n : Nat) : Bool :=
  ranges.any fun (first, last) => decide (first ≤ n) && decide (n ≤ last)

/-- Whether a code point lies in one of the runs, whose members are a stride apart. -/
def inRuns (runs : List (Nat × Nat × Nat)) (n : Nat) : Bool :=
  runs.any fun (first, last, stride) =>
    decide (first ≤ n) && decide (n ≤ last) && (n - first) % stride == 0

end EntityStore.Text
