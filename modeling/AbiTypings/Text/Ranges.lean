/-!
# Sets of code points

Properties of characters are given as tables of code points in ascending order. Two shapes are used:
an *interval* is a first and a last code point, and a *run* steps from its first to its last code
point by a fixed stride (most alphabets of two cases alternate between them, so a stride of two
describes a whole block).
-/

namespace AbiTypings.Text

/-- The code points `first, first + step, …` up to `last`. -/
structure Run where
  first : Nat
  last : Nat
  step : Nat

/-- Whether a code point is one of a run. -/
def Run.contains (run : Run) (n : Nat) : Bool :=
  run.first ≤ n && n ≤ run.last && (n - run.first) % run.step == 0

/-- Whether a code point lies in one of the intervals, which ascend. -/
def inIntervals (n : Nat) : List (Nat × Nat) → Bool
  | [] => false
  | (first, last) :: rest => if n < first then false else n ≤ last || inIntervals n rest

/-- Whether a code point lies in one of the runs. -/
def inRuns (n : Nat) (runs : List Run) : Bool :=
  runs.any (·.contains n)

end AbiTypings.Text
