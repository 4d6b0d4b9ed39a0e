/-! Sets of code points as lists of evenly spaced runs. -/

namespace DynValue.Text

/-- The code points from a first to a last one at a fixed distance from each other. -/
structure Run where
  /-- The first code point. -/
  first : Nat
  /-- The last code point. -/
  last : Nat
  /-- The distance between neighbours. -/
  step : Nat

namespace Run

/-- Whether a code point belongs to the run. -/
def holds (run : Run) (point : Nat) : Bool :=
  run.first ≤ point && point ≤ run.last && (point - run.first) % run.step = 0

/-- Whether a character belongs to one of the runs. -/
def any (runs : List Run) (c : Char) : Bool :=
  List.any runs fun run => run.holds c.toNat

end Run

end DynValue.Text
