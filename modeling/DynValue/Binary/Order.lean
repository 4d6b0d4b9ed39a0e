import DynValue.Binary.Basic

/-! The numeric order of floating-point numbers, and the total order of their bits. -/

namespace DynValue.Binary

variable {f : Format}

/-- The place of a number on the line, the two zeros sharing theirs. -/
def place (x : Binary f) : Int :=
  if x.negative then -x.magnitude else x.magnitude

/-- The place of a bit pattern in the total order, negative zero just before positive zero. -/
def rank (x : Binary f) : Int :=
  -- Moving the negative side down by one makes room between the zeros.
  if x.negative then -x.magnitude - 1 else x.magnitude

/-- The numeric order, in which a NaN is comparable with nothing. -/
def compare? (x y : Binary f) : Option Ordering :=
  if x.isNan || y.isNan then none else some (compare x.place y.place)

/-- The total order of bit patterns, NaNs outermost. -/
def totalCompare (x y : Binary f) : Ordering :=
  compare x.rank y.rank

/-- The numeric order, completed by the total order where it is silent. -/
def compareNumbers (x y : Binary f) : Ordering :=
  (x.compare? y).getD (x.totalCompare y)

/-- Whether the two numbers are numerically equal. -/
def numericEq (x y : Binary f) : Bool :=
  x.compare? y = some .eq

/-- Whether the first number is numerically below the second. -/
def numericLt (x y : Binary f) : Bool :=
  x.compare? y = some .lt

end DynValue.Binary
