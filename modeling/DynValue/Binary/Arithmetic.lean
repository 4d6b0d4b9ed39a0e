import DynValue.Binary.Order
import DynValue.Binary.Rounding

/-! Arithmetic on floating-point numbers: each operation is its exact result, rounded once. -/

namespace DynValue.Binary

variable {f : Format}

/-- The number nearest to a whole number of least positive numbers, zero taking the given sign. -/
def ofExact (f : Format) (zeroSign : Bool) (total : Int) : Binary f :=
  ofUnits f (if total = 0 then zeroSign else total < 0) total.natAbs 1

/-- The sum; infinities of opposite signs have none. -/
def add (x y : Binary f) : Binary f :=
  if x.isNan || y.isNan then nan
  else if x.isInfinite then
    if y.isInfinite && x.negative != y.negative then nan else x
  else if y.isInfinite then y
  -- An exact zero is negative only when both terms are.
  else ofExact f (x.negative && y.negative) (x.units + y.units)

/-- The difference is the sum with the negated second term. -/
def sub (x y : Binary f) : Binary f := add x (-y)

/-- The product; zero times an infinity has none. -/
def mul (x y : Binary f) : Binary f :=
  let negative := x.negative != y.negative
  if x.isNan || y.isNan then nan
  else if x.isInfinite || y.isInfinite then
    if x.isZero || y.isZero then nan else infinite negative
  -- The product counts squares of the unit, and a unit has as many of them as one has units.
  else ofUnits f negative (x.units.natAbs * y.units.natAbs) f.one

/-- The quotient; a nonzero number over zero is infinite, and zero over zero has none. -/
def div (x y : Binary f) : Binary f :=
  let negative := x.negative != y.negative
  if x.isNan || y.isNan then nan
  else if x.isInfinite then
    if y.isInfinite then nan else infinite negative
  else if y.isInfinite then zero negative
  else if y.isZero then
    if x.isZero then nan else infinite negative
  else ofUnits f negative (x.units.natAbs * f.one) y.units.natAbs

/-- The exact remainder of the quotient cut toward zero, with the sign of the dividend. -/
def remainder (x y : Binary f) : Binary f :=
  if x.isNan || y.isNan || x.isInfinite || y.isZero then nan
  else if y.isInfinite then x
  -- The remainder is below the divisor and keeps the finer spacing, so that rounding leaves it alone.
  else ofExact f x.negative (x.units.tmod y.units)

/-- The greatest whole number that is not above, zeros and infinities being their own. -/
def floor (x : Binary f) : Binary f :=
  if x.isFinite then ofExact f x.negative (x.units.fdiv f.one * f.one)
  else x

/-- Sums of floats are rounded to the nearest one. -/
instance : Add (Binary f) := ⟨add⟩

/-- Differences of floats are rounded to the nearest one. -/
instance : Sub (Binary f) := ⟨sub⟩

/-- Products of floats are rounded to the nearest one. -/
instance : Mul (Binary f) := ⟨mul⟩

/-- Quotients of floats are rounded to the nearest one. -/
instance : Div (Binary f) := ⟨div⟩

/-- The quotient, which is no number when the divisor is zero. -/
def safeDiv (x y : Binary f) : Binary f :=
  if y.isZero then nan else x / y

/-- The remainder with the sign of the divisor, which is no number when the divisor is zero. -/
def floorMod (x y : Binary f) : Binary f :=
  if y.isZero then nan
  else
    let rest := x.remainder y
    -- A zero takes its sign from the divisor as every other remainder does.
    if rest.isZero then zero y.negative
    else if rest.isBelowZero != y.isBelowZero then rest + y
    else rest

/--
The floor of the quotient, which is no number when the divisor is zero.

The exact remainder is taken off first, so that the quotient left to round is all but whole.
-/
def floorDiv (x y : Binary f) : Binary f :=
  if y.isZero then nan
  else
    let rest := x.remainder y
    let cut := (x - rest) / y
    let quotient :=
      if !rest.isZero && y.isBelowZero != rest.isBelowZero then cut - ofInt f 1 else cut
    if quotient.isZero then zero (x / y).negative
    else
      -- Rounding may have left the quotient on either side of a whole number.
      let whole := quotient.floor
      if (ofRatio f false 1 2).numericLt (quotient - whole) then whole + ofInt f 1 else whole

end DynValue.Binary
