import DynValue.Binary.Basic

/-! Rounding of exact ratios to the nearest floating-point number, ties to the even one. -/

namespace DynValue

/-- The integer nearest to a ratio, a tie going to the even one. -/
def roundHalfEven (numerator denominator : Nat) : Nat :=
  let whole := numerator / denominator
  match compare (2 * (numerator % denominator)) denominator with
  | .lt => whole
  | .gt => whole + 1
  -- Halfway between two integers, only an odd one has to move.
  | .eq => whole + whole % 2

namespace Binary

variable {f : Format}

/--
The magnitude nearest to a ratio counted in least positive numbers, past the finite ones when it is too large.

The spacing of the numbers around the ratio is a power of two, and consecutive multiples of it are consecutive
magnitudes.
-/
def nearestMagnitude (f : Format) (numerator denominator : Nat) : Nat :=
  -- Up to one digit more than a fraction has, the spacing is one unit, and every further digit doubles it.
  let shift := (numerator / denominator).log2 - f.fractionBits
  shift * f.fractions + roundHalfEven numerator (denominator * Nat.pow 2 shift)

/-- The number nearest to a signed ratio counted in least positive numbers. -/
def ofUnits (f : Format) (negative : Bool) (numerator denominator : Nat) : Binary f :=
  ofMagnitude f negative (nearestMagnitude f numerator denominator)

/-- The number nearest to a signed ratio. -/
def ofRatio (f : Format) (negative : Bool) (numerator denominator : Nat) : Binary f :=
  ofUnits f negative (numerator * f.one) denominator

/-- The number nearest to an integer. -/
def ofInt (f : Format) (n : Int) : Binary f :=
  ofRatio f (n < 0) n.natAbs 1

/--
The number nearest to a whole number of powers of ten.

Decimals far outside the range of the format are settled by their order of magnitude alone.
-/
def ofDecimal (f : Format) (negative : Bool) (coefficient : Nat) (exponent : Int) : Binary f :=
  -- Two to this power exceeds every finite number, and its inverse is below half the least positive one.
  let reach : Int := f.scale + f.fractionBits
  if coefficient = 0 then zero negative
  else if reach < exponent then infinite negative
  else if coefficient.log2 / 3 + exponent < -reach then zero negative
  else if 0 ≤ exponent then ofRatio f negative (coefficient * Nat.pow 10 exponent.toNat) 1
  else ofRatio f negative coefficient (Nat.pow 10 (-exponent).toNat)

/-- The nearest number of another format, a NaN keeping its sign and leading payload bits. -/
def convert (g : Format) (x : Binary f) : Binary g :=
  if x.isNan then
    let payload := x.magnitude % f.fractions
    let aligned := payload * g.fractions / f.fractions
    -- The quiet bit is set, so that a payload whose kept bits are all zero stays a NaN.
    ofBits g ((if x.negative then g.magnitudes else 0) + (nan : Binary g).magnitude +
      aligned % (g.fractions / 2))
  else if x.isInfinite then infinite x.negative
  else ofRatio g x.negative x.units.natAbs f.one

/-- The integer part of a finite number, the fraction being dropped. -/
def truncate (x : Binary f) : Int :=
  x.units.tdiv f.one

end Binary

end DynValue
