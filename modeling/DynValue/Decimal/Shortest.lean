import DynValue.Binary.Basic

/-! The shortest decimal that reads back as a floating-point number, and of those the nearest one. -/

namespace DynValue

/-- Where the nearer of two decimals is sought and both are equally near, one of them is preferred. -/
inductive Tie where
  /-- The larger decimal is taken. -/
  | up
  /-- The decimal with the even last digit is taken. -/
  | even
deriving DecidableEq

/-- A decimal is a whole number of powers of ten. -/
structure Decimal where
  /-- How many powers of ten there are. -/
  coefficient : Nat
  /-- The exponent of the power of ten. -/
  exponent : Int
deriving DecidableEq

namespace Decimal

/-- The number of digits a natural number is written with. -/
def digitCount (n : Nat) : Nat := (Nat.toDigits 10 n).length

/-- The exponent of the greatest power of ten that is at most a positive ratio. -/
def order (numerator denominator : Nat) : Int :=
  if denominator ≤ numerator then digitCount (numerator / denominator) - 1
  -- Below one, the least power of ten by which the ratio must grow to reach one decides.
  else -digitCount ((denominator - 1) / numerator)

/--
The reals that read back as a number: those up to halfway to its neighbours, the ends included when it is even.

The bounds and the number itself are counted in halves of the least positive number.
-/
structure Basin where
  /-- The midpoint below. -/
  lower : Nat
  /-- The number itself. -/
  center : Nat
  /-- The midpoint above. -/
  upper : Nat
  /-- Whether the midpoints read back as the number. -/
  closed : Bool

/-- The basin of a positive magnitude, whose neighbours are the magnitudes next to it. -/
def Basin.of (f : Format) (magnitude : Nat) : Basin where
  lower := Binary.unitsOf f (magnitude - 1) + Binary.unitsOf f magnitude
  center := 2 * Binary.unitsOf f magnitude
  upper := Binary.unitsOf f magnitude + Binary.unitsOf f (magnitude + 1)
  closed := magnitude % 2 = 0

/-- Whether a count of grid steps lies in the basin, a step being a ratio of halves. -/
def Basin.holds (basin : Basin) (numerator denominator count : Nat) : Bool :=
  if basin.closed then
    basin.lower * denominator ≤ count * numerator && count * numerator ≤ basin.upper * denominator
  else basin.lower * denominator < count * numerator && count * numerator < basin.upper * denominator

/-- The point of a grid that lies in the basin and is nearest to its center, if there is one. -/
def Basin.nearest? (tie : Tie) (basin : Basin) (numerator denominator : Nat) : Option Nat :=
  -- No other point of the grid is nearer than the two around the center.
  let center := basin.center * denominator
  let low := center / numerator
  let high := low + 1
  match basin.holds numerator denominator low, basin.holds numerator denominator high with
  | false, false => none
  | true, false => some low
  | false, true => some high
  | true, true =>
    match compare (center - low * numerator) (high * numerator - center) with
    | .lt => some low
    | .gt => some high
    | .eq =>
      match tie with
      | .up => some high
      | .even => some (low + low % 2)

/-- The point of the grid of a power of ten that reads back as the magnitude, if there is one. -/
def onGrid? (tie : Tie) (f : Format) (magnitude : Nat) (exponent : Int) : Option Decimal :=
  let basin := Basin.of f magnitude
  let halves := 2 * f.one
  let point :=
    if 0 ≤ exponent then basin.nearest? tie (Nat.pow 10 exponent.toNat * halves) 1
    else basin.nearest? tie halves (Nat.pow 10 (-exponent).toNat)
  point.map (⟨·, exponent⟩)

/-- The exact decimal of a magnitude, which every magnitude has because ten is even. -/
def exact (f : Format) (magnitude : Nat) : Decimal :=
  ⟨Binary.unitsOf f magnitude * Nat.pow 5 f.scale, -f.scale⟩

/--
The decimal with the fewest digits that reads back as a finite magnitude.

The grids get finer from the one of the leading digit on, and the first that has a point in the basin decides.
-/
def shortest (tie : Tie) (f : Format) (magnitude : Nat) : Decimal :=
  if magnitude = 0 then ⟨0, 0⟩
  else
    let leading := order (Binary.unitsOf f magnitude) f.one
    -- Three bits of a fraction take less than one digit, so that this many digits tell any two neighbours apart.
    let grids := List.range (f.fractionBits / 3 + 2)
    (grids.findSome? fun (extra : Nat) => onGrid? tie f magnitude (leading - extra)).getD (exact f magnitude)

end Decimal

end DynValue
