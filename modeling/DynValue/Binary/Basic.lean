/-! Binary floating-point numbers of any format, kept as a sign and a magnitude. -/

namespace DynValue

/-- A binary interchange format is the number of exponent bits and of stored fraction bits. -/
structure Format where
  /-- The number of bits of the biased exponent. -/
  exponentBits : Nat
  /-- The number of stored bits of the fraction. -/
  fractionBits : Nat
  /-- At least one exponent is left between the subnormal numbers and the infinities. -/
  exponentBits_large : 2 ≤ exponentBits := by decide
  /-- At least one fraction bit tells a NaN from an infinity. -/
  fractionBits_pos : 0 < fractionBits := by decide
deriving DecidableEq

namespace Format

/-- The format of 64 bits. -/
def double : Format := { exponentBits := 11, fractionBits := 52 }

/-- The format of 32 bits. -/
def single : Format := { exponentBits := 8, fractionBits := 23 }

/-- The number of magnitudes, which is also the weight of the sign bit. -/
def magnitudes (f : Format) : Nat := Nat.pow 2 (f.exponentBits + f.fractionBits)

/-- The number of fractions under one exponent. -/
def fractions (f : Format) : Nat := Nat.pow 2 f.fractionBits

/-- The magnitude of the infinities, past all finite ones. -/
def infinity (f : Format) : Nat := (Nat.pow 2 f.exponentBits - 1) * f.fractions

/-- The number of least positive numbers that make up one is two to this power. -/
def scale (f : Format) : Nat := Nat.pow 2 (f.exponentBits - 1) + f.fractionBits - 2

/-- The number of least positive numbers that make up one. -/
def one (f : Format) : Nat := Nat.pow 2 f.scale

/-- There is at least one fraction. -/
theorem fractions_pos (f : Format) : 0 < f.fractions := Nat.two_pow_pos _

/-- One is made up of at least one least positive number. -/
theorem one_pos (f : Format) : 0 < f.one := Nat.two_pow_pos _

/-- The infinities leave room for every NaN above them. -/
theorem infinity_add_fractions (f : Format) : f.infinity + f.fractions = f.magnitudes := by
  -- One more step of the exponent would reach the sign bit.
  have positive : 0 < Nat.pow 2 f.exponentBits := Nat.two_pow_pos _
  have split : f.magnitudes = Nat.pow 2 f.exponentBits * f.fractions := Nat.pow_add ..
  rw [infinity, split, ← Nat.succ_mul]
  congr 1
  omega

/-- The infinity is a magnitude. -/
theorem infinity_lt (f : Format) : f.infinity < f.magnitudes := by
  -- Above the infinity the magnitudes with the highest exponent and a fraction other than zero are left for the NaNs.
  have := f.infinity_add_fractions
  have := f.fractions_pos
  omega

/-- The quiet NaN is a magnitude. -/
theorem quiet_lt (f : Format) : f.infinity + f.fractions / 2 < f.magnitudes := by
  -- Half of the fractions is less than all of them, which is how far the infinity is from the end.
  have := f.infinity_add_fractions
  have := f.fractions_pos
  omega

end Format

/-- A floating-point number is a sign and a magnitude, the magnitude being its bits without the sign. -/
structure Binary (f : Format) where
  /-- The sign bit. -/
  negative : Bool
  /-- The bits below the sign, which order the numbers of one sign by size. -/
  magnitude : Nat
  /-- The magnitude fits below the sign bit. -/
  magnitude_lt : magnitude < f.magnitudes
deriving DecidableEq

/-- Floating-point numbers of 64 bits. -/
abbrev Binary64 := Binary .double

namespace Binary

variable {f : Format}

/-- The number with these bits, any bits above the sign being dropped. -/
def ofBits (f : Format) (bits : Nat) : Binary f :=
  ⟨bits / f.magnitudes % 2 = 1, bits % f.magnitudes, Nat.mod_lt _ (Nat.two_pow_pos _)⟩

/-- The bits of a number, the sign on top. -/
def toBits (x : Binary f) : Nat :=
  (if x.negative then f.magnitudes else 0) + x.magnitude

/-- The number of a magnitude, every magnitude past the finite ones being infinite. -/
def ofMagnitude (f : Format) (negative : Bool) (magnitude : Nat) : Binary f :=
  ⟨negative, min magnitude f.infinity, Nat.lt_of_le_of_lt (Nat.min_le_right ..) f.infinity_lt⟩

/-- The zero of a sign. -/
def zero (negative : Bool) : Binary f := ofMagnitude f negative 0

/-- The infinity of a sign. -/
def infinite (negative : Bool) : Binary f := ofMagnitude f negative f.infinity

/-- The quiet NaN that invalid operations give. -/
def nan : Binary f := ⟨false, f.infinity + f.fractions / 2, f.quiet_lt⟩

/-- Zero is a number of every format. -/
instance : Inhabited (Binary f) := ⟨zero false⟩

/-- Whether the number is a NaN. -/
def isNan (x : Binary f) : Bool := f.infinity < x.magnitude

/-- Whether the number is an infinity. -/
def isInfinite (x : Binary f) : Bool := x.magnitude = f.infinity

/-- Whether the number is neither infinite nor a NaN. -/
def isFinite (x : Binary f) : Bool := x.magnitude < f.infinity

/-- Whether the number is one of the two zeros. -/
def isZero (x : Binary f) : Bool := x.magnitude = 0

/-- Whether the number is below zero, which no zero and no NaN is. -/
def isBelowZero (x : Binary f) : Bool := x.negative && !x.isZero && !x.isNan

/-- Negation flips the sign bit, whatever the number is. -/
instance : Neg (Binary f) := ⟨fun x => { x with negative := !x.negative }⟩

/-- The size of a finite magnitude, counted in least positive numbers. -/
def unitsOf (f : Format) (magnitude : Nat) : Nat :=
  let exponent := magnitude / f.fractions
  let fraction := magnitude % f.fractions
  -- Subnormal numbers have the spacing of the first normal ones and no hidden bit.
  if exponent = 0 then fraction else (f.fractions + fraction) * Nat.pow 2 (exponent - 1)

/-- The exact value of a finite number, counted in least positive numbers. -/
def units (x : Binary f) : Int :=
  let size := unitsOf f x.magnitude
  if x.negative then -size else size

end Binary

end DynValue
