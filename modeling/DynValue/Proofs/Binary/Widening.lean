import DynValue.Proofs.Binary.Nearest

/-! A number of 32 bits is the same number in 64 bits. -/

namespace DynValue.Binary

variable {f g : Format}

/-- A ratio that is a multiple of the spacing around it is a number of the format itself. -/
theorem unitsOf_nearestMagnitude {numerator denominator : Nat} (positive : 0 < denominator)
    (whole : denominator * Nat.pow 2 ((numerator / denominator).log2 - f.fractionBits) ∣ numerator) :
    denominator * unitsOf f (nearestMagnitude f numerator denominator) = numerator := by
  have scaled := (rounded_ratio f numerator positive).scaled_units
  rw [nearestMagnitude, scaled]
  generalize (numerator / denominator).log2 - f.fractionBits = shift at *
  have spaced : 0 < denominator * Nat.pow 2 shift := Nat.mul_pos positive (Nat.two_pow_pos _)
  obtain ⟨multiple, rfl⟩ := whole
  -- Nothing is left to round.
  have low : multiple ≤ roundHalfEven (denominator * Nat.pow 2 shift * multiple) (denominator * Nat.pow 2 shift) :=
    le_roundHalfEven spaced (Nat.le_of_eq (Nat.mul_comm ..))
  have high : roundHalfEven (denominator * Nat.pow 2 shift * multiple) (denominator * Nat.pow 2 shift) ≤ multiple :=
    roundHalfEven_le spaced (Nat.le_of_eq (Nat.mul_comm ..))
  rw [Nat.le_antisymm high low]

/-- A size has as many digits as a fraction with its hidden bit, and zeros behind them. -/
theorem exists_unitsOf_eq (f : Format) (magnitude : Nat) :
    ∃ digits zeros, digits < 2 * f.fractions ∧ unitsOf f magnitude = digits * Nat.pow 2 zeros := by
  -- The numbers of the lowest exponent have no hidden bit, and the others have zeros behind their digits.
  have small := Nat.mod_lt magnitude f.fractions_pos
  simp only [unitsOf]
  split
  · exact ⟨magnitude % f.fractions, 0, by omega, by simp⟩
  · exact ⟨f.fractions + magnitude % f.fractions, magnitude / f.fractions - 1, by omega, rfl⟩

/-- One format has all numbers of another: its units are finer, its fractions longer and its infinities farther out. -/
structure Widens (f g : Format) (gap : Nat) : Prop where
  /-- Its units are smaller by a power of two. -/
  finer : g.one = f.one * Nat.pow 2 gap
  /-- Its fractions have more bits. -/
  longer : f.fractionBits < g.fractionBits
  /-- Its infinity is at least as far out. -/
  farther : unitsOf f f.infinity * Nat.pow 2 gap ≤ unitsOf g g.infinity

/-- Numbers of 32 bits have a place among those of 64 bits. -/
theorem widens_double : Widens .single .double 925 where
  -- The wide format has a finer unit, more digits and a larger infinity.
  finer := by decide +kernel
  longer := by decide
  farther := by decide +kernel

/-- Numbers of two formats are the same up to the payload of a NaN. -/
structure SameNumber (x : Binary f) (y : Binary g) : Prop where
  /-- The signs agree. -/
  sign : y.negative = x.negative
  /-- Neither or both are NaNs. -/
  nan : y.isNan = x.isNan
  /-- Neither or both are finite. -/
  finite : y.isFinite = x.isFinite
  /-- Finite ones are the same rational number. -/
  value : x.isFinite = true → y.toRat = x.toRat

section

variable {gap : Nat} (widens : Widens f g gap)

include widens

/-- A size of the narrow format is a size of the wide one. -/
theorem unitsOf_widened (magnitude : Nat) :
    unitsOf g (nearestMagnitude g (unitsOf f magnitude * g.one) f.one) = unitsOf f magnitude * Nat.pow 2 gap := by
  have positive := f.one_pos
  obtain ⟨digits, zeros, small, size⟩ := exists_unitsOf_eq f magnitude
  -- Counted in the units of the wide format, the size is a whole number.
  have numerator : unitsOf f magnitude * g.one = f.one * (unitsOf f magnitude * Nat.pow 2 gap) := by
    rw [widens.finer]
    ac_rfl
  have padded : unitsOf f magnitude * Nat.pow 2 gap = digits * Nat.pow 2 (zeros + gap) := by
    rw [size, Nat.mul_assoc]
    exact congrArg _ (Nat.pow_add 2 zeros gap).symm
  rw [numerator]
  apply Nat.eq_of_mul_eq_mul_left positive
  apply unitsOf_nearestMagnitude positive
  rw [Nat.mul_div_cancel_left _ positive, padded]
  -- The longer fraction has room for all digits, so that the spacing is made up of the zeros behind them.
  have bound : digits * Nat.pow 2 (zeros + gap) < 2 ^ (f.fractionBits + 1 + (zeros + gap)) := by
    calc
      digits * Nat.pow 2 (zeros + gap)
      _ < 2 * f.fractions * Nat.pow 2 (zeros + gap) := Nat.mul_lt_mul_of_pos_right small (Nat.two_pow_pos _)
      _ = 2 ^ (f.fractionBits + 1 + (zeros + gap)) := by
        rw [Nat.pow_add, Nat.pow_succ, Nat.mul_comm 2]
        rfl
  -- The digits of the size are no more than those of the narrow fraction and the zeros.
  have length : (digits * Nat.pow 2 (zeros + gap)).log2 ≤ f.fractionBits + 1 + (zeros + gap) := by
    by_cases zero : digits * Nat.pow 2 (zeros + gap) = 0
    · rw [zero]
      exact Nat.zero_le _
    · exact Nat.le_of_lt ((Nat.log2_lt zero).mpr bound)
  have longer := widens.longer
  apply Nat.mul_dvd_mul_left
  apply Nat.dvd_mul_left_of_dvd
  exact Nat.pow_dvd_pow 2 (by omega)

/-- A finite size of the narrow format is rounded to a finite magnitude of the wide one. -/
theorem nearestMagnitude_widened {magnitude : Nat} (finite : magnitude < f.infinity) :
    nearestMagnitude g (unitsOf f magnitude * g.one) f.one < g.infinity := by
  have widened := unitsOf_widened widens magnitude
  apply Nat.lt_of_not_le
  intro reached
  -- A size below the infinity of the narrow format is below that of the wide one.
  have below : unitsOf f magnitude * Nat.pow 2 gap < unitsOf f f.infinity * Nat.pow 2 gap :=
    Nat.mul_lt_mul_of_pos_right (unitsOf_lt finite) (Nat.two_pow_pos _)
  have above : unitsOf g g.infinity ≤ unitsOf g (nearestMagnitude g (unitsOf f magnitude * g.one) f.one) :=
    unitsOf_mono reached
  have farther := widens.farther
  omega

/-- A finite number of the narrow format is the same number in the wide one. -/
theorem sameNumber_convert_finite {x : Binary f} (finite : x.magnitude < f.infinity) :
    SameNumber x (ofRatio g x.negative x.units.natAbs f.one) := by
  -- The size is a number of the wide format itself, so that rounding keeps it.
  have size : x.units.natAbs = unitsOf f x.magnitude := by
    simp only [units]
    split <;> omega
  have inside := nearestMagnitude_widened widens finite
  have here : (ofRatio g x.negative x.units.natAbs f.one).magnitude =
      nearestMagnitude g (unitsOf f x.magnitude * g.one) f.one := by
    rw [size]
    exact Nat.min_eq_left (Nat.le_of_lt inside)
  have sign : (ofRatio g x.negative x.units.natAbs f.one).negative = x.negative := rfl
  generalize ofRatio g x.negative x.units.natAbs f.one = y at *
  -- The wide format counts in a unit that is smaller by a power of two.
  have scaled : y.units = x.units * (Nat.pow 2 gap : Nat) := by
    simp only [units, here, sign, unitsOf_widened widens]
    split <;> push_cast <;> ring
  constructor
  case sign => exact sign
  case nan => simp only [isNan, here, decide_eq_decide]; omega
  case finite => simp only [isFinite, here, decide_eq_decide]; omega
  case value =>
    intro _
    -- The power of two cancels between the number of units and their size.
    have power : ((Nat.pow 2 gap : Nat) : ℚ) ≠ 0 := Nat.cast_ne_zero.mpr (Nat.ne_of_gt (Nat.two_pow_pos gap))
    rw [toRat, toRat, scaled, widens.finer, Nat.cast_mul, Int.cast_mul, Int.cast_natCast]
    exact mul_div_mul_right _ _ power

end

/-- The bits of a sign and a magnitude are read as these. -/
theorem ofBits_signed {negative : Bool} {magnitude : Nat} (fits : magnitude < f.magnitudes) :
    ofBits f ((if negative then f.magnitudes else 0) + magnitude) = ⟨negative, magnitude, fits⟩ := by
  -- The sign bit is worth all magnitudes, so that division by their number separates the two.
  have positive : 0 < f.magnitudes := Nat.two_pow_pos _
  cases negative <;> simp [ofBits, Nat.div_eq_of_lt fits, Nat.mod_eq_of_lt fits, Nat.add_div_left, positive]

/-- Conversion to a wider format keeps the number. -/
theorem sameNumber_convert {gap : Nat} (widens : Widens f g gap) (x : Binary f) : SameNumber x (x.convert g) := by
  have room := g.infinity_add_fractions
  have half : 0 < g.fractions / 2 := by
    have := g.fractions_pos
    have := g.fractions_even
    omega
  have quiet : (nan : Binary g).magnitude = g.infinity + g.fractions / 2 := rfl
  by_cases invalid : x.isNan = true
  · -- The payload is kept below the quiet bit.
    have payload := Nat.mod_lt (x.magnitude % f.fractions * g.fractions / f.fractions) half
    have fits : (nan : Binary g).magnitude +
        x.magnitude % f.fractions * g.fractions / f.fractions % (g.fractions / 2) < g.magnitudes := by
      omega
    -- The payload is set into the fraction of the wide format, behind the quiet bit.
    have converted : x.convert g = ⟨x.negative, _, fits⟩ := by
      rw [convert, if_pos invalid]
      dsimp only
      rw [Nat.add_assoc]
      exact ofBits_signed fits
    rw [converted]
    simp only [isNan, decide_eq_true_eq] at invalid
    constructor
    case sign => rfl
    case nan => simp only [isNan, decide_eq_decide]; omega
    case finite => simp only [isFinite, decide_eq_decide]; omega
    case value => simp only [isFinite, decide_eq_true_eq]; omega
  · by_cases unbounded : x.isInfinite = true
    · -- An infinity becomes the infinity of its sign.
      rw [convert, if_neg invalid, if_pos unbounded]
      simp only [isInfinite, decide_eq_true_eq] at unbounded
      constructor
      case sign => rfl
      case nan => simp [isNan, infinite, ofMagnitude, unbounded]
      case finite => simp [isFinite, infinite, ofMagnitude, unbounded]
      case value => simp [isFinite, unbounded]
    · rw [convert, if_neg invalid, if_neg unbounded]
      simp only [isNan, isInfinite, decide_eq_true_eq] at invalid unbounded
      exact sameNumber_convert_finite widens (by omega)

end DynValue.Binary
