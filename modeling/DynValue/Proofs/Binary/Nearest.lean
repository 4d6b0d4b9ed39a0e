import Mathlib.Algebra.Order.Field.Basic
import Mathlib.Algebra.Order.Field.Rat
import Mathlib.Tactic.Ring
import DynValue.Proofs.Binary.Order

/-! Rounding gives the number that is nearest, and of two that are equally near the one with an even magnitude. -/

namespace DynValue

/-- Rounding a ratio moves it by a half at most, and by a half only to an even integer. -/
theorem roundHalfEven_error (numerator : Nat) {denominator : Nat} (positive : 0 < denominator) :
    2 * ((numerator : Int) - denominator * roundHalfEven numerator denominator).natAbs ≤ denominator ∧
      (2 * ((numerator : Int) - denominator * roundHalfEven numerator denominator).natAbs = denominator →
        roundHalfEven numerator denominator % 2 = 0) := by
  have split := Nat.div_add_mod numerator denominator
  have small := Nat.mod_lt numerator positive
  unfold roundHalfEven
  dsimp only
  generalize numerator % denominator = rest at *
  generalize numerator / denominator = whole at *
  -- What is left of the ratio beside its whole part decides between the two neighbours.
  have step : (denominator * (whole + 1) : Int) = denominator * whole + denominator := by ring
  have sum : (numerator : Int) = denominator * whole + rest := by exact_mod_cast split.symm
  split
  · -- Below the half, the whole part is nearer.
    rename_i below
    rw [Nat.compare_eq_lt] at below
    omega
  · -- Above the half, the next whole number is nearer.
    rename_i above
    rw [Nat.compare_eq_gt] at above
    rw [Nat.cast_add, Nat.cast_one, step]
    omega
  · -- In between, the even one of the two is taken.
    rename_i tie
    rw [Nat.compare_eq_eq] at tie
    rcases Nat.mod_two_eq_zero_or_one whole with even | odd
    · rw [even, Nat.add_zero]
      omega
    · rw [odd, Nat.cast_add, Nat.cast_one, step]
      omega

/-- There is a fraction bit, so that the fractions come in pairs. -/
theorem Format.fractions_even (f : Format) : f.fractions % 2 = 0 := by
  -- The fractions are a power of two that is not one.
  obtain ⟨bits, positive⟩ := Nat.exists_eq_succ_of_ne_zero (Nat.ne_of_gt f.fractionBits_pos)
  rw [Format.fractions, positive, Nat.pow_eq, Nat.pow_succ, Nat.mul_mod_left]

namespace Binary

variable {f : Format}

/-- A magnitude that is not smaller has no smaller size. -/
theorem unitsOf_mono {m n : Nat} (le : m ≤ n) : unitsOf f m ≤ unitsOf f n := by
  -- Different magnitudes have sizes in the same order.
  rcases Nat.eq_or_lt_of_le le with rfl | less
  · exact Nat.le_refl _
  · exact Nat.le_of_lt (unitsOf_lt less)

/-- Magnitudes past a whole number of exponents are multiples of one spacing, up to the start of the next exponent. -/
theorem unitsOf_multiple {shift multiple : Nat} (low : shift = 0 ∨ f.fractions ≤ multiple)
    (high : multiple ≤ 2 * f.fractions) :
    unitsOf f (shift * f.fractions + multiple) = multiple * Nat.pow 2 shift := by
  have positive := f.fractions_pos
  by_cases subnormal : multiple < f.fractions
  · -- Below the first exponent the spacing is one unit.
    obtain rfl : shift = 0 := by omega
    simp [unitsOf, Nat.div_eq_of_lt subnormal, Nat.mod_eq_of_lt subnormal]
  · obtain ⟨fraction, rfl⟩ := Nat.exists_eq_add_of_le (Nat.le_of_not_lt subnormal)
    by_cases last : fraction = f.fractions
    · -- The last multiple is the first magnitude of the next exponent.
      subst last
      have place : shift * f.fractions + (f.fractions + f.fractions) = f.fractions * (shift + 2) := by ring
      rw [unitsOf, place, Nat.mul_div_cancel_left _ positive, Nat.mul_mod_right]
      simp only [Nat.add_zero, Nat.pow_eq]
      rw [if_neg (by omega), show shift + 2 - 1 = shift + 1 by omega, Nat.pow_succ]
      ring
    · have place : shift * f.fractions + (f.fractions + fraction) = fraction + f.fractions * (shift + 1) := by ring
      rw [unitsOf, place, Nat.add_mul_div_left _ _ positive, Nat.add_mul_mod_self_left,
        Nat.div_eq_of_lt (by omega), Nat.mod_eq_of_lt (by omega)]
      simp

/-- Past such a magnitude the spacing does not get narrower. -/
theorem le_unitsOf_succ {shift multiple : Nat} (low : shift = 0 ∨ f.fractions ≤ multiple)
    (high : multiple ≤ 2 * f.fractions) :
    (multiple + 1) * Nat.pow 2 shift ≤ unitsOf f (shift * f.fractions + multiple + 1) := by
  -- The spacing at the multiple is at least the one it was counted in, unless that is the least one.
  rw [unitsOf_succ, unitsOf_multiple low high, Nat.add_mul, Nat.one_mul]
  apply Nat.add_le_add_left
  apply Nat.pow_le_pow_right (by decide)
  rcases low with rfl | low
  · exact Nat.zero_le _
  · -- A multiple that large belongs to the next exponent or to a later one.
    have reached : (shift + 1) * f.fractions ≤ shift * f.fractions + multiple := by
      rw [Nat.add_mul]
      omega
    have := (Nat.le_div_iff_mul_le f.fractions_pos).mpr reached
    omega

/-- How far a magnitude is from a ratio, counted in least positive numbers over the denominator. -/
def distance (f : Format) (numerator denominator magnitude : Nat) : Nat :=
  ((numerator : Int) - denominator * unitsOf f magnitude).natAbs

/-- A magnitude is preferred to another one that is farther from the ratio, or as far if this one is even. -/
structure Preferred (f : Format) (numerator denominator here other : Nat) : Prop where
  /-- The other magnitude is no nearer. -/
  closest : distance f numerator denominator here ≤ distance f numerator denominator other
  /-- Another magnitude that is as near has lost to an even one. -/
  even : distance f numerator denominator here = distance f numerator denominator other →
    other = here ∨ here % 2 = 0

/-- A ratio is rounded to a multiple of a spacing that the magnitudes around it have. -/
structure Rounded (f : Format) (numerator denominator shift multiple : Nat) : Prop where
  /-- Only the least spacing has multiples below the fractions. -/
  start : shift = 0 ∨ f.fractions * (denominator * Nat.pow 2 shift) ≤ numerator
  /-- The multiple has a hidden bit, unless the spacing is the least one. -/
  low : shift = 0 ∨ f.fractions ≤ multiple
  /-- The multiple reaches the next spacing at most. -/
  high : multiple ≤ 2 * f.fractions
  /-- The multiple is within half of the spacing. -/
  near : 2 * ((numerator : Int) - (denominator * Nat.pow 2 shift : Nat) * multiple).natAbs ≤
    denominator * Nat.pow 2 shift
  /-- Exactly between two multiples the even one is taken. -/
  tie : 2 * ((numerator : Int) - (denominator * Nat.pow 2 shift : Nat) * multiple).natAbs =
    denominator * Nat.pow 2 shift → multiple % 2 = 0

/-- The nearest magnitude comes from the spacing that the digits of the whole part ask for. -/
theorem rounded_ratio (f : Format) (numerator : Nat) {denominator : Nat} (positive : 0 < denominator) :
    Rounded f numerator denominator ((numerator / denominator).log2 - f.fractionBits)
      (roundHalfEven numerator
        (denominator * Nat.pow 2 ((numerator / denominator).log2 - f.fractionBits))) := by
  -- The spacing is chosen such that the multiple has the digits of a fraction with its hidden bit.
  have upper : numerator ≤ 2 * f.fractions *
      (denominator * Nat.pow 2 ((numerator / denominator).log2 - f.fractionBits)) := ratio_le_spacing positive
  have start : (numerator / denominator).log2 - f.fractionBits = 0 ∨
      f.fractions * (denominator * Nat.pow 2 ((numerator / denominator).log2 - f.fractionBits)) ≤ numerator :=
    (Nat.eq_zero_or_pos _).imp_right (spacing_le_ratio positive)
  -- Nothing else depends on how the spacing was found.
  generalize (numerator / denominator).log2 - f.fractionBits = shift at *
  have spaced : 0 < denominator * Nat.pow 2 shift := Nat.mul_pos positive (Nat.two_pow_pos _)
  -- Rounding to a multiple moves the ratio by half of the spacing at most.
  obtain ⟨near, tie⟩ := roundHalfEven_error numerator spaced
  exact {
    start
    low := start.imp_right (le_roundHalfEven spaced)
    high := roundHalfEven_le spaced upper
    near
    tie }

namespace Rounded

variable {numerator denominator shift multiple other : Nat}

/-- The size of the magnitude is the multiple of the spacing. -/
theorem scaled_units (rounded : Rounded f numerator denominator shift multiple) :
    denominator * unitsOf f (shift * f.fractions + multiple) =
      denominator * Nat.pow 2 shift * multiple := by
  -- The multiple lies where the spacing does not change.
  rw [unitsOf_multiple rounded.low rounded.high]
  ac_rfl

/-- Whole exponents have an even number of fractions, so that the multiple decides the parity. -/
theorem even_of_tie (rounded : Rounded f numerator denominator shift multiple)
    (half : 2 * ((numerator : Int) - (denominator * Nat.pow 2 shift : Nat) * multiple).natAbs =
      denominator * Nat.pow 2 shift) : (shift * f.fractions + multiple) % 2 = 0 := by
  -- A tie was resolved to an even multiple, and the fractions of the exponents before it do not change the parity.
  have even := rounded.tie half
  have pairs := f.fractions_even
  simp [Nat.add_mod, Nat.mul_mod, pairs, even]

/-- A larger magnitude is at least one spacing away. -/
theorem preferred_above (rounded : Rounded f numerator denominator shift multiple)
    (above : shift * f.fractions + multiple < other) :
    Preferred f numerator denominator (shift * f.fractions + multiple) other := by
  have near := rounded.near
  have tie := rounded.even_of_tie
  -- The next magnitude is at least one spacing further up, and the others lie beyond it.
  have next : denominator * Nat.pow 2 shift * multiple + denominator * Nat.pow 2 shift ≤
      denominator * unitsOf f other := by
    calc
      denominator * Nat.pow 2 shift * multiple + denominator * Nat.pow 2 shift
      _ = denominator * ((multiple + 1) * Nat.pow 2 shift) := by ring
      _ ≤ denominator * unitsOf f (shift * f.fractions + multiple + 1) :=
        Nat.mul_le_mul_left _ (le_unitsOf_succ rounded.low rounded.high)
      _ ≤ denominator * unitsOf f other := Nat.mul_le_mul_left _ (unitsOf_mono above)
  constructor <;> simp only [distance, ← Nat.cast_mul, rounded.scaled_units] at near tie ⊢
  · omega
  · -- Half a spacing on this side is half a spacing on the other one.
    intro equal
    exact .inr (tie (by omega))

/-- A smaller magnitude is farther away, or one spacing away if the ratio was rounded up. -/
theorem preferred_below (rounded : Rounded f numerator denominator shift multiple) (positive : 0 < denominator)
    (below : other < shift * f.fractions + multiple) :
    Preferred f numerator denominator (shift * f.fractions + multiple) other := by
  have near := rounded.near
  have tie := rounded.even_of_tie
  have less : denominator * unitsOf f other < denominator * unitsOf f (shift * f.fractions + multiple) :=
    Nat.mul_lt_mul_of_pos_left (unitsOf_lt below) positive
  -- A ratio that was rounded up lies past the multiple before, whose magnitude is the one before.
  have previous (up : numerator < denominator * Nat.pow 2 shift * multiple) :
      denominator * unitsOf f other + denominator * Nat.pow 2 shift ≤
        denominator * Nat.pow 2 shift * multiple := by
    obtain ⟨before, rfl⟩ : ∃ before, multiple = before + 1 := by
      apply Nat.exists_eq_succ_of_ne_zero
      rintro rfl
      simp at up
    have low : shift = 0 ∨ f.fractions ≤ before := by
      refine rounded.start.imp_right fun start => ?_
      rw [Nat.mul_comm] at start
      have := Nat.lt_of_mul_lt_mul_left (Nat.lt_of_le_of_lt start up)
      omega
    have high := rounded.high
    calc
      denominator * unitsOf f other + denominator * Nat.pow 2 shift
      _ ≤ denominator * unitsOf f (shift * f.fractions + before) + denominator * Nat.pow 2 shift :=
        Nat.add_le_add_right (Nat.mul_le_mul_left _ (unitsOf_mono (by omega))) _
      _ = denominator * Nat.pow 2 shift * (before + 1) := by
        rw [unitsOf_multiple low (by omega)]
        ring
  -- Rounded up, the ratio is at most half of the spacing away; rounded down, it lies beyond the multiple.
  by_cases up : numerator < denominator * Nat.pow 2 shift * multiple
  · have spaced := previous up
    constructor <;> simp only [distance, ← Nat.cast_mul, rounded.scaled_units] at near tie ⊢
    · omega
    · intro equal
      exact .inr (tie (by omega))
  · rw [rounded.scaled_units] at less
    constructor <;> simp only [distance, ← Nat.cast_mul, rounded.scaled_units]
    · omega
    · intro equal
      omega

end Rounded

/-- The nearest magnitude is preferred to every other one. -/
theorem preferred_nearestMagnitude (f : Format) (numerator : Nat) {denominator : Nat} (positive : 0 < denominator)
    (other : Nat) : Preferred f numerator denominator (nearestMagnitude f numerator denominator) other := by
  -- Below and above the multiple the magnitudes are no nearer, for different reasons.
  have rounded := rounded_ratio f numerator positive
  simp only [nearestMagnitude]
  generalize roundHalfEven numerator _ = multiple at *
  generalize (numerator / denominator).log2 - f.fractionBits = shift at *
  rcases Nat.lt_trichotomy other (shift * f.fractions + multiple) with below | rfl | above
  · exact rounded.preferred_below positive below
  · exact ⟨Nat.le_refl _, fun _ => .inl rfl⟩
  · exact rounded.preferred_above above

/-- Past the finite magnitudes the infinite one is preferred to all before it. -/
theorem preferred_min_infinity (f : Format) (numerator : Nat) {denominator other : Nat} (positive : 0 < denominator)
    (number : other ≤ f.infinity) :
    Preferred f numerator denominator (min (nearestMagnitude f numerator denominator) f.infinity) other := by
  by_cases reached : nearestMagnitude f numerator denominator ≤ f.infinity
  · -- Nothing is capped.
    rw [Nat.min_eq_left reached]
    exact preferred_nearestMagnitude f numerator positive other
  · rw [Nat.min_eq_right (by omega)]
    rcases Nat.eq_or_lt_of_le number with rfl | less
    · exact ⟨Nat.le_refl _, fun _ => .inl rfl⟩
    · -- A nearer magnitude beyond the infinite one shows that the ratio is not below it.
      have beyond := (preferred_nearestMagnitude f numerator positive f.infinity).closest
      have past : denominator * unitsOf f f.infinity <
          denominator * unitsOf f (nearestMagnitude f numerator denominator) :=
        Nat.mul_lt_mul_of_pos_left (unitsOf_lt (Nat.lt_of_not_le reached)) positive
      have smaller : denominator * unitsOf f other < denominator * unitsOf f f.infinity :=
        Nat.mul_lt_mul_of_pos_left (unitsOf_lt less) positive
      constructor <;> simp only [distance, ← Nat.cast_mul] at beyond ⊢
      · omega
      · intro equal
        omega

/-- An integer and a number of its sign are as far apart as their sizes, and otherwise zero lies between them. -/
theorem natAbs_sub_units (n : Int) (x : Binary f) :
    (n * f.one - x.units).natAbs =
      if x.negative = decide (n < 0) then distance f (n.natAbs * f.one) 1 x.magnitude
      else n.natAbs * f.one + unitsOf f x.magnitude := by
  -- With the same sign the sizes are subtracted, and with different ones they are added.
  have scaled : n * f.one = if n < 0 then -((n.natAbs * f.one : Nat) : Int) else (n.natAbs * f.one : Nat) := by
    split
    · rw [Nat.cast_mul, ← Int.neg_mul]
      congr 1
      omega
    · rw [Nat.cast_mul]
      congr 1
      omega
  rw [scaled]
  simp only [units, distance]
  generalize n.natAbs * f.one = size
  by_cases below : n < 0 <;> cases x.negative <;> simp [below] <;> omega

/-- The magnitude zero has no size. -/
theorem unitsOf_zero (f : Format) : unitsOf f 0 = 0 := by
  -- Zero is the fraction zero of the lowest exponent.
  simp [unitsOf]

/-- Rounding an integer is at least as near as any number, and gives an even magnitude where another is as near. -/
theorem ofInt_closest (n : Int) {y : Binary f} (number : y.isNan = false) :
    (n * f.one - (ofInt f n).units).natAbs ≤ (n * f.one - y.units).natAbs ∧
      ((n * f.one - (ofInt f n).units).natAbs = (n * f.one - y.units).natAbs →
        y.units = (ofInt f n).units ∨ (ofInt f n).magnitude % 2 = 0) := by
  have bound : y.magnitude ≤ f.infinity := by simpa [isNan] using number
  -- The rounding has the sign of the integer, so that their distance is one of sizes.
  have here : (n * f.one - (ofInt f n).units).natAbs =
      distance f (n.natAbs * f.one) 1 (ofInt f n).magnitude := by
    rw [natAbs_sub_units]
    exact if_pos rfl
  have preferred {other : Nat} (number : other ≤ f.infinity) :
      Preferred f (n.natAbs * f.one) 1 (ofInt f n).magnitude other :=
    preferred_min_infinity f (n.natAbs * f.one) Nat.one_pos number
  rw [here, natAbs_sub_units n y]
  by_cases sameSign : y.negative = decide (n < 0)
  · -- On the side of the integer the nearest magnitude has been preferred to this one.
    rw [if_pos sameSign]
    refine ⟨(preferred bound).closest, fun equal => ?_⟩
    refine ((preferred bound).even equal).imp_left fun same => ?_
    have signs : y.negative = (ofInt f n).negative := sameSign
    simp [units, same, signs]
  · -- On the other side of zero nothing is nearer than zero itself.
    rw [if_neg sameSign]
    obtain ⟨closest, even⟩ := preferred (Nat.zero_le f.infinity)
    have origin : distance f (n.natAbs * f.one) 1 0 = n.natAbs * f.one := by
      rw [distance, unitsOf_zero]
      omega
    rw [origin] at closest even
    refine ⟨by omega, fun equal => ?_⟩
    have zeroY : unitsOf f y.magnitude = 0 := by omega
    refine (even (by omega)).imp_left fun zero => ?_
    simp [units, ← zero, zeroY, unitsOf_zero]

/-- The rational number that a finite number is, an infinity standing for the number that would come next. -/
def toRat (x : Binary f) : ℚ := x.units / f.one

/-- A number is the nearest to a rational one when no other is nearer and a tie has gone to the even magnitude. -/
structure IsNearest (x : Binary f) (exact : ℚ) : Prop where
  /-- It is a number. -/
  number : x.isNan = false
  /-- No other number is nearer. -/
  closest (y : Binary f) : y.isNan = false → |exact - x.toRat| ≤ |exact - y.toRat|
  /-- Another number that is as near has lost to an even one. -/
  even (y : Binary f) : y.isNan = false → |exact - x.toRat| = |exact - y.toRat| →
    y.toRat = x.toRat ∨ x.magnitude % 2 = 0

/-- Distances between rational numbers are distances counted in least positive numbers. -/
theorem abs_sub_toRat (n : Int) (x : Binary f) :
    |(n : ℚ) - x.toRat| = ((n * f.one - x.units).natAbs : ℚ) / f.one := by
  -- Both numbers are brought to the denominator that the format has.
  have positive : (0 : ℚ) < f.one := by exact_mod_cast f.one_pos
  have common : (n : ℚ) - x.toRat = ((n * f.one - x.units : Int) : ℚ) / f.one := by
    rw [toRat, eq_div_iff positive.ne', sub_mul, div_mul_cancel₀ _ positive.ne']
    push_cast
    rfl
  rw [common, abs_div, abs_of_pos positive, Nat.cast_natAbs, Int.cast_abs]

/-- An integer is rounded to a number that is nearest to it. -/
theorem ofInt_isNearest (f : Format) (n : Int) : (ofInt f n).IsNearest n := by
  -- Distances between rational numbers are compared after they are multiplied by the common denominator.
  have positive : (0 : ℚ) < f.one := by exact_mod_cast f.one_pos
  refine ⟨by simpa [isNan] using magnitude_ofInt_le f n, ?_, ?_⟩
  · intro y number
    rw [abs_sub_toRat, abs_sub_toRat, div_le_div_iff_of_pos_right positive]
    exact_mod_cast (ofInt_closest n number).1
  · -- If the other number is as near, it is the same one or the rounding has chosen the even one.
    intro y number equal
    rw [abs_sub_toRat, abs_sub_toRat, div_left_inj' positive.ne'] at equal
    refine ((ofInt_closest n number).2 (by exact_mod_cast equal)).imp_left fun same => ?_
    rw [toRat, toRat, same]

/-- An integer of 128 bits is far from the infinities. -/
theorem isFinite_ofInt {n : Int} (bounded : n.natAbs ≤ Nat.pow 2 128) : (ofInt .double n).isFinite = true := by
  -- Rounding keeps the order, and the power of two at the bound is rounded to a finite number.
  have power : nearestMagnitude .double (Nat.pow 2 128 * Format.double.one) 1 < Format.double.infinity := by
    decide +kernel
  have rounded := nearestMagnitude_mono (f := .double) Nat.one_pos
    (Nat.mul_le_mul_right Format.double.one bounded)
  refine decide_eq_true ?_
  exact Nat.lt_of_le_of_lt (Nat.min_le_left ..) (Nat.lt_of_le_of_lt rounded power)

end Binary

end DynValue
