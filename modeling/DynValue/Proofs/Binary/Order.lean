import DynValue.Binary.Order
import DynValue.Binary.Rounding

/-! The numeric order, the total order of bits and rounding to the nearest number agree with each other. -/

namespace DynValue

/-- Rounding goes down by less than one and up by at most one. -/
theorem roundHalfEven_bounds (numerator denominator : Nat) :
    numerator / denominator ≤ roundHalfEven numerator denominator ∧
      roundHalfEven numerator denominator ≤ numerator / denominator + 1 := by
  -- The result is the quotient or the one after it.
  unfold roundHalfEven
  dsimp only
  split <;> omega

/-- A ratio that reaches an integer is not rounded below it. -/
theorem le_roundHalfEven {numerator denominator lower : Nat} (positive : 0 < denominator)
    (reached : lower * denominator ≤ numerator) : lower ≤ roundHalfEven numerator denominator := by
  -- The whole part reaches the integer already.
  have whole := (Nat.le_div_iff_mul_le positive).mpr reached
  have := (roundHalfEven_bounds numerator denominator).1
  omega

/-- A ratio that does not exceed an integer is not rounded above it. -/
theorem roundHalfEven_le {numerator denominator upper : Nat} (positive : 0 < denominator)
    (bounded : numerator ≤ upper * denominator) : roundHalfEven numerator denominator ≤ upper := by
  have whole : numerator / denominator ≤ upper := Nat.div_le_of_le_mul (by rwa [Nat.mul_comm])
  -- Only a ratio whose whole part is the bound itself could be rounded past it.
  by_cases below : numerator / denominator < upper
  · have := (roundHalfEven_bounds numerator denominator).2
    omega
  · have reached : numerator / denominator = upper := by omega
    have split := Nat.div_add_mod numerator denominator
    have rest : numerator % denominator = 0 := by
      rw [reached, Nat.mul_comm] at split
      omega
    have exact_ : compare (2 * (numerator % denominator)) denominator = .lt := by
      rw [rest, Nat.compare_eq_lt]
      omega
    simp [roundHalfEven, exact_, reached]

/-- A larger ratio over the same denominator is rounded to the same integer or a larger one. -/
theorem roundHalfEven_mono (denominator : Nat) {a b : Nat} (le : a ≤ b) :
    roundHalfEven a denominator ≤ roundHalfEven b denominator := by
  have wholes : a / denominator ≤ b / denominator := Nat.div_le_div_right le
  by_cases below : a / denominator < b / denominator
  · -- Rounding up reaches the next whole part at most.
    have := (roundHalfEven_bounds a denominator).2
    have := (roundHalfEven_bounds b denominator).1
    omega
  · -- With equal whole parts, the larger remainder decides for the larger integer.
    have same : a / denominator = b / denominator := by omega
    have splitA := Nat.div_add_mod a denominator
    have splitB := Nat.div_add_mod b denominator
    rw [same] at splitA
    have rests : a % denominator ≤ b % denominator := by omega
    simp only [roundHalfEven, same]
    split <;> rename_i first <;> split <;> rename_i second <;>
      simp only [Nat.compare_eq_lt, Nat.compare_eq_gt, Nat.compare_eq_eq] at first second <;> omega

/-- There are finite magnitudes. -/
theorem Format.infinity_pos (f : Format) : 0 < f.infinity := by
  -- There are several exponents, and that of the infinity is the last of them.
  have large := f.exponentBits_large
  have exponents : 1 < Nat.pow 2 f.exponentBits := Nat.one_lt_two_pow (by omega)
  exact Nat.mul_pos (by omega) f.fractions_pos

namespace Binary

variable {f : Format}

/-- The next magnitude is larger by the spacing, which doubles with every exponent past the first two. -/
theorem unitsOf_succ (f : Format) (magnitude : Nat) :
    unitsOf f (magnitude + 1) = unitsOf f magnitude + Nat.pow 2 (magnitude / f.fractions - 1) := by
  have positive := f.fractions_pos
  have parts := Nat.div_add_mod magnitude f.fractions
  have bound := Nat.mod_lt magnitude positive
  simp only [unitsOf]
  generalize magnitude / f.fractions = exponent at *
  generalize magnitude % f.fractions = fraction at *
  subst parts
  by_cases last : fraction + 1 = f.fractions
  · -- Past the last fraction, the next exponent starts over with twice the size.
    have next : f.fractions * exponent + fraction + 1 = f.fractions * (exponent + 1) := by
      rw [Nat.mul_add]
      omega
    have full : f.fractions + fraction + 1 = 2 * f.fractions := by omega
    rw [next, Nat.mul_div_cancel_left _ positive, Nat.mul_mod_right]
    cases exponent with
    | zero => simp [last]
    | succ exponent =>
      simp only [Nat.add_sub_cancel, Nat.succ_ne_zero, if_false, Nat.add_zero, Nat.pow_eq, Nat.pow_succ]
      rw [← Nat.succ_mul, Nat.succ_eq_add_one, full]
      ac_rfl
  · -- Otherwise the exponent stays, and the fraction grows by one.
    have next : f.fractions * exponent + fraction + 1 = (fraction + 1) + f.fractions * exponent := by omega
    rw [next, Nat.add_mul_div_left _ _ positive, Nat.add_mul_mod_self_left,
      Nat.div_eq_of_lt (by omega), Nat.mod_eq_of_lt (by omega), Nat.zero_add]
    cases exponent with
    | zero => simp
    | succ exponent =>
      simp only [Nat.succ_ne_zero, if_false]
      rw [← Nat.add_assoc, Nat.add_mul _ 1, Nat.one_mul]

/-- A larger magnitude is a larger number. -/
theorem unitsOf_lt {m n : Nat} (less : m < n) : unitsOf f m < unitsOf f n := by
  -- From a magnitude to the next one the size grows by the spacing there, which is not zero.
  induction less with
  | refl =>
    rw [unitsOf_succ]
    exact Nat.lt_add_of_pos_right (Nat.two_pow_pos _)
  | step _ ih =>
    rw [unitsOf_succ]
    exact Nat.lt_add_right _ ih

/-- A positive ratio has at least the digits that set the spacing of the numbers around it. -/
theorem spacing_le_ratio {numerator denominator : Nat} (positive : 0 < denominator)
    (spaced : 0 < (numerator / denominator).log2 - f.fractionBits) :
    f.fractions * (denominator * Nat.pow 2 ((numerator / denominator).log2 - f.fractionBits)) ≤
      numerator := by
  -- The leading digit of the whole part stands for the fractions times the spacing.
  generalize digits : (numerator / denominator).log2 = top at *
  have nonzero : numerator / denominator ≠ 0 := by
    intro zero
    simp [zero] at digits
    omega
  have leading : Nat.pow 2 top ≤ numerator / denominator := (Nat.le_log2 nonzero).mp (by omega)
  -- The spacing has the digits by which the whole part is longer than a fraction.
  have powers : f.fractions * Nat.pow 2 (top - f.fractionBits) = Nat.pow 2 top := by
    rw [Format.fractions]
    exact (Nat.pow_add 2 f.fractionBits (top - f.fractionBits)).symm.trans (by congr 1; omega)
  calc
    f.fractions * (denominator * Nat.pow 2 (top - f.fractionBits))
    _ = Nat.pow 2 top * denominator := by rw [← powers]; ac_rfl
    _ ≤ numerator := (Nat.le_div_iff_mul_le positive).mp leading

/-- A ratio lies below twice the fractions times the spacing of the numbers around it. -/
theorem ratio_le_spacing {numerator denominator : Nat} (positive : 0 < denominator) :
    numerator ≤ 2 * f.fractions *
      (denominator * Nat.pow 2 ((numerator / denominator).log2 - f.fractionBits)) := by
  -- One more digit than the whole part has exceeds it.
  generalize digits : (numerator / denominator).log2 = top at *
  have leading : numerator / denominator < Nat.pow 2 (top + 1) := by
    rw [← digits]
    exact Nat.lt_log2_self
  -- If the whole part has more digits than a fraction, the spacing makes up for them.
  have wider : Nat.pow 2 (top + 1) ≤ Nat.pow 2 (f.fractionBits + 1 + (top - f.fractionBits)) :=
    Nat.pow_le_pow_right (by decide) (by omega)
  have powers : Nat.pow 2 (f.fractionBits + 1 + (top - f.fractionBits)) =
      2 * f.fractions * Nat.pow 2 (top - f.fractionBits) := by
    rw [Format.fractions, Nat.mul_comm 2]
    exact Nat.pow_add 2 (f.fractionBits + 1) (top - f.fractionBits)
  have scaled : numerator < Nat.pow 2 (top + 1) * denominator :=
    (Nat.div_lt_iff_lt_mul positive).mp leading
  calc
    numerator
    _ ≤ Nat.pow 2 (top + 1) * denominator := by omega
    _ ≤ 2 * f.fractions * Nat.pow 2 (top - f.fractionBits) * denominator := by
      rw [← powers]
      exact Nat.mul_le_mul_right _ wider
    _ = 2 * f.fractions * (denominator * Nat.pow 2 (top - f.fractionBits)) := by ac_rfl

/-- A larger ratio has the same nearest magnitude or a larger one. -/
theorem nearestMagnitude_mono {denominator : Nat} (positive : 0 < denominator) {a b : Nat} (le : a ≤ b) :
    nearestMagnitude f a denominator ≤ nearestMagnitude f b denominator := by
  have wholes : a / denominator ≤ b / denominator := Nat.div_le_div_right le
  -- The spacing of the numbers around a larger ratio is not narrower.
  have shifts : (a / denominator).log2 ≤ (b / denominator).log2 := by
    by_cases zero : a / denominator = 0
    · simp [zero]
    · have nonzero : b / denominator ≠ 0 :=
        Nat.ne_of_gt (Nat.lt_of_lt_of_le (Nat.pos_of_ne_zero zero) wholes)
      rw [Nat.le_log2 nonzero]
      exact Nat.le_trans (Nat.log2_self_le zero) wholes
  by_cases same : (a / denominator).log2 - f.fractionBits = (b / denominator).log2 - f.fractionBits
  · -- Under one spacing the magnitudes differ as the rounded multiples do.
    simp only [nearestMagnitude, same]
    exact Nat.add_le_add_left (roundHalfEven_mono _ le) _
  · -- Under a wider spacing the larger ratio starts where the smaller one ends.
    have wider : (a / denominator).log2 - f.fractionBits < (b / denominator).log2 - f.fractionBits := by
      omega
    have upper : roundHalfEven a
        (denominator * Nat.pow 2 ((a / denominator).log2 - f.fractionBits)) ≤ 2 * f.fractions :=
      roundHalfEven_le (Nat.mul_pos positive (Nat.two_pow_pos _)) (ratio_le_spacing positive)
    have lower : f.fractions ≤ roundHalfEven b
        (denominator * Nat.pow 2 ((b / denominator).log2 - f.fractionBits)) :=
      le_roundHalfEven (Nat.mul_pos positive (Nat.two_pow_pos _))
        (spacing_le_ratio positive (by omega))
    simp only [nearestMagnitude]
    -- Each step of the spacing is worth one more run of the fractions.
    generalize (a / denominator).log2 - f.fractionBits = narrow at *
    generalize (b / denominator).log2 - f.fractionBits = wide at *
    have step : (narrow + 1) * f.fractions ≤ wide * f.fractions :=
      Nat.mul_le_mul_right _ (by omega)
    rw [Nat.add_mul] at step
    omega

/-- A ratio of one or more is not rounded to zero. -/
theorem nearestMagnitude_pos {numerator denominator : Nat} (positive : 0 < denominator)
    (large : denominator ≤ numerator) : 0 < nearestMagnitude f numerator denominator := by
  unfold nearestMagnitude
  dsimp only
  generalize (numerator / denominator).log2 - f.fractionBits = shift
  -- Either the spacing is one unit, or the run of fractions in front of it is not empty.
  cases shift with
  | zero =>
    have rounded : 1 ≤ roundHalfEven numerator denominator := le_roundHalfEven positive (by omega)
    simp only [Nat.pow_eq, Nat.pow_zero, Nat.mul_one]
    omega
  | succ shift => exact Nat.add_pos_left (Nat.mul_pos (Nat.succ_pos shift) f.fractions_pos) _

/-- Zero is the only integer that is rounded to zero. -/
theorem isZero_ofInt (f : Format) (n : Int) : (ofInt f n).isZero = decide (n = 0) := by
  -- Rounding cannot pass a number of the format, and any other integer is at least as large as the number one.
  simp only [isZero, ofInt, ofRatio, ofUnits, ofMagnitude]
  have finite := f.infinity_pos
  by_cases zero : n = 0
  · subst zero
    have rounded : roundHalfEven 0 1 ≤ 0 := roundHalfEven_le Nat.one_pos (by omega)
    simp [nearestMagnitude]
    omega
  · have large : 1 ≤ n.natAbs * f.one := Nat.mul_pos (by omega) f.one_pos
    have := nearestMagnitude_pos (f := f) Nat.one_pos large
    simp [zero]
    omega

/-- Rounding an integer gives no NaN. -/
theorem magnitude_ofInt_le (f : Format) (n : Int) : (ofInt f n).magnitude ≤ f.infinity :=
  Nat.min_le_right ..

/-- A larger integer is rounded to the same place on the line or a larger one. -/
theorem place_ofInt_mono (f : Format) {a b : Int} (le : a ≤ b) :
    (ofInt f a).place ≤ (ofInt f b).place := by
  -- On either side of zero the magnitudes follow the absolute values.
  have magnitudes {m n : Nat} (le : m ≤ n) :
      min (nearestMagnitude f (m * f.one) 1) f.infinity ≤
        min (nearestMagnitude f (n * f.one) 1) f.infinity := by
    have := nearestMagnitude_mono (f := f) Nat.one_pos (Nat.mul_le_mul_right f.one le)
    omega
  simp only [place, ofInt, ofRatio, ofUnits, ofMagnitude, decide_eq_true_eq]
  -- Across zero the places are ordered by their signs.
  by_cases signA : a < 0
  · by_cases signB : b < 0
    · have := magnitudes (show b.natAbs ≤ a.natAbs by omega)
      simp only [if_pos signA, if_pos signB]
      omega
    · simp only [if_pos signA, if_neg signB]
      omega
  · have := magnitudes (show a.natAbs ≤ b.natAbs by omega)
    simp only [if_neg signA, if_neg (show ¬b < 0 by omega)]
    omega

/-- A number is determined by its rank among all bit patterns. -/
theorem rank_inj {x y : Binary f} (same : x.rank = y.rank) : x = y := by
  -- Negative signs have ranks below zero, and under one sign the rank gives the magnitude.
  obtain ⟨signX, magnitudeX, boundX⟩ := x
  obtain ⟨signY, magnitudeY, boundY⟩ := y
  cases signX <;> cases signY <;> simp only [rank, Bool.false_eq_true, if_true, if_false] at same
  · have : magnitudeX = magnitudeY := by omega
    subst this
    rfl
  · omega
  · omega
  · have : magnitudeX = magnitudeY := by omega
    subst this
    rfl

/-- The total order of bits never reverses places on the line. -/
theorem place_mono {x y : Binary f} (le : x.rank ≤ y.rank) : x.place ≤ y.place := by
  -- The ranks differ from the places in that the negative ones are moved down by one.
  simp only [rank] at le
  simp only [place]
  cases signX : x.negative <;> cases signY : y.negative <;>
    simp only [signX, signY, Bool.false_eq_true, if_true, if_false] at le ⊢ <;> omega

/-- A NaN has its place beyond the infinities, so that the completed numeric order is the order of places. -/
theorem compareNumbers_eq_compare_place {x y : Binary f} (number : x.isNan = false ∨ y.isNan = false) :
    x.compareNumbers y = Ord.compare x.place y.place := by
  by_cases numbers : (x.isNan || y.isNan) = true
  · -- Next to a number, a NaN stands on the side of its sign in both orders.
    have apart : x.rank < y.rank ∧ x.place < y.place ∨ y.rank < x.rank ∧ y.place < x.place := by
      simp only [isNan, Bool.or_eq_true, decide_eq_true_eq, decide_eq_false_iff_not] at numbers number
      simp only [rank, place]
      cases x.negative <;> cases y.negative <;>
        simp only [Bool.false_eq_true, if_true, if_false] <;> omega
    simp only [compareNumbers, compare?, numbers, if_true, Option.getD_none, totalCompare]
    obtain ⟨ranks, places⟩ | ⟨ranks, places⟩ := apart
    · rw [Int.compare_eq_lt.mpr ranks, Int.compare_eq_lt.mpr places]
    · rw [Int.compare_eq_gt.mpr ranks, Int.compare_eq_gt.mpr places]
  · simp [compareNumbers, compare?, numbers]

end Binary

end DynValue
