import DynValue.Proofs.Binary.Nearest
import DynValue.Proofs.Decimal.Layout

/-!
The basin of a magnitude is what reads as the magnitude.

A ratio lies in the basin of the magnitude that it is rounded to, and basins have no number in common. Hence a decimal is
read as a finite magnitude exactly when it lies in its basin, and the text of a number reads back as the number.
-/

namespace DynValue

namespace Binary

variable {f : Format} {x : Binary f}

/-- A finite number is a number. -/
theorem isNan_of_isFinite (finite : x.isFinite = true) : x.isNan = false := by
  -- The finite magnitudes end before the infinity, and the NaNs begin behind it.
  simp only [isFinite, isNan, decide_eq_true_eq, decide_eq_false_iff_not] at finite ⊢
  omega

/-- A finite number is no infinity. -/
theorem isInfinite_of_isFinite (finite : x.isFinite = true) : x.isInfinite = false := by
  -- The magnitude lies below that of the infinity.
  simp only [isFinite, isInfinite, decide_eq_true_eq, decide_eq_false_iff_not] at finite ⊢
  omega

/-- Only zero has the magnitude zero. -/
theorem magnitude_pos (nonzero : x.isZero = false) : 0 < x.magnitude := by
  -- The two zeros differ in their sign alone.
  simp only [isZero, decide_eq_false_iff_not] at nonzero
  omega

end Binary

/-- The size of a finite number is written as its shortest decimal. -/
theorem Layout.sizeText_of_finite (layout : Layout) {f : Format} {x : Binary f} (finite : x.isFinite = true) :
    layout.sizeText x = layout.decimalText (Decimal.shortest layout.tie f x.magnitude) := by
  -- Only the infinities are written as a name.
  rw [sizeText, if_neg (by simp [Binary.isInfinite_of_isFinite finite])]

namespace Decimal

variable {f : Format}

/-- A ratio for which a magnitude is preferred to its neighbours lies in the basin of the magnitude. -/
theorem contains_of_preferred {numerator denominator here : Nat} (positive : 0 < denominator)
    (before : Binary.Preferred f numerator denominator here (here - 1))
    (after : Binary.Preferred f numerator denominator here (here + 1)) :
    (Basin.of f here).Contains (2 * numerator / denominator) := by
  obtain ⟨nearBefore, evenBefore⟩ := before
  obtain ⟨nearAfter, evenAfter⟩ := after
  simp only [Binary.distance, ← Nat.cast_mul] at nearBefore evenBefore nearAfter evenAfter
  -- On either side, being nearer to the magnitude than to a neighbour is not being past the midpoint between them.
  have lower : denominator * (Basin.of f here).lower ≤ 2 * numerator ∧
      (denominator * (Basin.of f here).lower = 2 * numerator → here % 2 = 0) := by
    simp only [Basin.of, Nat.mul_add]
    by_cases zero : here = 0
    · subst zero
      simp [Binary.unitsOf_zero]
    · have less : denominator * Binary.unitsOf f (here - 1) < denominator * Binary.unitsOf f here :=
        Nat.mul_lt_mul_of_pos_left (Binary.unitsOf_lt (by omega)) positive
      omega
  have upper : 2 * numerator ≤ denominator * (Basin.of f here).upper ∧
      (2 * numerator = denominator * (Basin.of f here).upper → here % 2 = 0) := by
    simp only [Basin.of, Nat.mul_add]
    have less : denominator * Binary.unitsOf f here < denominator * Binary.unitsOf f (here + 1) :=
      Nat.mul_lt_mul_of_pos_left (Binary.unitsOf_lt (by omega)) positive
    omega
  have below : (0 : ℚ) < denominator := by exact_mod_cast positive
  unfold Basin.Contains
  split
  · rw [le_div_iff₀' below, div_le_iff₀' below]
    exact ⟨by exact_mod_cast lower.1, by exact_mod_cast upper.1⟩
  · -- An odd magnitude is preferred strictly, so that the midpoints are left out.
    rename_i odd
    simp only [Basin.of, decide_eq_true_eq] at odd
    have lower : denominator * (Basin.of f here).lower < 2 * numerator := by
      exact Nat.lt_of_le_of_ne lower.1 fun same => odd (lower.2 same)
    have upper : 2 * numerator < denominator * (Basin.of f here).upper := by
      exact Nat.lt_of_le_of_ne upper.1 fun same => odd (upper.2 same)
    rw [lt_div_iff₀' below, div_lt_iff₀' below]
    exact ⟨by exact_mod_cast lower, by exact_mod_cast upper⟩

/-- A ratio is rounded to a magnitude exactly when it lies in the basin of the magnitude. -/
theorem nearestMagnitude_eq_iff {numerator denominator magnitude : Nat} (positive : 0 < denominator) :
    Binary.nearestMagnitude f numerator denominator = magnitude ↔
      (Basin.of f magnitude).Contains (2 * numerator / denominator) := by
  have nearest := contains_of_preferred positive
    (Binary.preferred_nearestMagnitude f numerator positive _)
    (Binary.preferred_nearestMagnitude f numerator positive _)
  constructor
  · rintro rfl
    exact nearest
  · -- The ratio lies in one basin only.
    intro inside
    rcases Nat.lt_trichotomy (Binary.nearestMagnitude f numerator denominator) magnitude with less | same | greater
    · exact absurd (Basin.lt_of_contains less nearest inside) (lt_irrefl _)
    · exact same
    · exact absurd (Basin.lt_of_contains greater inside nearest) (lt_irrefl _)

/-- The finite numbers end below two to the power that bounds the exponents that are read. -/
theorem unitsOf_infinity_le (f : Format) :
    Binary.unitsOf f f.infinity ≤ f.one * Nat.pow 2 (f.scale + f.fractionBits) := by
  have large := f.exponentBits_large
  have some := f.fractionBits_pos
  obtain ⟨bits, bitsEq⟩ : ∃ bits, f.exponentBits = bits + 2 := ⟨f.exponentBits - 2, by omega⟩
  have power : 0 < Nat.pow 2 bits := Nat.two_pow_pos _
  have whole : Nat.pow 2 f.exponentBits = 4 * Nat.pow 2 bits := by
    rw [bitsEq]
    simp only [Nat.pow_eq, Nat.pow_succ]
    omega
  have half : Nat.pow 2 (f.exponentBits - 1) = 2 * Nat.pow 2 bits := by
    rw [bitsEq]
    simp only [Nat.pow_eq, Nat.pow_succ, Nat.add_succ_sub_one]
    omega
  -- The infinity is the power of two that would come after the largest number.
  have units : Binary.unitsOf f f.infinity = Nat.pow 2 (f.fractionBits + (Nat.pow 2 f.exponentBits - 1 - 1)) := by
    have nonzero : Nat.pow 2 f.exponentBits - 1 ≠ 0 := by omega
    simp only [Binary.unitsOf, Format.infinity, Nat.mul_div_cancel _ f.fractions_pos, Nat.mul_mod_left, if_neg nonzero,
      Nat.add_zero]
    exact (Nat.pow_add ..).symm
  have scaled : f.one * Nat.pow 2 (f.scale + f.fractionBits) = Nat.pow 2 (f.scale + (f.scale + f.fractionBits)) :=
    (Nat.pow_add ..).symm
  -- Both are powers of two, and the exponents differ by two less than twice the fraction bits.
  rw [units, scaled]
  apply Nat.pow_le_pow_right (by decide)
  rw [Format.scale, whole, half]
  omega

variable {magnitude : Nat} {decimal : Decimal}

/-- A decimal without its sign is not negative. -/
theorem value_nonneg (decimal : Decimal) : 0 ≤ decimal.value :=
  mul_nonneg (Nat.cast_nonneg _) (zpow_nonneg (by norm_num) _)

/-- A decimal that reads as a finite number other than zero is neither too large nor too small to be read. -/
theorem value_bounds (positive : 0 < magnitude) (finite : magnitude < f.infinity)
    (inside : (Basin.of f magnitude).Contains (decimal.halves f)) :
    10 ^ (-(f.scale + 1) : Int) ≤ decimal.value ∧ decimal.value ≤ 10 ^ ((f.scale + f.fractionBits : Nat) : Int) := by
  obtain ⟨lower, upper⟩ := inside.bounds
  have one : (0 : ℚ) < f.one := by exact_mod_cast f.one_pos
  have scale : (f.one : ℚ) = 2 ^ f.scale := by simp [Format.one]
  constructor
  · -- The basin starts at half the least positive number at least.
    have start : (1 : ℚ) ≤ (Basin.of f magnitude).lower := by exact_mod_cast Basin.lower_pos f positive
    have half : 1 ≤ decimal.value * (2 * f.one) := start.trans lower
    have powers : (2 * f.one : ℚ) ≤ 10 ^ (f.scale + 1) := by
      rw [scale, ← pow_succ']
      gcongr
      norm_num
    have nonneg := decimal.value_nonneg
    have exponent : (-(f.scale + 1) : Int) = -((f.scale + 1 : Nat) : Int) := by push_cast; ring
    rw [exponent, zpow_neg, zpow_natCast, inv_le_iff_one_le_mul₀ (by positivity)]
    exact half.trans (by gcongr)
  · -- The basin ends below the infinity.
    have last : Binary.unitsOf f magnitude < Binary.unitsOf f f.infinity := Binary.unitsOf_lt finite
    have next : Binary.unitsOf f (magnitude + 1) ≤ Binary.unitsOf f f.infinity := Binary.unitsOf_mono finite
    have top := unitsOf_infinity_le f
    have ends : (Basin.of f magnitude).upper ≤ 2 * (f.one * Nat.pow 2 (f.scale + f.fractionBits)) := by
      simp only [Basin.of]
      omega
    have ends : ((Basin.of f magnitude).upper : ℚ) ≤ 2 ^ (f.scale + f.fractionBits) * (2 * f.one) := by
      have cast : ((Basin.of f magnitude).upper : ℚ) ≤ 2 * (f.one * 2 ^ (f.scale + f.fractionBits)) := by
        exact_mod_cast ends
      linarith
    have powers : (2 : ℚ) ^ (f.scale + f.fractionBits) ≤ 10 ^ (f.scale + f.fractionBits) := by
      gcongr
      norm_num
    have size : decimal.value ≤ 2 ^ (f.scale + f.fractionBits) := by
      refine le_of_mul_le_mul_right ?_ (show (0 : ℚ) < 2 * f.one by positivity)
      exact upper.trans ends
    rw [zpow_natCast]
    exact size.trans powers

/-- A natural number is below the power of ten that a third of its bits count. -/
theorem lt_ten_pow_log2 (n : Nat) : n < 10 ^ (n.log2 / 3 + 1) := by
  -- Three bits are worth less than one digit.
  calc
    n
    _ < 2 ^ (n.log2 + 1) := Nat.lt_log2_self
    _ ≤ 2 ^ (3 * (n.log2 / 3 + 1)) := Nat.pow_le_pow_right (by decide) (by omega)
    _ = 8 ^ (n.log2 / 3 + 1) := Nat.pow_mul ..
    _ ≤ 10 ^ (n.log2 / 3 + 1) := Nat.pow_le_pow_left (by decide) _

/-- The number of a ratio has a finite magnitude exactly when the ratio lies in the basin of the magnitude. -/
theorem magnitude_ofRatio_iff {negative : Bool} {numerator denominator : Nat} (positive : 0 < denominator)
    (finite : magnitude < f.infinity) :
    (Binary.ofRatio f negative numerator denominator).magnitude = magnitude ↔
      (Basin.of f magnitude).Contains (numerator / denominator * (2 * f.one)) := by
  -- The basin is counted in halves of the least positive number, and a ratio in whole ones.
  have nearest : Binary.nearestMagnitude f (numerator * f.one) denominator = magnitude ↔ _ :=
    nearestMagnitude_eq_iff positive
  have counted : (2 * (numerator * f.one : Nat) / denominator : ℚ) = numerator / denominator * (2 * f.one) := by
    push_cast
    ring
  rw [← counted, ← nearest]
  -- A finite magnitude lies below the cap that an overflow is set to.
  simp only [Binary.ofRatio, Binary.ofUnits, Binary.ofMagnitude]
  omega

/-- A decimal is read as a ratio, unless it is too small or too large for any number but a zero or an infinity. -/
theorem ofDecimal_cases (f : Format) (negative : Bool) (decimal : Decimal) :
    (∃ numerator denominator : Nat, 0 < denominator ∧ (numerator / denominator : ℚ) = decimal.value ∧
      Binary.ofDecimal f negative decimal.coefficient decimal.exponent =
        Binary.ofRatio f negative numerator denominator) ∨
    (decimal.value < 10 ^ (-(f.scale + 1) : Int) ∧
      Binary.ofDecimal f negative decimal.coefficient decimal.exponent = Binary.zero negative) ∨
    (10 ^ ((f.scale + f.fractionBits : Nat) : Int) < decimal.value ∧
      Binary.ofDecimal f negative decimal.coefficient decimal.exponent = Binary.infinite negative) := by
  obtain ⟨coefficient, exponent⟩ := decimal
  have some := f.fractionBits_pos
  have ten : (1 : ℚ) < 10 := by norm_num
  simp only [Binary.ofDecimal, value]
  by_cases none : coefficient = 0
  · refine .inr (.inl ⟨?_, if_pos none⟩)
    subst none
    simp only [Nat.cast_zero, zero_mul]
    exact zpow_pos (by norm_num) _
  rw [if_neg none]
  by_cases large : (f.scale + f.fractionBits : Int) < exponent
  · -- The coefficient is at least one, so that the exponent alone makes the decimal too large.
    refine .inr (.inr ⟨?_, if_pos large⟩)
    have least : (1 : ℚ) ≤ coefficient := by exact_mod_cast Nat.pos_of_ne_zero none
    calc
      (10 : ℚ) ^ ((f.scale + f.fractionBits : Nat) : Int)
      _ < 10 ^ exponent := zpow_lt_zpow_right₀ ten (by push_cast; omega)
      _ ≤ coefficient * 10 ^ exponent := le_mul_of_one_le_left (zpow_nonneg (by norm_num) _) least
  rw [if_neg large]
  by_cases small : (coefficient.log2 / 3 : Int) + exponent < -(f.scale + f.fractionBits : Int)
  · -- However many digits the coefficient has, the exponent outweighs them.
    refine .inr (.inl ⟨?_, if_pos small⟩)
    have digits : (coefficient : ℚ) < 10 ^ (coefficient.log2 / 3 + 1) := by exact_mod_cast lt_ten_pow_log2 coefficient
    have power : (0 : ℚ) < 10 ^ exponent := zpow_pos (by norm_num) _
    calc
      (coefficient : ℚ) * 10 ^ exponent
      _ < 10 ^ (coefficient.log2 / 3 + 1) * 10 ^ exponent := by gcongr
      _ = 10 ^ (((coefficient.log2 / 3 + 1 : Nat) : Int) + exponent) := by
        rw [zpow_add₀ (by norm_num), zpow_natCast]
      _ ≤ 10 ^ (-(f.scale + 1) : Int) := zpow_le_zpow_right₀ ten.le (by push_cast; omega)
  rw [if_neg small]
  left
  by_cases whole : 0 ≤ exponent
  · refine ⟨_, 1, Nat.one_pos, ?_, if_pos whole⟩
    obtain ⟨power, rfl⟩ := Int.eq_ofNat_of_zero_le whole
    simp
  · refine ⟨_, _, Nat.pow_pos (by decide), ?_, if_neg whole⟩
    obtain ⟨power, rfl⟩ : ∃ power : Nat, exponent = -power := ⟨(-exponent).toNat, by omega⟩
    simp [div_eq_mul_inv]

/-- A decimal is read as a finite number other than zero exactly when it lies in the basin of the number. -/
theorem magnitude_ofDecimal_iff (negative : Bool) (decimal : Decimal) (positive : 0 < magnitude)
    (finite : magnitude < f.infinity) :
    (Binary.ofDecimal f negative decimal.coefficient decimal.exponent).magnitude = magnitude ↔
      (Basin.of f magnitude).Contains (decimal.halves f) := by
  rcases ofDecimal_cases f negative decimal with
    ⟨numerator, denominator, below, ratio, read⟩ | ⟨far, read⟩ | ⟨far, read⟩
  · rw [read, magnitude_ofRatio_iff below finite, ratio, halves]
  -- Neither a zero nor an infinity is the number, and what is read as one of them lies outside the basin.
  · refine iff_of_false ?_ fun inside => not_le.mpr far (value_bounds positive finite inside).1
    rw [read]
    simp only [Binary.zero, Binary.ofMagnitude]
    omega
  · refine iff_of_false ?_ fun inside => not_le.mpr far (value_bounds positive finite inside).2
    rw [read]
    simp only [Binary.infinite, Binary.ofMagnitude]
    omega

/-- Reading keeps the sign. -/
theorem negative_ofDecimal (f : Format) (negative : Bool) (coefficient : Nat) (exponent : Int) :
    (Binary.ofDecimal f negative coefficient exponent).negative = negative := by
  -- The coefficient and the exponent decide about the magnitude only.
  simp only [Binary.ofDecimal]
  repeat' split
  all_goals rfl

/-- A number that is read from a decimal is determined by its sign and the basin of the decimal. -/
theorem ofDecimal_eq_iff {x : Binary f} (finite : x.isFinite = true) (nonzero : x.isZero = false)
    (negative : Bool) (decimal : Decimal) :
    Binary.ofDecimal f negative decimal.coefficient decimal.exponent = x ↔
      negative = x.negative ∧ (Basin.of f x.magnitude).Contains (decimal.halves f) := by
  have finite : x.magnitude < f.infinity := by simpa [Binary.isFinite] using finite
  have positive := Binary.magnitude_pos nonzero
  rw [← magnitude_ofDecimal_iff negative decimal positive finite]
  have sign := negative_ofDecimal f negative decimal.coefficient decimal.exponent
  generalize Binary.ofDecimal f negative decimal.coefficient decimal.exponent = y at *
  -- A number is its sign and its magnitude.
  subst sign
  obtain ⟨signX, magnitudeX, boundX⟩ := x
  obtain ⟨signY, magnitudeY, boundY⟩ := y
  simp

/-- An unsigned decimal starts with a digit or a point. -/
theorem exists_head_of_readUnsigned? {text : List Char} (reads : readUnsigned? text = some decimal) :
    ∃ c rest, text = c :: rest ∧ (c.isDigit = true ∨ c = '.') := by
  cases text with
  | nil => cases reads
  | cons c rest =>
    refine ⟨c, rest, rfl, ?_⟩
    by_contra other
    rw [not_or, Bool.not_eq_true] at other
    -- Without a digit or a point in front there are no digits at all.
    simp [readUnsigned?, splitDigits, other.1, other.2] at reads

/-- Digits and points have no other case. -/
theorem toLower_of_plain {c : Char} (plain : c.isDigit = true ∨ c = '.') : c.toLower = c := by
  -- The capital letters have codes above those of the digits.
  rcases plain with digit | rfl
  · have bounds := toNat_of_isDigit digit
    have code : c.toNat = c.val.toNat := rfl
    have upper : 'A'.val.toNat = 65 := rfl
    unfold Char.toLower
    rw [dif_neg]
    simp only [UInt32.le_iff_toNat_le, ge_iff_le]
    omega
  · rfl

/-- A minus is taken off an unsigned decimal, and nothing else is. -/
theorem splitSign_signed (negative : Bool) {size : List Char} (reads : readUnsigned? size = some decimal) :
    splitSign (if negative then '-' :: size else size) = (negative, size) := by
  obtain ⟨c, rest, rfl, head⟩ := exists_head_of_readUnsigned? reads
  cases negative with
  | true => rfl
  | false =>
    -- Neither a digit nor a point is a sign.
    unfold splitSign
    split <;> simp_all

/-- Behind its sign, an unsigned decimal reads as the number nearest to it. -/
theorem readBinary?_signed (f : Format) (negative : Bool) {size : List Char}
    (reads : readUnsigned? size = some decimal) :
    readBinary? f (if negative then '-' :: size else size) =
      some (Binary.ofDecimal f negative decimal.coefficient decimal.exponent) := by
  have sign := splitSign_signed negative reads
  obtain ⟨c, rest, rfl, head⟩ := exists_head_of_readUnsigned? reads
  -- The names of infinities and of a NaN start with letters.
  have unnamed (letter : Char) (letters : List Char) (other : ¬(letter.isDigit = true ∨ letter = '.')) :
      String.ofList ((c :: rest).map Char.toLower) ≠ String.ofList (letter :: letters) := by
    intro same
    rw [String.ofList_inj, List.map_cons, List.cons.injEq, toLower_of_plain head] at same
    exact other (same.1 ▸ head)
  have infinite : String.ofList ((c :: rest).map Char.toLower) ≠ "inf" := unnamed 'i' _ (by decide)
  have infinity : String.ofList ((c :: rest).map Char.toLower) ≠ "infinity" := unnamed 'i' _ (by decide)
  have nan : String.ofList ((c :: rest).map Char.toLower) ≠ "nan" := unnamed 'n' _ (by decide)
  -- The sign is taken off, no name is met, and the digits are read.
  rw [readBinary?, sign]
  dsimp only
  rw [if_neg (not_or.mpr ⟨infinite, infinity⟩), if_neg nan, reads, Option.map_some]

/-- In every layout, the text of a finite number other than zero reads back as the number. -/
theorem readBinary?_text (layout : Layout) {x : Binary f} (finite : x.isFinite = true) (nonzero : x.isZero = false) :
    readBinary? f (layout.text x) = some x := by
  obtain ⟨decimal, reads, number⟩ := Layout.reads_decimalText layout (shortest layout.tie f x.magnitude)
  -- What is read need not be the shortest decimal itself, but it is the same number.
  have inside : (Basin.of f x.magnitude).Contains (decimal.halves f) := by
    rw [halves, number]
    exact contains_shortest layout.tie f (Binary.magnitude_pos nonzero)
  rw [Layout.text_of_number layout (Binary.isNan_of_isFinite finite), Layout.sizeText_of_finite layout finite,
    readBinary?_signed f x.negative reads]
  exact congrArg some ((ofDecimal_eq_iff finite nonzero _ _).mpr ⟨rfl, inside⟩)

end Decimal

end DynValue
