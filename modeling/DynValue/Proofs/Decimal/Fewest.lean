import DynValue.Proofs.Decimal.Layout
import Mathlib.Tactic.NormNum.Pow

/-!
No decimal with fewer digits than the shortest one reads back as the number.

The grids of powers of ten are tried from the coarsest on. A decimal of some length that reads back lies on the grid of
that length, or else the power of ten between it and the number lies there, so that the search stops no later.
-/

namespace DynValue.Decimal

/-- A positive number lies between the powers of ten that its digits count. -/
theorem digitCount_bounds {n : Nat} (positive : 0 < n) :
    10 ^ (digitCount n - 1) ≤ n ∧ n < 10 ^ digitCount n := by
  have some : 0 < digitCount n := Nat.length_toDigits_pos
  refine ⟨?_, (Nat.length_toDigits_le_iff (by decide) some).mp (Nat.le_refl _)⟩
  by_cases single : digitCount n = 1
  · rw [single]
    exact positive
  · -- With fewer digits the number would not be written in full.
    have longer := (Nat.length_toDigits_le_iff (n := n) (k := digitCount n - 1) (b := 10) (by decide) (by omega)).not
    have count : (Nat.toDigits 10 n).length = digitCount n := rfl
    omega

/-- The order of a ratio is the exponent of the greatest power of ten that is at most the ratio. -/
theorem order_bounds {numerator denominator : Nat} (some : 0 < numerator) (positive : 0 < denominator) :
    (10 : ℚ) ^ order numerator denominator ≤ numerator / denominator ∧
      (numerator / denominator : ℚ) < 10 ^ (order numerator denominator + 1) := by
  have below : (0 : ℚ) < denominator := by exact_mod_cast positive
  unfold order
  split
  · -- From one on, the digits of the whole part are counted.
    rename_i large
    have whole : 0 < numerator / denominator := Nat.div_pos large positive
    obtain ⟨lower, upper⟩ := digitCount_bounds whole
    have digits : 0 < digitCount (numerator / denominator) := Nat.length_toDigits_pos
    generalize digitCount (numerator / denominator) = count at *
    obtain ⟨count, rfl⟩ : ∃ less, count = less + 1 := ⟨count - 1, by omega⟩
    rw [Nat.add_sub_cancel, Nat.le_div_iff_mul_le positive] at lower
    rw [Nat.div_lt_iff_lt_mul positive] at upper
    have exponent : ((count + 1 : Nat) : Int) - 1 = (count : Nat) := by omega
    have next : ((count + 1 : Nat) : Int) - 1 + 1 = (count + 1 : Nat) := by omega
    rw [next, exponent, zpow_natCast, zpow_natCast, le_div_iff₀ below, div_lt_iff₀ below]
    exact ⟨by exact_mod_cast lower, by exact_mod_cast upper⟩
  · -- Below one, the digits of the inverse are counted, which is taken just below itself.
    rename_i small
    have above : (0 : ℚ) < numerator := by exact_mod_cast some
    have whole : 0 < (denominator - 1) / numerator := Nat.div_pos (by omega) some
    obtain ⟨lower, upper⟩ := digitCount_bounds whole
    have digits : 0 < digitCount ((denominator - 1) / numerator) := Nat.length_toDigits_pos
    generalize digitCount ((denominator - 1) / numerator) = count at *
    obtain ⟨count, rfl⟩ : ∃ less, count = less + 1 := ⟨count - 1, by omega⟩
    rw [Nat.add_sub_cancel, Nat.le_div_iff_mul_le some] at lower
    rw [Nat.div_lt_iff_lt_mul some] at upper
    have lower : 10 ^ count * numerator < denominator := by omega
    have upper : denominator ≤ 10 ^ (count + 1) * numerator := by omega
    have next : -((count + 1 : Nat) : Int) + 1 = -(count : Nat) := by omega
    have power (n : Nat) : (0 : ℚ) < 10 ^ n := by positivity
    rw [next, zpow_neg, zpow_neg, zpow_natCast, zpow_natCast, le_div_iff₀ below, div_lt_iff₀ below,
      inv_mul_le_iff₀ (power _), lt_inv_mul_iff₀ (power _)]
    exact ⟨by exact_mod_cast upper, by exact_mod_cast lower⟩

namespace Basin

/-- What lies between two numbers of a basin lies in it. -/
theorem Contains.between {basin : Basin} {x y z : ℚ} (first : basin.Contains x) (last : basin.Contains z)
    (above : x ≤ y) (below : y ≤ z) : basin.Contains y := by
  -- Whether the ends belong to a basin or not, the inequalities can be chained.
  unfold Contains at *
  split at first
  · rename_i closed
    rw [if_pos closed] at last ⊢
    exact ⟨first.1.trans above, below.trans last.2⟩
  · rename_i opened
    rw [if_neg opened] at last ⊢
    exact ⟨first.1.trans_le above, below.trans_lt last.2⟩

variable {tie : Tie} {basin : Basin} {numerator denominator : Nat}

/-- A grid that has a point in the basin has one next to the center. -/
theorem exists_nearest? (tie : Tie) (some : 0 < numerator) (positive : 0 < denominator)
    (center : basin.Contains basin.center) {count : Nat}
    (inside : basin.Contains (count * numerator / denominator)) :
    ∃ point, basin.nearest? tie numerator denominator = .some point := by
  have below : (0 : ℚ) < denominator := by exact_mod_cast positive
  -- The points around the center are the next ones on either side, so that they are no further out than the known one.
  have either : basin.holds numerator denominator (basin.center * denominator / numerator) = true ∨
      basin.holds numerator denominator (basin.center * denominator / numerator + 1) = true := by
    rw [holds_iff _ _ positive, holds_iff _ _ positive]
    have low := Nat.div_mul_le_self (basin.center * denominator) numerator
    have high := Nat.lt_div_mul_add some (a := basin.center * denominator)
    generalize basin.center * denominator / numerator = next at *
    rcases Nat.lt_or_ge next count with outside | outside
    · refine .inr (center.between inside ?_ ?_)
      · rw [le_div_iff₀ below]
        have reached : basin.center * denominator ≤ (next + 1) * numerator := by
          rw [Nat.succ_mul]
          omega
        exact_mod_cast reached
      · gcongr
        exact_mod_cast outside
    · refine .inl (inside.between center ?_ ?_)
      · gcongr
      · rw [div_le_iff₀ below]
        exact_mod_cast low
  -- With one of the two points in the basin, none of the cases is empty.
  unfold nearest?
  dsimp only
  split <;> rename_i holdsLow holdsHigh
  · simp [holdsLow, holdsHigh] at either
  · exact ⟨_, rfl⟩
  · exact ⟨_, rfl⟩
  · split
    · exact ⟨_, rfl⟩
    · exact ⟨_, rfl⟩
    · split <;> exact ⟨_, rfl⟩

/-- A step that fits between the lower end and the center does not miss the basin. -/
theorem exists_multiple (some : 0 < numerator) (positive : 0 < denominator)
    (fits : (numerator / denominator : ℚ) ≤ basin.center - basin.lower) (upper : basin.center < basin.upper) :
    ∃ count : Nat, basin.Contains (count * numerator / denominator) := by
  have below : (0 : ℚ) < denominator := by exact_mod_cast positive
  -- The last point up to the center is less than one step away from it.
  have low := Nat.div_mul_le_self (basin.center * denominator) numerator
  have high := Nat.lt_div_mul_add some (a := basin.center * denominator)
  generalize basin.center * denominator / numerator = count at *
  have low : (count : ℚ) * numerator / denominator ≤ basin.center := by
    rw [div_le_iff₀ below]
    exact_mod_cast low
  have high : (basin.center : ℚ) < count * numerator / denominator + numerator / denominator := by
    rw [← add_div, lt_div_iff₀ below]
    exact_mod_cast high
  have upper : (basin.center : ℚ) < basin.upper := by exact_mod_cast upper
  exact ⟨count, contains_of_strict (by linarith) (by linarith)⟩

/-- The point that is sought is one of the two around the center. -/
theorem le_of_nearest? {point : Nat} (found : basin.nearest? tie numerator denominator = some point) :
    point ≤ basin.center * denominator / numerator + 1 := by
  -- Whichever of the two is taken, the upper one is an upper bound.
  unfold nearest? at found
  dsimp only at found
  generalize basin.center * denominator / numerator = low at found
  split at found
  · cases found
  · cases found
    omega
  · cases found
    omega
  · split at found
    · cases found
      omega
    · cases found
      omega
    · split at found <;> cases found <;> omega

end Basin

variable {tie : Tie} {f : Format} {magnitude : Nat}

/-- The points of a grid are multiples of one step. -/
theorem halves_eq_mul (f : Format) (count : Nat) (exponent : Int) :
    halves f ⟨count, exponent⟩ = count * (10 ^ exponent * (2 * f.one)) := by
  -- The step is the power of ten, counted in halves of the least positive number.
  rw [halves, value, mul_assoc]

/-- Zeros behind the coefficient make up for a smaller exponent. -/
theorem halves_shift (f : Format) (coefficient power : Nat) (exponent : Int) :
    halves f ⟨coefficient * 10 ^ power, exponent - power⟩ = halves f ⟨coefficient, exponent⟩ := by
  -- The power of ten moves from the exponent to the coefficient.
  rw [halves_eq_mul, halves_eq_mul, ← Layout.ten_pow_mul power exponent]
  push_cast
  ring

/-- The points of a grid are the multiples of a ratio of halves. -/
theorem exists_step (tie : Tie) (f : Format) (magnitude : Nat) (exponent : Int) :
    ∃ numerator denominator : Nat, 0 < numerator ∧ 0 < denominator ∧
      (numerator / denominator : ℚ) = 10 ^ exponent * (2 * f.one) ∧
      onGrid? tie f magnitude exponent =
        ((Basin.of f magnitude).nearest? tie numerator denominator).map (⟨·, exponent⟩) := by
  -- A positive power of ten is a numerator, and a negative one is a denominator.
  have halves : 0 < 2 * f.one := Nat.mul_pos (by decide) f.one_pos
  have power (n : Nat) : 0 < Nat.pow 10 n := Nat.pow_pos (by decide)
  by_cases whole : 0 ≤ exponent
  · refine ⟨Nat.pow 10 exponent.toNat * (2 * f.one), 1, Nat.mul_pos (power _) halves, Nat.one_pos, ?_, ?_⟩
    · obtain ⟨count, rfl⟩ := Int.eq_ofNat_of_zero_le whole
      simp
    · simp [onGrid?, whole]
  · refine ⟨2 * f.one, Nat.pow 10 (-exponent).toNat, halves, power _, ?_, ?_⟩
    · obtain ⟨count, rfl⟩ : ∃ count : Nat, exponent = -count := ⟨(-exponent).toNat, by omega⟩
      simp
      field_simp
    · simp [onGrid?, whole]

/-- A grid that has a point in the basin of a magnitude gives a decimal. -/
theorem exists_onGrid? (tie : Tie) (positive : 0 < magnitude) {exponent : Int} (count : Nat)
    (inside : (Basin.of f magnitude).Contains (halves f ⟨count, exponent⟩)) :
    ∃ decimal, onGrid? tie f magnitude exponent = some decimal := by
  -- The search compares multiples of the step with the basin, and one multiple is known to lie there.
  obtain ⟨numerator, denominator, some, below, step, grid⟩ := exists_step tie f magnitude exponent
  rw [halves_eq_mul, ← step, ← mul_div_assoc] at inside
  obtain ⟨point, found⟩ := Basin.exists_nearest? tie some below (Basin.contains_center f positive) inside
  exact ⟨_, by rw [grid, found, Option.map_some]⟩

/-- On a grid so many places behind the leading digit, a decimal counts at most one step more than all digits do. -/
theorem coefficient_le_of_onGrid? (positive : 0 < magnitude) {extra : Nat} {decimal : Decimal}
    (found : onGrid? tie f magnitude (order (Binary.unitsOf f magnitude) f.one - extra) = some decimal) :
    decimal.coefficient ≤ 10 ^ (extra + 1) := by
  have units : 0 < Binary.unitsOf f magnitude := Nat.lt_of_le_of_lt (Nat.zero_le _) (Binary.unitsOf_lt positive)
  have upper := (order_bounds units f.one_pos).2
  generalize order (Binary.unitsOf f magnitude) f.one = leading at *
  obtain ⟨numerator, denominator, some, below, step, grid⟩ := exists_step tie f magnitude (leading - extra)
  rw [grid, Option.map_eq_some_iff] at found
  obtain ⟨point, nearest, rfl⟩ := found
  -- The point found is at most the one after the center.
  have next := Basin.le_of_nearest? nearest
  -- The number itself lies below the next power of ten, which is this many steps.
  have short : (Basin.of f magnitude).center * denominator / numerator < 10 ^ (extra + 1) := by
    rw [Nat.div_lt_iff_lt_mul some]
    have one : (0 : ℚ) < f.one := by exact_mod_cast f.one_pos
    have below : (0 : ℚ) < denominator := by exact_mod_cast below
    have steps : (10 : ℚ) ^ (extra + 1) * 10 ^ (leading - extra) = 10 ^ (leading + 1) := by
      rw [← zpow_natCast, ← zpow_add₀ (by norm_num)]
      congr 1
      push_cast
      ring
    rw [div_lt_iff₀ one, ← steps] at upper
    rw [div_eq_iff below.ne'] at step
    have less : ((Basin.of f magnitude).center * denominator : ℚ) < 10 ^ (extra + 1) * numerator := by
      have doubled : ((Basin.of f magnitude).center : ℚ) = 2 * Binary.unitsOf f magnitude := by
        simp [Basin.of]
      calc
        ((Basin.of f magnitude).center * denominator : ℚ)
        _ = Binary.unitsOf f magnitude * (2 * denominator) := by rw [doubled]; ring
        _ < 10 ^ (extra + 1) * 10 ^ (leading - extra) * f.one * (2 * denominator) := by gcongr
        _ = 10 ^ (extra + 1) * numerator := by rw [step]; ring
    exact_mod_cast less
  show point ≤ 10 ^ (extra + 1)
  omega

/-- A number is less than so many times as large as its distance from the number before it. -/
theorem unitsOf_le_gap (f : Format) (magnitude : Nat) :
    Binary.unitsOf f (magnitude + 1) ≤
      2 * f.fractions * (Binary.unitsOf f (magnitude + 1) - Binary.unitsOf f magnitude) := by
  have small := Nat.mod_lt magnitude f.fractions_pos
  have spacing : Binary.unitsOf f (magnitude + 1) - Binary.unitsOf f magnitude =
      Nat.pow 2 (magnitude / f.fractions - 1) := by
    rw [Binary.unitsOf_succ]
    omega
  rw [spacing, Binary.unitsOf_succ]
  simp only [Binary.unitsOf]
  generalize magnitude / f.fractions = exponent at *
  generalize magnitude % f.fractions = fraction at *
  split
  · -- The numbers below the first exponent are one unit apart.
    rename_i subnormal
    subst subnormal
    simp
    omega
  · -- Under an exponent there are twice as many multiples of the spacing as fractions, counted from zero.
    rw [← Nat.succ_mul]
    exact Nat.mul_le_mul_right _ (by omega)

/-- So many places behind the leading digit, a step is no wider than the distance from the number before. -/
theorem step_le_gap (magnitude : Nat) {extra : Nat} (fine : 4 * f.fractions ≤ 10 ^ extra) :
    10 ^ (order (Binary.unitsOf f (magnitude + 1)) f.one - extra) * (2 * f.one) ≤
      (Binary.unitsOf f (magnitude + 1) : ℚ) - Binary.unitsOf f magnitude := by
  have less : Binary.unitsOf f magnitude < Binary.unitsOf f (magnitude + 1) := Binary.unitsOf_lt (Nat.lt_succ_self _)
  have lower := (order_bounds (Nat.lt_of_le_of_lt (Nat.zero_le _) less) f.one_pos).1
  rw [le_div_iff₀ (by exact_mod_cast f.one_pos)] at lower
  have gap := unitsOf_le_gap f magnitude
  zify [less.le] at gap
  -- A number is no larger than its distance from the one before times the number of fractions, doubled.
  have gap : (Binary.unitsOf f (magnitude + 1) : ℚ) ≤
      2 * f.fractions * (Binary.unitsOf f (magnitude + 1) - Binary.unitsOf f magnitude) := by exact_mod_cast gap
  have less : (Binary.unitsOf f magnitude : ℚ) < Binary.unitsOf f (magnitude + 1) := by exact_mod_cast less
  have distance : (0 : ℚ) ≤ Binary.unitsOf f (magnitude + 1) - Binary.unitsOf f magnitude := by linarith
  have fine : (4 * f.fractions : ℚ) ≤ 10 ^ extra := by exact_mod_cast fine
  generalize order (Binary.unitsOf f (magnitude + 1)) f.one = leading at *
  -- Moved up to the leading digit, a step is twice the leading power of ten, which the number reaches.
  refine le_of_mul_le_mul_left ?_ (show (0 : ℚ) < 10 ^ extra by positivity)
  calc
    (10 : ℚ) ^ extra * (10 ^ (leading - extra) * (2 * f.one))
    _ = 2 * (10 ^ leading * f.one) := by rw [← mul_assoc, Layout.ten_pow_mul]; ring
    _ ≤ 2 * Binary.unitsOf f (magnitude + 1) := by gcongr
    _ ≤ 4 * f.fractions * (Binary.unitsOf f (magnitude + 1) - Binary.unitsOf f magnitude) := by linarith
    _ ≤ 10 ^ extra * (Binary.unitsOf f (magnitude + 1) - Binary.unitsOf f magnitude) := by gcongr

/-- A grid with a step no wider than the distance from the number before has a point in the basin. -/
theorem exists_onGrid?_of_fine (tie : Tie) (positive : 0 < magnitude) {extra : Nat}
    (fine : 4 * f.fractions ≤ 10 ^ extra) :
    ∃ decimal, onGrid? tie f magnitude (order (Binary.unitsOf f magnitude) f.one - extra) = some decimal := by
  -- Below the center there is as much room as half of the distance from the number before.
  obtain ⟨before, rfl⟩ : ∃ before, magnitude = before + 1 := ⟨magnitude - 1, by omega⟩
  have narrow := step_le_gap before fine
  generalize order (Binary.unitsOf f (before + 1)) f.one - extra = exponent at *
  obtain ⟨numerator, denominator, some, below, step, _⟩ := exists_step tie f (before + 1) exponent
  have above : Binary.unitsOf f (before + 1) < Binary.unitsOf f (before + 1 + 1) :=
    Binary.unitsOf_lt (Nat.lt_succ_self _)
  -- The basin also reaches above its center, because the next number is larger.
  have upper : (Basin.of f (before + 1)).center < (Basin.of f (before + 1)).upper := by
    simp only [Basin.of]
    omega
  -- The step fits into the part below the center, so that some multiple falls there.
  have fits : (numerator / denominator : ℚ) ≤
      ((Basin.of f (before + 1)).center : ℚ) - (Basin.of f (before + 1)).lower := by
    rw [step]
    simp only [Basin.of, Nat.add_sub_cancel]
    push_cast
    linarith
  obtain ⟨count, inside⟩ := Basin.exists_multiple some below fits upper
  rw [mul_div_assoc, step, ← halves_eq_mul] at inside
  exact exists_onGrid? tie positive count inside

/-- The first grid that has a point in the basin decides the shortest decimal. -/
theorem exists_first_grid (tie : Tie) (positive : 0 < magnitude)
    (fine : 4 * f.fractions ≤ 10 ^ (f.fractionBits / 3 + 1)) :
    ∃ extra : Nat,
      onGrid? tie f magnitude (order (Binary.unitsOf f magnitude) f.one - extra) = some (shortest tie f magnitude) ∧
      ∀ coarser : Nat, coarser < extra →
        onGrid? tie f magnitude (order (Binary.unitsOf f magnitude) f.one - coarser) = none := by
  obtain ⟨last, finest⟩ := exists_onGrid?_of_fine tie positive fine
  simp only [shortest, if_neg (show magnitude ≠ 0 by omega)]
  generalize order (Binary.unitsOf f magnitude) f.one = leading at *
  cases found : (List.range (f.fractionBits / 3 + 2)).findSome? fun (extra : Nat) =>
      onGrid? tie f magnitude (leading - extra) with
  | none =>
    -- The finest grid that is tried has a point.
    rw [List.findSome?_eq_none_iff] at found
    rw [found _ (List.mem_range.mpr (Nat.lt_succ_self _))] at finest
    cases finest
  | some decimal =>
    obtain ⟨coarse, extra, rest, grids, onGrid, missed⟩ := List.findSome?_eq_some_iff.mp found
    refine ⟨extra, onGrid, fun coarser less => ?_⟩
    -- The grids are tried in order, so that the coarser ones stand before the one that was found.
    have ordered := List.pairwise_lt_range (n := f.fractionBits / 3 + 2)
    have length : extra < f.fractionBits / 3 + 2 := by
      rw [← List.mem_range, grids]
      simp
    have member : coarser ∈ List.range (f.fractionBits / 3 + 2) := List.mem_range.mpr (by omega)
    rw [grids] at ordered member
    rw [List.pairwise_append, List.pairwise_cons] at ordered
    rcases List.mem_append.mp member with early | late
    · exact missed coarser early
    · rcases List.mem_cons.mp late with rfl | later
      · omega
      · have := ordered.2.1.1 coarser later
        omega

/-- A power of ten is written as a one and zeros. -/
theorem toDigits_ten_pow (n : Nat) : Nat.toDigits 10 (10 ^ n) = '1' :: List.replicate n '0' := by
  -- Dividing by ten takes the last zero off.
  induction n with
  | zero => rfl
  | succ n ih =>
    have large : 10 ≤ 10 ^ (n + 1) := by
      have := Nat.pow_pos (n := n) (show 0 < 10 by decide)
      rw [Nat.pow_succ]
      omega
    rw [Nat.toDigits_of_base_le (by decide) large, Nat.pow_succ, Nat.mul_div_cancel _ (by decide), Nat.mul_mod_left, ih,
      List.replicate_succ']
    rfl

/-- Up to a power of ten, no number has more significant digits than the power has zeros. -/
theorem length_significant_le {n count : Nat} (positive : 0 < count) (bounded : n ≤ 10 ^ count) :
    (Layout.significant (Nat.toDigits 10 n)).length ≤ count := by
  rcases Nat.eq_or_lt_of_le bounded with rfl | less
  · -- The power itself has a single one, all of its zeros being left out.
    have single : Layout.significant ('1' :: List.replicate count '0') = ['1'] := by
      have zeros : ∀ c ∈ List.replicate count '0', decide (c = '0') = true := by simp
      simp [Layout.significant, List.dropWhile_append_of_pos zeros]
    rw [toDigits_ten_pow, single]
    exact positive
  · obtain ⟨zeros, together⟩ := Layout.exists_significant_append (Nat.toDigits_ne_nil (n := n) (b := 10))
    have fits := (Nat.length_toDigits_le_iff (by decide) positive).mpr less
    rw [together, List.length_append] at fits
    omega

/-- A decimal that reads back and has so many digits leaves a point on the grid of so many digits. -/
theorem exists_onGrid?_of_contains (tie : Tie) (positive : 0 < magnitude) {decimal : Decimal}
    (inside : (Basin.of f magnitude).Contains (decimal.halves f)) {extra : Nat}
    (short : decimal.coefficient < 10 ^ (extra + 1)) :
    ∃ point, onGrid? tie f magnitude (order (Binary.unitsOf f magnitude) f.one - extra) = some point := by
  have units : 0 < Binary.unitsOf f magnitude := Nat.lt_of_le_of_lt (Nat.zero_le _) (Binary.unitsOf_lt positive)
  have lower := (order_bounds units f.one_pos).1
  generalize order (Binary.unitsOf f magnitude) f.one = leading at *
  obtain ⟨coefficient, exponent⟩ := decimal
  by_cases coarse : leading - extra ≤ exponent
  · -- The decimal lies on a coarser grid, and all of its points are on this one.
    obtain ⟨power, rfl⟩ : ∃ power : Nat, exponent = leading - extra + power :=
      ⟨(exponent - (leading - extra)).toNat, by omega⟩
    apply exists_onGrid? tie positive (coefficient * 10 ^ power)
    rwa [← halves_shift f coefficient power, add_sub_cancel_right] at inside
  · -- The decimal lies below the leading power of ten, which is between it and the number and on every finer grid.
    apply exists_onGrid? tie positive (1 * 10 ^ extra)
    rw [halves_shift]
    apply inside.between (Basin.contains_center f positive)
    · have digits : (coefficient : ℚ) ≤ 10 ^ (extra + 1) := by exact_mod_cast short.le
      have power : (10 : ℚ) ^ (extra + 1) * 10 ^ exponent ≤ 10 ^ leading := by
        rw [← zpow_natCast, ← zpow_add₀ (by norm_num)]
        exact zpow_le_zpow_right₀ (by norm_num) (by push_cast; omega)
      have nonneg : (0 : ℚ) ≤ 10 ^ exponent := zpow_nonneg (by norm_num) _
      have scale : (0 : ℚ) ≤ 2 * f.one := by positivity
      rw [halves, halves, value, value, Nat.cast_one, one_mul]
      refine mul_le_mul_of_nonneg_right ?_ scale
      exact (mul_le_mul_of_nonneg_right digits nonneg).trans power
    · have doubled : ((Basin.of f magnitude).center : ℚ) = 2 * Binary.unitsOf f magnitude := by simp [Basin.of]
      rw [le_div_iff₀ (by exact_mod_cast f.one_pos)] at lower
      rw [halves_eq_mul, doubled, Nat.cast_one, one_mul]
      linarith

/-- No decimal that reads back as the magnitude has fewer digits than the shortest one. -/
theorem length_shortest_le (tie : Tie) (positive : 0 < magnitude)
    (fine : 4 * f.fractions ≤ 10 ^ (f.fractionBits / 3 + 1)) {decimal : Decimal}
    (inside : (Basin.of f magnitude).Contains (decimal.halves f)) {count : Nat}
    (short : decimal.coefficient < 10 ^ count) :
    (Layout.significant (Nat.toDigits 10 (shortest tie f magnitude).coefficient)).length ≤ count := by
  obtain ⟨extra, found, missed⟩ := exists_first_grid tie positive fine
  -- On the grid where the search stops there are this many digits at most.
  have least := length_significant_le (Nat.succ_pos extra) (coefficient_le_of_onGrid? positive found)
  have nonzero := coefficient_pos_of_contains positive inside
  cases count with
  | zero => omega
  | succ count =>
    -- The grid of the other decimal's length has a point, so that the search has stopped by then.
    obtain ⟨point, onGrid⟩ := exists_onGrid?_of_contains tie positive inside short
    have stopped : extra ≤ count := by
      by_contra later
      rw [missed count (by omega)] at onGrid
      cases onGrid
    omega

end DynValue.Decimal
