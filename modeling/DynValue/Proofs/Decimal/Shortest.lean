import DynValue.Decimal.Shortest
import DynValue.Proofs.Binary.Order
import Mathlib.Algebra.Order.Field.Rat
import Mathlib.Tactic.FieldSimp
import Mathlib.Tactic.Linarith
import Mathlib.Tactic.Positivity
import Mathlib.Tactic.Ring

/-!
The shortest decimal of a magnitude lies in the basin of the magnitude.

The basins of two magnitudes have no number in common, since only one of two neighbours has the midpoint between them.
Hence the shortest decimals of different magnitudes are different numbers.
-/

namespace DynValue.Decimal

/-- The number that a decimal stands for. -/
def value (decimal : Decimal) : ℚ := decimal.coefficient * 10 ^ decimal.exponent

namespace Basin

/-- Whether a number, counted in halves of the least positive number, reads back as the center. -/
def Contains (basin : Basin) (halves : ℚ) : Prop :=
  if basin.closed then basin.lower ≤ halves ∧ halves ≤ basin.upper
  else basin.lower < halves ∧ halves < basin.upper

/-- The test of a point of a grid decides whether the point lies in the basin. -/
theorem holds_iff (basin : Basin) (numerator : Nat) {denominator : Nat} (positive : 0 < denominator)
    (count : Nat) :
    basin.holds numerator denominator count = true ↔ basin.Contains (count * numerator / denominator) := by
  -- The test multiplies by the denominator, which keeps the order because it is positive.
  have positive : (0 : ℚ) < denominator := by exact_mod_cast positive
  unfold holds Contains
  split
  · rw [Bool.and_eq_true, decide_eq_true_eq, decide_eq_true_eq, le_div_iff₀ positive, div_le_iff₀ positive]
    exact_mod_cast Iff.rfl
  · rw [Bool.and_eq_true, decide_eq_true_eq, decide_eq_true_eq, lt_div_iff₀ positive, div_lt_iff₀ positive]
    exact_mod_cast Iff.rfl

/-- A number of the basin lies between its ends. -/
theorem Contains.bounds {basin : Basin} {halves : ℚ} (inside : basin.Contains halves) :
    basin.lower ≤ halves ∧ halves ≤ basin.upper := by
  -- A basin that has its ends has the bounds at once, and the others have them strictly.
  unfold Contains at inside
  split at inside
  · exact inside
  · exact ⟨inside.1.le, inside.2.le⟩

/-- What lies between the ends of a basin lies in it, whether or not they do. -/
theorem contains_of_strict {basin : Basin} {halves : ℚ} (above : basin.lower < halves) (below : halves < basin.upper) :
    basin.Contains halves := by
  -- It only matters at the ends whether they belong to the basin.
  unfold Contains
  split
  · exact ⟨above.le, below.le⟩
  · exact ⟨above, below⟩

/-- The basin of a positive magnitude starts above zero. -/
theorem lower_pos (f : Format) {magnitude : Nat} (positive : 0 < magnitude) : 0 < (Basin.of f magnitude).lower := by
  -- The lower end is the middle between two sizes, and the larger one of them is not zero.
  have units : Binary.unitsOf f (magnitude - 1) < Binary.unitsOf f magnitude := Binary.unitsOf_lt (by omega)
  simp only [Basin.of]
  omega

/-- The point that is sought lies in the basin. -/
theorem holds_of_nearest? {tie : Tie} {basin : Basin} {numerator denominator count : Nat}
    (found : basin.nearest? tie numerator denominator = some count) :
    basin.holds numerator denominator count = true := by
  unfold nearest? at found
  dsimp only at found
  generalize basin.center * denominator = center at found
  generalize center / numerator = low at found
  -- Of the two points around the center, only one that passes the test is taken.
  split at found <;> rename_i holdsLow holdsHigh
  · cases found
  · cases found
    exact holdsLow
  · cases found
    exact holdsHigh
  · -- If both points pass, the nearer one is taken, or one of them by the rule for ties.
    have either : count = low ∨ count = low + 1 := by
      split at found
      · exact .inl (Option.some.inj found).symm
      · exact .inr (Option.some.inj found).symm
      · have parity := Nat.mod_two_eq_zero_or_one low
        split at found <;> have taken := Option.some.inj found <;> omega
    rcases either with rfl | rfl
    · exact holdsLow
    · exact holdsHigh

end Basin

/-- The number of halves of the least positive number that a decimal stands for. -/
def halves (f : Format) (decimal : Decimal) : ℚ := decimal.value * (2 * f.one)

/-- A point that is found on a grid lies in the basin. -/
theorem contains_of_onGrid? {tie : Tie} {f : Format} {magnitude : Nat} {exponent : Int} {decimal : Decimal}
    (found : onGrid? tie f magnitude exponent = some decimal) :
    (Basin.of f magnitude).Contains (decimal.halves f) := by
  unfold onGrid? at found
  obtain ⟨count, point, rfl⟩ := Option.map_eq_some_iff.mp found
  split at point
  · -- From the ones on, a step is a whole number of halves.
    rename_i whole
    obtain ⟨power, rfl⟩ := Int.eq_ofNat_of_zero_le whole
    have inside := (Basin.holds_iff _ _ Nat.one_pos count).mp (Basin.holds_of_nearest? point)
    convert inside using 1
    simp only [halves, value, Int.toNat_natCast, zpow_natCast, Nat.pow_eq]
    push_cast
    ring
  · -- Behind the point, a step is a fraction of the halves.
    rename_i fractional
    obtain ⟨power, rfl⟩ : ∃ power : Nat, exponent = -power := ⟨(-exponent).toNat, by omega⟩
    have inside := (Basin.holds_iff _ _ (Nat.pow_pos (by decide)) count).mp (Basin.holds_of_nearest? point)
    convert inside using 1
    simp only [halves, value, neg_neg, Int.toNat_natCast, zpow_neg, zpow_natCast]
    push_cast
    ring

/-- The center of the basin of a positive magnitude lies in it. -/
theorem Basin.contains_center (f : Format) {magnitude : Nat} (positive : 0 < magnitude) :
    (Basin.of f magnitude).Contains (Basin.of f magnitude).center := by
  -- The numbers before and after are different, so that the center is at neither end.
  have below : Binary.unitsOf f (magnitude - 1) < Binary.unitsOf f magnitude :=
    Binary.unitsOf_lt (by omega)
  have above : Binary.unitsOf f magnitude < Binary.unitsOf f (magnitude + 1) :=
    Binary.unitsOf_lt (by omega)
  have strict : (Basin.of f magnitude).lower < (Basin.of f magnitude).center ∧
      (Basin.of f magnitude).center < (Basin.of f magnitude).upper := by
    simp only [Basin.of]
    omega
  exact contains_of_strict (by exact_mod_cast strict.1) (by exact_mod_cast strict.2)

/-- The exact decimal of a magnitude is the center of its basin. -/
theorem halves_exact (f : Format) (magnitude : Nat) :
    (exact f magnitude).halves f = (Basin.of f magnitude).center := by
  -- A power of two in the denominator is a power of ten with the same power of five above it.
  have ten : (10 : ℚ) ^ f.scale = 2 ^ f.scale * 5 ^ f.scale := by
    rw [← mul_pow]
    norm_num
  simp only [halves, value, exact, Basin.of, Format.one, zpow_neg, zpow_natCast, Nat.pow_eq, ten]
  push_cast
  field_simp

/-- The shortest decimal of a positive magnitude reads back as the magnitude. -/
theorem contains_shortest (tie : Tie) (f : Format) {magnitude : Nat} (positive : 0 < magnitude) :
    (Basin.of f magnitude).Contains ((shortest tie f magnitude).halves f) := by
  -- If some grid has a point, the point lies in the basin; if none has one, the exact decimal is taken.
  simp only [shortest, if_neg (show magnitude ≠ 0 by omega)]
  generalize List.range (f.fractionBits / 3 + 2) = grids
  cases found : grids.findSome? fun (extra : Nat) =>
      onGrid? tie f magnitude (order (Binary.unitsOf f magnitude) f.one - extra) with
  | none =>
    rw [Option.getD_none, halves_exact]
    exact Basin.contains_center f positive
  | some decimal =>
    obtain ⟨extra, _, onGrid⟩ := List.exists_of_findSome?_eq_some found
    exact contains_of_onGrid? onGrid

/-- No decimal that reads back as a positive magnitude is zero, since the basin starts above it. -/
theorem coefficient_pos_of_contains {f : Format} {magnitude : Nat} (positive : 0 < magnitude) {decimal : Decimal}
    (inside : (Basin.of f magnitude).Contains (decimal.halves f)) : 0 < decimal.coefficient := by
  -- Zero lies below the lower end of the basin.
  have lower := Basin.lower_pos f positive
  rcases Nat.eq_zero_or_pos decimal.coefficient with zero | some
  · have bound := inside.bounds.1
    simp [halves, value, zero] at bound
    omega
  · exact some

/-- Numbers in the basins of two positive magnitudes are in the order of the magnitudes. -/
theorem Basin.lt_of_contains {f : Format} {m n : Nat} {x y : ℚ} (less : m < n)
    (first : (Basin.of f m).Contains x) (second : (Basin.of f n).Contains y) : x < y := by
  by_cases next : n = m + 1
  · -- Neighbours share a midpoint, and one of them is odd.
    subst next
    have shared : (Basin.of f (m + 1)).lower = (Basin.of f m).upper := rfl
    have parity : (Basin.of f m).closed = false ∨ (Basin.of f (m + 1)).closed = false := by
      simp only [Basin.of, decide_eq_false_iff_not]
      omega
    rcases parity with opened | opened
    · have strict : x < (Basin.of f m).upper := by
        simp only [Contains, opened, Bool.false_eq_true, if_false] at first
        exact first.2
      have bound := second.bounds.1
      rw [shared] at bound
      linarith
    · have strict : (Basin.of f (m + 1)).lower < y := by
        simp only [Contains, opened, Bool.false_eq_true, if_false] at second
        exact second.1
      have bound := first.bounds.2
      rw [← shared] at bound
      linarith
  · -- With a number in between, the basins do not touch.
    have lower : Binary.unitsOf f m < Binary.unitsOf f (n - 1) := Binary.unitsOf_lt (by omega)
    have upper : Binary.unitsOf f (m + 1) < Binary.unitsOf f n := Binary.unitsOf_lt (by omega)
    have apart : (Basin.of f m).upper < (Basin.of f n).lower := by
      simp only [Basin.of]
      omega
    have apart : ((Basin.of f m).upper : ℚ) < (Basin.of f n).lower := by exact_mod_cast apart
    linarith [first.bounds.2, second.bounds.1]

/-- The shortest decimal of a larger magnitude is a larger number. -/
theorem shortest_strictMono (tie : Tie) (f : Format) : StrictMono fun m => (shortest tie f m).value := by
  intro m n less
  have scale : (0 : ℚ) < 2 * f.one := by
    have := f.one_pos
    positivity
  refine lt_of_mul_lt_mul_right (a := 2 * (f.one : ℚ)) ?_ scale.le
  show (shortest tie f m).halves f < (shortest tie f n).halves f
  by_cases zero : m = 0
  · -- Zero is written as zero, and the basins of the others start above it.
    subst zero
    have lower : (0 : ℚ) < (Basin.of f n).lower := by exact_mod_cast Basin.lower_pos f less
    have bound := (contains_shortest tie f less).bounds.1
    have start : (shortest tie f 0).halves f = 0 := by simp [shortest, halves, value]
    linarith
  · exact Basin.lt_of_contains less (contains_shortest tie f (by omega)) (contains_shortest tie f (by omega))

end DynValue.Decimal
