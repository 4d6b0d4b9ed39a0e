import DynValue.Proofs.Binary.Nearest
import Mathlib.Order.Compare
import Mathlib.Order.WithBot
import Mathlib.Tactic.Linarith

/-! The numeric order is the order of the exact numbers, and no number lies between an integer and its rounding. -/

namespace DynValue

/-- The line of the rational numbers with an infinity at either end. -/
abbrev Point := WithBot (WithTop ℚ)

/-- An integer on the line. -/
def Point.ofInt (n : Int) : Point := (((n : ℚ) : WithTop ℚ) : Point)

namespace Binary

variable {f : Format}

/-- The point that a number stands for, a NaN being taken for an infinity. -/
def point (x : Binary f) : Point :=
  if x.isFinite then ((x.toRat : WithTop ℚ) : Point) else if x.negative then ⊥ else ⊤

/-- The exact value at a place, counted in least positive numbers. -/
def unitsAt (f : Format) (place : Int) : Int :=
  if place < 0 then -unitsOf f place.natAbs else unitsOf f place.natAbs

/-- The place of a number is as far from zero as its magnitude says. -/
theorem natAbs_place (x : Binary f) : x.place.natAbs = x.magnitude := by
  -- The sign goes into the sign of the place.
  unfold place
  split <;> omega

/-- The value of a number depends on its place alone, so that the zeros are the same number. -/
theorem units_eq_unitsAt (x : Binary f) : x.units = unitsAt f x.place := by
  rw [units, unitsAt, natAbs_place]
  cases sign : x.negative with
  | false => simp [place, sign]
  | true =>
    -- Only a zero has a negative sign and a place that is not negative.
    by_cases zero : x.magnitude = 0
    · simp [place, sign, zero, unitsOf_zero]
    · simp [place, sign, Nat.pos_of_ne_zero zero]

/-- A place further up has a larger size. -/
theorem unitsAt_lt (f : Format) {a b : Int} (less : a < b) : unitsAt f a < unitsAt f b := by
  simp only [unitsAt]
  -- On either side of zero the sizes follow the magnitudes, and zero separates the sides.
  by_cases signA : a < 0
  · by_cases signB : b < 0
    · have := unitsOf_lt (f := f) (show b.natAbs < a.natAbs by omega)
      rw [if_pos signA, if_pos signB]
      omega
    · have := unitsOf_lt (f := f) (show 0 < a.natAbs by omega)
      rw [if_pos signA, if_neg signB]
      omega
  · have := unitsOf_lt (f := f) (show a.natAbs < b.natAbs by omega)
    rw [if_neg signA, if_neg (by omega)]
    omega

/-- The rational number at a place. -/
def ratAt (f : Format) (place : Int) : ℚ := unitsAt f place / f.one

/-- A number is the rational number at its place. -/
theorem toRat_eq_ratAt (x : Binary f) : x.toRat = ratAt f x.place := by
  -- Both count the same least positive numbers.
  rw [toRat, ratAt, units_eq_unitsAt]

/-- A place further up has a larger rational number. -/
theorem ratAt_lt (f : Format) {a b : Int} (less : a < b) : ratAt f a < ratAt f b := by
  -- Both sizes are divided by that of the number one.
  have positive : (0 : ℚ) < f.one := by exact_mod_cast f.one_pos
  unfold ratAt
  rw [div_lt_div_iff_of_pos_right positive]
  exact_mod_cast unitsAt_lt f less

/-- Places are ordered as the numbers at them. -/
theorem ratAt_lt_iff (f : Format) {a b : Int} : ratAt f a < ratAt f b ↔ a < b := by
  -- If the places were the other way round or the same, so would the numbers be.
  refine ⟨fun less => ?_, ratAt_lt f⟩
  by_contra reversed
  rcases (Int.not_lt.mp reversed).lt_or_eq with more | same
  · exact lt_asymm less (ratAt_lt f more)
  · rw [same] at less
    exact lt_irrefl _ less

/-- Numbers are ordered as their places are, whatever the infinities are worth. -/
theorem toRat_lt_iff {x y : Binary f} : x.toRat < y.toRat ↔ x.place < y.place := by
  -- The numbers are those at their places.
  rw [toRat_eq_ratAt, toRat_eq_ratAt, ratAt_lt_iff]

/-- A number is what lies no further out than the infinities. -/
theorem isNan_eq_false_iff {x : Binary f} : x.isNan = false ↔ x.place.natAbs ≤ f.infinity := by
  -- The magnitude is the distance of the place from zero.
  simp [isNan, natAbs_place]

/-- A finite number is what lies closer than the infinities. -/
theorem isFinite_iff {x : Binary f} : x.isFinite = true ↔ x.place.natAbs < f.infinity := by
  -- The magnitude is the distance of the place from zero.
  simp [isFinite, natAbs_place]

/-- There is a number at every place up to the infinities. -/
theorem exists_place {place : Int} (inside : place.natAbs ≤ f.infinity) :
    ∃ x : Binary f, x.isNan = false ∧ x.place = place := by
  -- The size of the place is the magnitude of the number, and its sign the sign.
  have fits : place.natAbs < f.magnitudes := Nat.lt_of_le_of_lt inside f.infinity_lt
  let x : Binary f := ⟨place < 0, place.natAbs, fits⟩
  have here : x.place = place := by
    simp only [x, Binary.place, decide_eq_true_eq]
    split <;> omega
  exact ⟨x, isNan_eq_false_iff.mpr (by rw [here]; exact inside), here⟩

/-- Numbers are ordered on the line as their places are. -/
theorem point_lt_iff {x y : Binary f} (first : x.isNan = false) (second : y.isNan = false) :
    x.point < y.point ↔ x.place < y.place := by
  have boundX := isNan_eq_false_iff.mp first
  have boundY := isNan_eq_false_iff.mp second
  have finite := f.infinity_pos
  -- An infinity has the outermost place of its sign.
  have outermost {z : Binary f} (number : z.isNan = false) (infinite : ¬z.isFinite = true) :
      z.point = (if z.negative then ⊥ else ⊤) ∧ z.place = if z.negative then -(f.infinity : Int) else f.infinity := by
    rw [isNan_eq_false_iff, natAbs_place] at number
    rw [isFinite_iff, natAbs_place] at infinite
    have size : z.magnitude = f.infinity := by omega
    refine ⟨?_, by rw [place, size]⟩
    rw [point, if_neg (by rwa [isFinite_iff, natAbs_place])]
  by_cases finiteX : x.isFinite = true
  · by_cases finiteY : y.isFinite = true
    · -- Two finite numbers are ordered as rationals, which follow the places.
      rw [point, point, if_pos finiteX, if_pos finiteY, WithBot.coe_lt_coe, WithTop.coe_lt_coe,
        toRat_lt_iff]
    · obtain ⟨pointY, placeY⟩ := outermost second finiteY
      rw [isFinite_iff] at finiteX
      rw [pointY, placeY, point, if_pos (isFinite_iff.mpr finiteX)]
      cases y.negative with
      | false => simp [WithBot.coe_lt_coe, ← WithBot.coe_top]; omega
      | true => simp; omega
  · obtain ⟨pointX, placeX⟩ := outermost first finiteX
    by_cases finiteY : y.isFinite = true
    · rw [isFinite_iff] at finiteY
      rw [pointX, placeX, point, if_pos (isFinite_iff.mpr finiteY)]
      cases x.negative with
      | false => simp; omega
      | true => simp; omega
    · obtain ⟨pointY, placeY⟩ := outermost second finiteY
      rw [pointX, placeX, pointY, placeY]
      cases x.negative <;> cases y.negative <;> simp
      omega

/-- Two numbers are the same point of the line exactly if they are at one place. -/
theorem point_eq_iff {x y : Binary f} (first : x.isNan = false) (second : y.isNan = false) :
    x.point = y.point ↔ x.place = y.place := by
  -- Neither of two numbers is less than the other exactly when they are at one place.
  have less := point_lt_iff first second
  have more := point_lt_iff second first
  constructor
  · intro same
    simp only [same, lt_self_iff_false, false_iff] at less more
    omega
  · intro same
    simp only [same, lt_self_iff_false, iff_false, not_lt] at less more
    exact le_antisymm more less

/-- The numeric order of two numbers is the order of the points they stand for. -/
theorem compare?_eq_compare_point {x y : Binary f} (first : x.isNan = false) (second : y.isNan = false) :
    x.compare? y = some (compare x.point y.point) := by
  simp only [compare?, first, second, Bool.or_self, Bool.false_eq_true, if_false, Option.some.injEq]
  -- What is compared are the places, which are in one of three orders.
  rcases lt_trichotomy x.place y.place with less | same | more
  · rw [Int.compare_eq_lt.mpr less, compare_lt_iff_lt.mpr ((point_lt_iff first second).mpr less)]
  · rw [Int.compare_eq_eq.mpr same, compare_eq_iff_eq.mpr ((point_eq_iff first second).mpr same)]
  · rw [Int.compare_eq_gt.mpr more, compare_gt_iff_gt.mpr ((point_lt_iff second first).mpr more)]

namespace IsNearest

variable {x y : Binary f} {exact : ℚ}

/-- A number that is not below the exact one is not below its rounding. -/
theorem le_of_le (nearest : x.IsNearest exact) (number : y.isNan = false) (above : exact ≤ y.toRat) :
    x.toRat ≤ y.toRat := by
  -- Otherwise it would lie between the two and be nearer.
  by_contra beyond
  have closest := nearest.closest y number
  rw [abs_of_nonpos (by linarith), abs_of_nonpos (by linarith)] at closest
  linarith

/-- A number that is not above the exact one is not above its rounding. -/
theorem ge_of_ge (nearest : x.IsNearest exact) (number : y.isNan = false) (below : y.toRat ≤ exact) :
    y.toRat ≤ x.toRat := by
  -- The same argument with the two sides exchanged.
  by_contra beyond
  have closest := nearest.closest y number
  rw [abs_of_nonneg (by linarith), abs_of_nonneg (by linarith)] at closest
  linarith

/-- Of two nearest numbers at different places both would be even, and leave room for one that is nearer. -/
theorem not_place_lt (first : x.IsNearest exact) (second : y.IsNearest exact) : ¬x.place < y.place := by
  intro less
  have apart := toRat_lt_iff.mpr less
  -- Neither of the two is nearer, so that the rule for ties applies to both.
  have equal : |exact - x.toRat| = |exact - y.toRat| :=
    le_antisymm (first.closest y second.number) (second.closest x first.number)
  have evenX := (first.even y second.number equal).resolve_left apart.ne'
  have evenY := (second.even x first.number equal.symm).resolve_left apart.ne
  rw [← natAbs_place] at evenX evenY
  have boundX := isNan_eq_false_iff.mp first.number
  have boundY := isNan_eq_false_iff.mp second.number
  -- The place after the first is taken by a number before the second.
  have inside : (x.place + 1).natAbs ≤ f.infinity := by omega
  obtain ⟨z, number, between⟩ := exists_place inside
  have afterX : x.toRat < z.toRat := toRat_lt_iff.mpr (by omega)
  have beforeY : z.toRat < y.toRat := toRat_lt_iff.mpr (by omega)
  -- The exact number is the middle of the two, from which the one between them is less far.
  have middle : exact - x.toRat = y.toRat - exact := by
    rcases abs_eq_abs.mp equal with same | opposite <;> linarith
  have closest := first.closest z number
  rw [abs_of_pos (by linarith)] at closest
  rcases le_abs.mp closest with above | below <;> linarith

/-- The nearest number is unique up to the sign of a zero. -/
theorem place_eq (first : x.IsNearest exact) (second : y.IsNearest exact) : x.place = y.place :=
  le_antisymm (not_lt.mp (second.not_place_lt first)) (not_lt.mp (first.not_place_lt second))

/-- A number at the place of the nearest one is the nearest one. -/
theorem of_place_eq (nearest : x.IsNearest exact) (same : y.place = x.place) : y.IsNearest exact := by
  -- The place tells the value and the magnitude, which are all that is asked about.
  have values : y.toRat = x.toRat := by rw [toRat_eq_ratAt, toRat_eq_ratAt, same]
  have sizes : y.magnitude = x.magnitude := by rw [← natAbs_place, ← natAbs_place, same]
  constructor
  · exact isNan_eq_false_iff.mpr (same ▸ isNan_eq_false_iff.mp nearest.number)
  · rw [values]
    exact nearest.closest
  · rw [values, sizes]
    exact nearest.even

end IsNearest

/-- The number that an integer is rounded to stands where its nearest numbers stand. -/
theorem isNearest_iff_place {x : Binary f} (n : Int) : x.IsNearest n ↔ x.place = (ofInt f n).place :=
  ⟨fun nearest => nearest.place_eq (ofInt_isNearest f n), (ofInt_isNearest f n).of_place_eq⟩

/-- A rounded integer has the same order to every number as the integer, unless the number is what it is rounded to. -/
theorem compare_point_ofInt {n : Int} {x : Binary f} (finite : (ofInt f n).isFinite = true) (number : x.isNan = false)
    (different : ¬x.IsNearest n) : compare (ofInt f n).point x.point = compare (Point.ofInt n) x.point := by
  have nearest := ofInt_isNearest f n
  rw [isNearest_iff_place, ← point_eq_iff number nearest.number] at different
  -- An infinity is beyond the integer and its rounding alike.
  have rounded : (ofInt f n).point = (((ofInt f n).toRat : WithTop ℚ) : Point) := if_pos finite
  by_cases bounded : x.isFinite = true
  · have exactly : x.point = ((x.toRat : WithTop ℚ) : Point) := if_pos bounded
    rw [rounded, exactly] at different
    rw [rounded, exactly, Point.ofInt]
    have apart : x.toRat ≠ (ofInt f n).toRat := fun same => different (by rw [same])
    rcases lt_trichotomy (n : ℚ) x.toRat with less | same | more
    · have below := lt_of_le_of_ne (nearest.le_of_le number less.le) apart.symm
      rw [compare_lt_iff_lt.mpr (by exact_mod_cast below), compare_lt_iff_lt.mpr (by exact_mod_cast less)]
    · -- A number that is the integer itself is what it is rounded to.
      exact absurd (le_antisymm (nearest.ge_of_ge number same.ge) (nearest.le_of_le number same.le)) apart
    · have above := lt_of_le_of_ne (nearest.ge_of_ge number more.le) apart
      rw [compare_gt_iff_gt.mpr (by exact_mod_cast above), compare_gt_iff_gt.mpr (by exact_mod_cast more)]
  · have infinite : x.point = if x.negative then ⊥ else ⊤ := if_neg bounded
    rw [rounded, infinite, Point.ofInt]
    split
    · rw [compare_gt_iff_gt.mpr (WithBot.bot_lt_coe _), compare_gt_iff_gt.mpr (WithBot.bot_lt_coe _)]
    · rw [compare_lt_iff_lt.mpr (WithBot.coe_lt_coe.mpr (WithTop.coe_lt_top _)),
        compare_lt_iff_lt.mpr (WithBot.coe_lt_coe.mpr (WithTop.coe_lt_top _))]

/-- The number that an integer is rounded to passes for equal to it. -/
theorem compare?_ofInt_of_isNearest {n : Int} {x : Binary f} (nearest : x.IsNearest n) :
    (ofInt f n).compare? x = some .eq := by
  -- Two numbers that are nearest to the integer are at one place, and one of them is its rounding.
  have rounded := ofInt_isNearest f n
  have same := (point_eq_iff nearest.number rounded.number).mpr ((isNearest_iff_place n).mp nearest)
  rw [compare?_eq_compare_point rounded.number nearest.number, same, compare_eq_iff_eq.mpr rfl]

/-- Next to any other number, and next to the integer itself, nothing is lost by rounding. -/
theorem compare?_ofInt_of_exact {n : Int} {x : Binary f} (finite : (ofInt f n).isFinite = true)
    (number : x.isNan = false) (untied : x.IsNearest n → x.point = .ofInt n) :
    (ofInt f n).compare? x = some (compare (Point.ofInt n) x.point) := by
  by_cases nearest : x.IsNearest n
  · -- The float is the integer itself, and equal is the exact verdict.
    rw [compare?_ofInt_of_isNearest nearest, untied nearest, compare_eq_iff_eq.mpr rfl]
  · rw [compare?_eq_compare_point (ofInt_isNearest f n).number number, compare_point_ofInt finite number nearest]

/-- The numeric order read from the other side is reversed. -/
theorem compare?_swap (x y : Binary f) : x.compare? y = (y.compare? x).map Ordering.swap := by
  -- A number that is none spoils the comparison from both sides.
  simp only [compare?, Bool.or_comm y.isNan]
  split
  · rfl
  · exact congrArg some Std.OrientedCmp.eq_swap

/-- A strict verdict of the numeric order is the verdict of the total order of bits. -/
theorem totalCompare_of_compare? {x y : Binary f} {verdict : Ordering} (found : x.compare? y = some verdict)
    (strict : verdict ≠ .eq) : x.totalCompare y = verdict := by
  simp only [compare?] at found
  split at found
  · contradiction
  · -- Different places have ranks in the same order, since ranks never reverse places.
    obtain rfl := Option.some.inj found
    rcases lt_trichotomy x.place y.place with less | same | more
    · rw [Int.compare_eq_lt.mpr less]
      exact Int.compare_eq_lt.mpr (lt_of_not_ge fun reversed => not_lt_of_ge (place_mono reversed) less)
    · exact absurd (Int.compare_eq_eq.mpr same) strict
    · rw [Int.compare_eq_gt.mpr more]
      exact Int.compare_eq_gt.mpr (lt_of_not_ge fun reversed => not_lt_of_ge (place_mono reversed) more)

/-- A strict verdict of the numeric order needs no rule for ties. -/
theorem compareNumbers_then {x y : Binary f} {verdict : Ordering} (found : x.compare? y = some verdict)
    (strict : verdict ≠ .eq) (tie : Ordering) : (x.compareNumbers y).then tie = verdict := by
  -- The tie is looked at for equal numbers only.
  rw [compareNumbers, found, Option.getD_some]
  cases verdict with
  | eq => contradiction
  | lt => rfl
  | gt => rfl

end Binary

end DynValue
