import DynValue.Native.Order
import DynValue.Proofs.Binary.Exact
import DynValue.Proofs.Native.Homomorphism

/-!
Integers and floats compare as the exact numbers, except where an integer meets the float it is rounded to.

The order of values puts such an integer before the float, and the order against native numbers takes the two for equal.
Everywhere else both orders are exact, so that they never contradict each other.
-/

namespace DynValue

/-- A number before any rounding. -/
inductive Quantity where
  /-- An integer. -/
  | whole (n : Int)
  /-- A float. -/
  | binary (x : Binary64)

namespace Quantity

/-- Whether the quantity is a number, which a NaN is not. -/
def isNumber : Quantity → Bool
  | .whole _ => true
  | .binary x => !x.isNan

/-- The point on the line that the quantity stands for. -/
def point : Quantity → Point
  | .whole n => .ofInt n
  | .binary x => x.point

/-- The float that the quantity is taken for next to a float. -/
def rounded : Quantity → Binary64
  | .whole n => .ofInt _ n
  | .binary x => x

/-- One of the two is an integer, and the other is the float it is rounded to, but not the same number. -/
inductive Tie : Quantity → Quantity → Prop where
  /-- The integer stands first. -/
  | intFirst {n : Int} {x : Binary64} (nearest : x.IsNearest n) (inexact : x.point ≠ .ofInt n) :
      Tie (.whole n) (.binary x)
  /-- The float stands first. -/
  | floatFirst {n : Int} {x : Binary64} (nearest : x.IsNearest n) (inexact : x.point ≠ .ofInt n) :
      Tie (.binary x) (.whole n)

end Quantity

/-- The quantity of a value that is a number or a truth value. -/
def Value.quantity? : Value → Option Quantity
  | .int n => some (.whole n.toInt)
  | .float x => some (.binary x)
  | .bool truth => some (.whole truth.toInt)
  | _ => none

/-- The quantity of a native number. -/
def Number.quantity : Number → Quantity
  | .int32 n => .whole n.toInt
  | .int64 n => .whole n.toInt
  | .double x => .binary x

namespace Quantity

variable {a b : Quantity}

/-- The order that two quantities have when an integer next to a float is rounded. -/
def compare? : Quantity → Quantity → Option Ordering
  | .whole m, .whole n => some (Ord.compare m n)
  | a, b => a.rounded.compare? b.rounded

/-- An integer that is rounded to no infinity, or a float. -/
def Fits : Quantity → Prop
  | .whole n => (Binary.ofInt .double n).isFinite = true
  | .binary _ => True

/-- A float is a number unless it is a NaN. -/
theorem isNumber_binary {x : Binary64} : (binary x).isNumber = true ↔ x.isNan = false := by
  -- The NaNs are the only quantities that are no numbers.
  simp [isNumber]

/-- Quantities are tied from both sides. -/
theorem tie_comm : a.Tie b ↔ b.Tie a := by
  -- The integer may stand on either side of the float that it is rounded to.
  constructor
  all_goals
    rintro (⟨nearest, inexact⟩ | ⟨nearest, inexact⟩)
    · exact .floatFirst nearest inexact
    · exact .intFirst nearest inexact

/-- The order read from the other side is reversed. -/
theorem compare?_swap (a b : Quantity) : a.compare? b = (b.compare? a).map Ordering.swap := by
  -- Only two integers are not compared as floats.
  cases a <;> cases b
  case whole.whole m n => exact congrArg some Std.OrientedCmp.eq_swap
  all_goals exact Binary.compare?_swap _ _

/-- Tied quantities pass for equal. -/
theorem compare?_of_tie (tie : a.Tie b) : a.compare? b = some .eq := by
  -- The integer is rounded to the very float it is compared with.
  cases tie with
  | intFirst nearest inexact => exact Binary.compare?_ofInt_of_isNearest nearest
  | floatFirst nearest inexact =>
    rw [compare?_swap]
    exact congrArg (Option.map Ordering.swap) (Binary.compare?_ofInt_of_isNearest nearest)

/-- Integers are ordered as their points. -/
theorem compare_ofInt (m n : Int) : Ord.compare (Point.ofInt m) (Point.ofInt n) = Ord.compare m n := by
  -- The embedding of the integers into the line keeps the strict order, and the three cases exclude one another.
  have coerced (m n : Int) : Point.ofInt m < Point.ofInt n ↔ m < n := by
    rw [Point.ofInt, Point.ofInt, WithBot.coe_lt_coe, WithTop.coe_lt_coe, Int.cast_lt]
  rcases lt_trichotomy m n with less | rfl | more
  · rw [Int.compare_eq_lt.mpr less, compare_lt_iff_lt.mpr ((coerced m n).mpr less)]
  · rw [Int.compare_eq_eq.mpr rfl, compare_eq_iff_eq.mpr rfl]
  · rw [Int.compare_eq_gt.mpr more, compare_gt_iff_gt.mpr ((coerced n m).mpr more)]

/-- An integer in front of a float has its exact order, if the two are not tied. -/
theorem compare?_int_float {n : Int} {x : Binary64} (fits : (whole n).Fits) (number : (binary x).isNumber = true)
    (untied : ¬(whole n).Tie (binary x)) :
    (whole n).compare? (binary x) = some (Ord.compare (Point.ofInt n) x.point) := by
  apply Binary.compare?_ofInt_of_exact fits (isNumber_binary.mp number)
  -- A nearest float that is another number would be tied.
  intro nearest
  by_contra inexact
  exact untied (.intFirst nearest inexact)

/-- Quantities that are not tied are compared as their points. -/
theorem compare?_of_untied (fitsA : a.Fits) (fitsB : b.Fits) (numberA : a.isNumber = true)
    (numberB : b.isNumber = true) (untied : ¬a.Tie b) : a.compare? b = some (Ord.compare a.point b.point) := by
  cases a with
  | whole m =>
    cases b with
    | whole n => exact congrArg some (compare_ofInt m n).symm
    | binary y => exact compare?_int_float fitsA numberB untied
  | binary x =>
    cases b with
    | whole n =>
      -- The float in front reads the order of the integer from the other side.
      rw [compare?_swap, compare?_int_float fitsB numberA (mt tie_comm.mp untied), Option.map_some]
      exact congrArg some Std.OrientedCmp.eq_swap.symm
    | binary y =>
      exact Binary.compare?_eq_compare_point (isNumber_binary.mp numberA) (isNumber_binary.mp numberB)

/-- Tied quantities are different numbers. -/
theorem point_ne_of_tie (tie : a.Tie b) : a.point ≠ b.point := by
  -- A tie says that the rounding was inexact.
  cases tie with
  | intFirst nearest inexact => exact inexact.symm
  | floatFirst nearest inexact => exact inexact

end Quantity

/-- A word of at most 128 bits is rounded to a finite float. -/
theorem Word.fits_toInt {t : IntType} (narrow : t.width ≤ 128) (n : Word t) : (Quantity.whole n.toInt).Fits :=
  Binary.isFinite_ofInt (n.natAbs_toInt_le narrow)

namespace Value

variable {v w : Value} {q r : Quantity}

/-- The quantity of a value fits into the range of floats. -/
theorem fits_quantity (found : v.quantity? = some q) : q.Fits := by
  -- No integer of the program is near the range where floats end.
  cases v <;> simp only [quantity?, Option.some.injEq, reduceCtorEq] at found <;> subst found
  case bool truth => cases truth <;> exact Binary.isFinite_ofInt (by decide)
  case int n => exact n.fits_toInt (by decide)
  case float x => trivial

/-- A value is compared with a word as its quantity is. -/
theorem compareInt?_of_quantity (found : v.quantity? = some q) (n : Word64) :
    v.compareInt? n = q.compare? (.whole n.toInt) := by
  -- The kinds with a quantity are gone through.
  cases v <;> simp only [quantity?, Option.some.injEq, reduceCtorEq] at found <;> subst found <;> rfl

/-- A value is compared with a float as its quantity is. -/
theorem compareFloat?_of_quantity (found : v.quantity? = some q) (x : Binary64) :
    v.compareFloat? x = q.compare? (.binary x) := by
  -- The kinds with a quantity are gone through.
  cases v <;> simp only [quantity?, Option.some.injEq, reduceCtorEq] at found <;> subst found <;> rfl

/-- Whether a value is an integer or a float. -/
def isNumeric (v : Value) : Bool := v.kind = .int ∨ v.kind = .float

/-- A strict verdict on the quantities of two numbers is the verdict of the order of values. -/
theorem compare_of_strict (numericV : v.isNumeric = true) (numericW : w.isNumeric = true)
    (quantityV : v.quantity? = some q) (quantityW : w.quantity? = some r) {verdict : Ordering}
    (found : q.compare? r = some verdict) (strict : verdict ≠ .eq) : compare v w = verdict := by
  cases v <;> simp [isNumeric, kind] at numericV <;> cases w <;> simp [isNumeric, kind] at numericW <;>
    obtain rfl := Option.some.inj quantityV <;> obtain rfl := Option.some.inj quantityW
  case int.int m n => exact Option.some.inj found
  -- The rule that puts an integer before the float it is taken for never comes to bear.
  case int.float n x => exact Binary.compareNumbers_then found strict .lt
  case float.int x n => exact Binary.compareNumbers_then found strict .gt
  case float.float x y => exact Binary.totalCompare_of_compare? found strict

end Value

namespace Number

/-- The quantity of a native number fits into the range of floats. -/
theorem fits_quantity (w : Number) : w.quantity.Fits := by
  -- Words are far from the end of the range, and for floats nothing is asked.
  cases w with
  | int32 n => exact n.fits_toInt (by decide)
  | int64 n => exact n.fits_toInt (by decide)
  | double x => trivial

/-- The value of a native number is an integer or a float with the same quantity. -/
theorem quantity?_toValue (w : Number) :
    w.toNative.toValue.isNumeric = true ∧ w.toNative.toValue.quantity? = some w.quantity := by
  -- A word of 32 bits becomes an integer of 64 bits, which is the same integer.
  cases w with
  | int32 n =>
    rw [toValue_of_word rfl, Value.quantity?, Word.toInt_convert_int32]
    exact ⟨rfl, rfl⟩
  | int64 n =>
    rw [toValue_of_word rfl]
    exact ⟨rfl, rfl⟩
  | double x => exact ⟨rfl, rfl⟩

end Number

namespace Native

variable {v : Value} {q : Quantity}

/-- A value is compared with a native number through their quantities. -/
theorem compare?_of_quantity (found : v.quantity? = some q) (w : Number) :
    compare? ⟨.value, v⟩ w.toNative = q.compare? w.quantity := by
  cases w with
  | int32 n =>
    -- A word of 32 bits is taken as the word of 64 bits with the same integer.
    have wider := Value.compareInt?_of_quantity found (n.convert .int64)
    rw [Word.toInt_convert_int32] at wider
    exact wider
  | int64 n =>
    have wider := Value.compareInt?_of_quantity found (n.convert .int64)
    have same : (n.convert .int64).toInt = n.toInt := congrArg Word.toInt n.convert_self
    rw [same] at wider
    exact wider
  | double x => exact Value.compareFloat?_of_quantity found x

/-- A native number on the left sees the order from the other side, whatever the value is. -/
theorem compare?_number_value (v : Value) (w : Number) :
    compare? w.toNative ⟨.value, v⟩ = (compare? ⟨.value, v⟩ w.toNative).map Ordering.swap := by
  -- For each type of the number the comparison is made with the value in front and then reversed.
  cases w <;> rfl

/-- A value and a native number are equal if they compare as equal. -/
theorem equal_number (v : Value) (w : Number) :
    (equal ⟨.value, v⟩ w.toNative = true ↔ compare? ⟨.value, v⟩ w.toNative = some .eq) ∧
      (equal w.toNative ⟨.value, v⟩ = true ↔ compare? w.toNative ⟨.value, v⟩ = some .eq) := by
  -- Equality is defined by the verdict, on both sides.
  cases w <;> exact ⟨decide_eq_true_iff, decide_eq_true_iff⟩

/-- The verdicts between a value and a native number, on either side, next to the exact order of their quantities. -/
structure ExactUpToTies (v : Value) (q : Quantity) (w : Number) : Prop where
  /-- The value on the left has the exact order, if there is no tie. -/
  value_number : ¬q.Tie w.quantity →
    compare? ⟨.value, v⟩ w.toNative = some (Ord.compare q.point w.quantity.point)
  /-- The number on the left has the exact order, if there is no tie. -/
  number_value : ¬q.Tie w.quantity →
    compare? w.toNative ⟨.value, v⟩ = some (Ord.compare w.quantity.point q.point)
  /-- At a tie the two pass for equal, though they are different numbers. -/
  tie : q.Tie w.quantity → q.point ≠ w.quantity.point ∧
    compare? ⟨.value, v⟩ w.toNative = some .eq ∧ compare? w.toNative ⟨.value, v⟩ = some .eq
  /-- The tests for equality hold for the same number and for a tie. -/
  equal_iff : (equal ⟨.value, v⟩ w.toNative = true ↔ q.point = w.quantity.point ∨ q.Tie w.quantity) ∧
    (equal w.toNative ⟨.value, v⟩ = true ↔ q.point = w.quantity.point ∨ q.Tie w.quantity)

/-- Comparisons between a value and a native number are exact except for ties. -/
theorem exactUpToTies (found : v.quantity? = some q) (number : q.isNumber = true) {w : Number}
    (other : w.quantity.isNumber = true) : ExactUpToTies v q w := by
  have exactly (untied : ¬q.Tie w.quantity) :
      compare? ⟨.value, v⟩ w.toNative = some (Ord.compare q.point w.quantity.point) := by
    rw [compare?_of_quantity found]
    exact Quantity.compare?_of_untied (Value.fits_quantity found) w.fits_quantity number other untied
  have tied (tie : q.Tie w.quantity) : compare? ⟨.value, v⟩ w.toNative = some .eq := by
    rw [compare?_of_quantity found]
    exact Quantity.compare?_of_tie tie
  -- Equality is the verdict that is the same from both sides.
  have equal_iff : compare? ⟨.value, v⟩ w.toNative = some .eq ↔ q.point = w.quantity.point ∨ q.Tie w.quantity := by
    by_cases tie : q.Tie w.quantity
    · simp [tied tie, tie]
    · simp [exactly tie, tie]
  -- Reversing a verdict leaves it equal if it is, and undecided if it is.
  have sides : compare? w.toNative ⟨.value, v⟩ = some .eq ↔ compare? ⟨.value, v⟩ w.toNative = some .eq := by
    rw [compare?_number_value]
    cases compare? ⟨.value, v⟩ w.toNative with
    | none => simp
    | some verdict => cases verdict <;> simp
  constructor
  case value_number => exact exactly
  case number_value =>
    intro untied
    rw [compare?_number_value, exactly untied, Option.map_some]
    exact congrArg some Std.OrientedCmp.eq_swap.symm
  case tie =>
    intro tie
    exact ⟨Quantity.point_ne_of_tie tie, tied tie, sides.mpr (tied tie)⟩
  case equal_iff =>
    obtain ⟨right, left⟩ := equal_number v w
    exact ⟨right.trans equal_iff, left.trans (sides.trans equal_iff)⟩

/-- A value that is an integer or a float has a quantity. -/
theorem exists_quantity (numeric : v.isNumeric = true) : ∃ q, v.quantity? = some q := by
  -- The two numeric kinds are given their quantities.
  cases v <;> simp [Value.isNumeric, Value.kind] at numeric
  case int n => exact ⟨_, rfl⟩
  case float x => exact ⟨_, rfl⟩

/-- An integer that is not past a float, or is rounded to it, comes before it; any other comes after it. -/
theorem compare_int_float (n : Word64) {x : Binary64} (number : x.isNan = false) :
    (Point.ofInt n.toInt ≤ x.point → Value.compare (.int n) (.float x) = .lt) ∧
      (x.point < .ofInt n.toInt → x.IsNearest n.toInt → Value.compare (.int n) (.float x) = .lt) ∧
      (x.point < .ofInt n.toInt → ¬x.IsNearest n.toInt → Value.compare (.int n) (.float x) = .gt) := by
  have ordered : Value.compare (.int n) (.float x) =
      (((Binary.ofInt .double n.toInt).compare? x).getD _).then .lt := rfl
  -- The nearest float is what the integer is taken for, and the tie is broken by kind.
  have tied (nearest : x.IsNearest n.toInt) : Value.compare (.int n) (.float x) = .lt := by
    rw [ordered, Binary.compare?_ofInt_of_isNearest nearest]
    rfl
  have exactly (apart : ¬x.IsNearest n.toInt) :
      Value.compare (.int n) (.float x) = (Ord.compare (Point.ofInt n.toInt) x.point).then .lt := by
    rw [ordered, Binary.compare?_ofInt_of_exact (n.fits_toInt (by decide)) number fun nearest => absurd nearest apart]
    rfl
  refine ⟨?_, fun _ nearest => tied nearest, ?_⟩
  · -- An integer that is the float itself comes before it by the same rule as a tie.
    intro below
    by_cases nearest : x.IsNearest n.toInt
    · exact tied nearest
    · rw [exactly nearest]
      rcases below.lt_or_eq with less | same
      · rw [compare_lt_iff_lt.mpr less]
        rfl
      · rw [compare_eq_iff_eq.mpr same]
        rfl
  · intro above apart
    rw [exactly apart, compare_gt_iff_gt.mpr above]
    rfl

/--
Integers and floats compare as the exact numbers, up to one tie that is known precisely.

An integer comes before every float that it does not exceed and after every other, except for the float it is rounded to,
which it comes before in any case. Against native numbers on either side, values have the exact order, except that an integer
and the float it is rounded to pass for equal. A strict verdict against a native number is the verdict against its value, and
the two sides always see reversed verdicts.
-/
theorem number_comparisons_exact :
    (∀ (n : Word64) (x : Binary64), x.isNan = false →
      (Point.ofInt n.toInt ≤ x.point → Value.compare (.int n) (.float x) = .lt) ∧
        (x.point < .ofInt n.toInt → x.IsNearest n.toInt → Value.compare (.int n) (.float x) = .lt) ∧
        (x.point < .ofInt n.toInt → ¬x.IsNearest n.toInt → Value.compare (.int n) (.float x) = .gt)) ∧
      (∀ (v : Value) (q : Quantity) (w : Number), v.quantity? = some q → q.isNumber = true →
        w.quantity.isNumber = true → ExactUpToTies v q w) ∧
      (∀ (v : Value) (w : Number) (verdict : Ordering), v.isNumeric = true →
        compare? ⟨.value, v⟩ w.toNative = some verdict → verdict ≠ .eq →
        Value.compare v w.toNative.toValue = verdict) ∧
      ∀ (v : Value) (w : Number),
        compare? w.toNative ⟨.value, v⟩ = (compare? ⟨.value, v⟩ w.toNative).map Ordering.swap := by
  refine ⟨fun n x number => compare_int_float n number, ?_, ?_, compare?_number_value⟩
  · -- Against native numbers the verdicts come from the quantities.
    intro v q w found number other
    exact exactUpToTies found number other
  · -- A native number and its value have one quantity, on which the verdict was reached.
    intro v w verdict numeric found strict
    obtain ⟨q, quantity⟩ := exists_quantity numeric
    obtain ⟨numericW, quantityW⟩ := w.quantity?_toValue
    rw [compare?_of_quantity quantity] at found
    exact Value.compare_of_strict numeric numericW quantity quantityW found strict

/-- One past the integers that floats can tell apart: before the float below it, and equal to it as a native number. -/
theorem number_comparisons_exact_rounded :
    Value.compare (.int 9007199254740993) (.float (.ofInt _ 9007199254740992)) = .lt ∧
      compare? ⟨.value, .int 9007199254740993⟩ ⟨.double, .ofInt _ 9007199254740992⟩ = some .eq ∧
      Value.compare (.int 9007199254740993) (.float (.infinite true)) = .gt := by
  -- The integer lies between two floats and is rounded to the lower one, which is the even one.
  obtain ⟨ordered, against, _⟩ := number_comparisons_exact
  have integer : (9007199254740993 : Word64).toInt = 9007199254740993 := by decide
  -- The float below is the one that the integer is rounded to.
  have nearest : (Binary.ofInt .double 9007199254740992).IsNearest (9007199254740993 : Int) := by
    have same : Binary.ofInt .double 9007199254740992 = Binary.ofInt .double 9007199254740993 := by decide +kernel
    rw [same]
    exact Binary.ofInt_isNearest .double 9007199254740993
  -- It is a whole number, one less than the integer.
  have below : (Binary.ofInt .double 9007199254740992).point < .ofInt 9007199254740993 := by
    have finite : (Binary.ofInt .double 9007199254740992).isFinite = true := Binary.isFinite_ofInt (by decide)
    have units : (Binary.ofInt .double 9007199254740992).units = 9007199254740992 * Format.double.one := by
      decide +kernel
    have positive : (Format.double.one : ℚ) ≠ 0 := by exact_mod_cast Format.double.one_pos.ne'
    rw [Binary.point, if_pos finite, Point.ofInt, WithBot.coe_lt_coe, WithTop.coe_lt_coe, Binary.toRat, units,
      Int.cast_mul, Int.cast_natCast, mul_div_cancel_right₀ _ positive, Int.cast_lt]
    decide
  refine ⟨?_, ?_, ?_⟩
  · exact (ordered 9007199254740993 _ nearest.number).2.1 (integer ▸ below) (integer ▸ nearest)
  · have verdicts := against (.int 9007199254740993) _ (.double (.ofInt _ 9007199254740992)) rfl rfl
      (Quantity.isNumber_binary.mpr nearest.number)
    exact (verdicts.tie (.intFirst (integer ▸ nearest) (integer ▸ below.ne))).2.1
  · -- The infinity is no number that the integer could be rounded to.
    have farthest : (Binary.infinite true : Binary64).point = ⊥ := by decide
    have apart : ¬(Binary.infinite true : Binary64).IsNearest (9007199254740993 : Int) := by
      rw [Binary.isNearest_iff_place]
      decide +kernel
    refine (ordered 9007199254740993 (.infinite true) (by decide)).2.2 ?_ (integer ▸ apart)
    rw [farthest]
    exact WithBot.bot_lt_coe _

end Native

end DynValue
