import DynValue.Word.Basic

/-! Words and the integers in the range of their type stand for each other. -/

namespace DynValue.Word

variable {t : IntType}

/-- The integer of a word lies in the range of its type. -/
theorem toInt_inRange (x : Word t) : t.least ≤ x.toInt ∧ x.toInt ≤ t.greatest := by
  -- The two readings of the bits have the range of the type as bounds.
  unfold toInt IntType.least IntType.greatest
  cases t.signed with
  | true =>
    have low := x.bits.le_toInt
    have high := x.bits.toInt_lt
    simp only [if_true, Nat.pow_eq, Int.natCast_pow, Int.cast_ofNat_Int]
    omega
  | false =>
    have high := x.bits.isLt
    simp only [Bool.false_eq_true, if_false, Nat.pow_eq]
    omega

/-- The size of a word is bounded by its number of bits, under either reading. -/
theorem natAbs_toInt_le (x : Word t) {bits : Nat} (narrow : t.width ≤ bits) : x.toInt.natAbs ≤ Nat.pow 2 bits := by
  -- A signed word is smaller by one bit, and except for the least word strictly so.
  have inRange := x.toInt_inRange
  have unsigned : Nat.pow 2 t.width ≤ Nat.pow 2 bits := Nat.pow_le_pow_right (by decide) narrow
  have signed : Nat.pow 2 (t.width - 1) ≤ Nat.pow 2 bits := Nat.pow_le_pow_right (by decide) (by omega)
  simp only [IntType.least, IntType.greatest] at inRange
  split at inRange <;> omega

/-- A word is the word of its integer. -/
theorem ofInt_toInt (x : Word t) : ofInt t x.toInt = x := by
  -- Either reading of the bits is undone by reducing the integer to the width.
  unfold ofInt toInt
  cases t.signed with
  | true => rw [if_pos rfl, BitVec.ofInt_toInt]
  | false => rw [if_neg (by decide), BitVec.ofInt_natCast, BitVec.ofNat_toNat, BitVec.setWidth_eq]

/-- An integer in the range of a type is the integer of its word. -/
theorem toInt_ofInt {n : Int} (wide : 0 < t.width) (inRange : t.least ≤ n ∧ n ≤ t.greatest) :
    (ofInt t n).toInt = n := by
  obtain ⟨low, high⟩ := inRange
  obtain ⟨signed, width⟩ := t
  cases signed with
  | true =>
    -- The range of a signed type is a half of all patterns on either side of zero.
    have powers : 2 ^ width = 2 * 2 ^ (width - 1) := by
      rw [← Nat.pow_succ', Nat.succ_eq_add_one, Nat.sub_add_cancel wide]
    simp only [IntType.least, IntType.greatest, if_true, Nat.pow_eq] at low high
    simp only [toInt, ofInt, if_true, BitVec.toInt_ofInt]
    apply Int.bmod_eq_of_le <;> omega
  | false =>
    simp only [IntType.least, IntType.greatest, Bool.false_eq_true, if_false, Nat.pow_eq] at low high
    simp only [toInt, ofInt, Bool.false_eq_true, if_false, BitVec.toNat_ofInt]
    rw [Int.emod_eq_of_lt low (by omega)]
    omega

/-- An integer in the range of a type is not moved into it. -/
theorem clamp_of_inRange {n : Int} (inRange : t.least ≤ n ∧ n ≤ t.greatest) : clamp t n = ofInt t n := by
  -- Neither of the two bounds takes effect.
  rw [clamp, Int.min_eq_left inRange.2, Int.max_eq_right inRange.1]

/-- The nearest word to an integer has the nearest integer in the range of its type. -/
theorem toInt_clamp (wide : 0 < t.width) (n : Int) : (clamp t n).toInt = max t.least (min n t.greatest) := by
  -- The type has a word, so that its least integer does not lie above the greatest.
  have ordered : t.least ≤ t.greatest := by
    have inRange := (ofInt t 0).toInt_inRange
    omega
  exact toInt_ofInt wide (by omega)

/-- A word is the nearest word to its integer. -/
theorem clamp_toInt (x : Word t) : clamp t x.toInt = x := by
  -- The integer of a word is in range and is not moved.
  rw [clamp_of_inRange x.toInt_inRange, ofInt_toInt]

/-- A word stays the same in its own type. -/
theorem convert_self (x : Word t) : x.convert t = x := ofInt_toInt x

/-- A word of 32 bits lies in the range of 64 bits. -/
theorem inRange_of_int32 (x : Word .int32) : IntType.int64.least ≤ x.toInt ∧ x.toInt ≤ IntType.int64.greatest := by
  -- Both bounds of the narrow type lie inside of those of the wide one.
  have inRange := x.toInt_inRange
  have low : IntType.int64.least ≤ IntType.int32.least := by decide
  have high : IntType.int32.greatest ≤ IntType.int64.greatest := by decide
  omega

/-- A word of 32 bits keeps its integer in 64 bits. -/
theorem toInt_convert_int32 (x : Word .int32) : (x.convert .int64).toInt = x.toInt :=
  toInt_ofInt (by decide) x.inRange_of_int32

/-- A word of 32 bits has the nearest word of 64 bits that has its integer. -/
theorem clamp_int32 (x : Word .int32) : clamp .int64 x.toInt = x.convert .int64 :=
  clamp_of_inRange x.inRange_of_int32

/-- The word of a sum is the sum of the words. -/
theorem ofInt_add (m n : Int) : ofInt t (m + n) = ofInt t m + ofInt t n :=
  congrArg Word.mk (BitVec.ofInt_add m n)

/-- The word of a product is the product of the words. -/
theorem ofInt_mul (m n : Int) : ofInt t (m * n) = ofInt t m * ofInt t n :=
  congrArg Word.mk (BitVec.ofInt_mul m n)

/-- The word of a difference is the difference of the words. -/
theorem ofInt_sub (m n : Int) : ofInt t (m - n) = ofInt t m - ofInt t n := by
  -- Adding the subtrahend gives the minuend back, and addition is already known to be respected.
  have joined := BitVec.ofInt_add (n := t.width) (m - n) n
  rw [Int.sub_add_cancel] at joined
  exact congrArg Word.mk (BitVec.eq_sub_iff_add_eq.mpr joined.symm)

/-- The word of a negative is the negative of the word. -/
theorem ofInt_neg (n : Int) : ofInt t (-n) = -ofInt t n :=
  congrArg Word.mk BitVec.ofInt_neg

/-- A sum in the range of the type is not reduced. -/
theorem toInt_add_of_inRange {x y : Word t} (wide : 0 < t.width)
    (inRange : t.least ≤ x.toInt + y.toInt ∧ x.toInt + y.toInt ≤ t.greatest) :
    (x + y).toInt = x.toInt + y.toInt := by
  -- The sum of the words is the word of the sum, and that is not reduced.
  have sum : x + y = ofInt t (x.toInt + y.toInt) := by rw [ofInt_add, ofInt_toInt, ofInt_toInt]
  rw [sum, toInt_ofInt wide inRange]

/-- A product in the range of the type is not reduced. -/
theorem toInt_mul_of_inRange {x y : Word t} (wide : 0 < t.width)
    (inRange : t.least ≤ x.toInt * y.toInt ∧ x.toInt * y.toInt ≤ t.greatest) :
    (x * y).toInt = x.toInt * y.toInt := by
  -- The product of the words is the word of the product, and that is not reduced.
  have product : x * y = ofInt t (x.toInt * y.toInt) := by rw [ofInt_mul, ofInt_toInt, ofInt_toInt]
  rw [product, toInt_ofInt wide inRange]

/-- A word that is not zero has at least one bit. -/
theorem width_pos {x : Word t} (nonzero : x.toInt ≠ 0) : 0 < t.width := by
  apply Nat.pos_of_ne_zero
  intro narrow
  apply nonzero
  obtain ⟨signed, width⟩ := t
  obtain rfl : width = 0 := narrow
  -- There is one pattern of no bits, which reads as zero either way.
  have pattern : x.bits = 0#0 := BitVec.of_length_zero
  cases signed <;> simp [toInt, pattern]

/-- A negative in the range of the type is not reduced. -/
theorem toInt_neg_of_inRange {x : Word t} (inRange : t.least ≤ -x.toInt ∧ -x.toInt ≤ t.greatest) :
    (-x).toInt = -x.toInt := by
  have negative : -x = ofInt t (-x.toInt) := by rw [ofInt_neg, ofInt_toInt]
  by_cases zero : x.toInt = 0
  · -- Zero is its own negative, whatever the width.
    rw [negative, zero, Int.neg_zero, ← zero, ofInt_toInt]
  · rw [negative, toInt_ofInt (width_pos zero) inRange]

end DynValue.Word
