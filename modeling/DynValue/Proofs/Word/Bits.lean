import Mathlib.Algebra.BigOperators.Intervals
import Mathlib.Data.Nat.Digits.Lemmas
import Mathlib.Data.Nat.Size
import DynValue.Proofs.Word.Range
import DynValue.Word.Bits

/-! The binary digits of a word are those of its integer's absolute value, whichever way they are counted. -/

namespace DynValue

/-! ## Natural numbers and patterns -/

/-- One more than the logarithm of a positive number is its number of binary digits. -/
theorem log2_succ_eq_size {n : Nat} (positive : 0 < n) : n.log2 + 1 = n.size := by
  -- Both are the least exponent of a power of two above the number.
  refine eq_of_forall_ge_iff fun exponent => ?_
  rw [Nat.succ_le_iff, Nat.log2_lt positive.ne', Nat.size_le]

/-- A number that is not zero has the one number of digits whose powers of two enclose it. -/
theorem size_eq_iff {n : Nat} (positive : 0 < n) (k : Nat) : n.size = k ↔ 2 ^ (k - 1) ≤ n ∧ n < 2 ^ k := by
  -- The size counts up to the first power of two above the number, and there is only one such step.
  have digits : 0 < n.size := Nat.size_pos.mpr positive
  rw [← Nat.lt_size, ← Nat.size_le]
  omega

/-- The digits and the leading zeros make up the whole pattern. -/
theorem size_add_clz {width : Nat} (pattern : BitVec width) :
    pattern.toNat.size + pattern.clz.toNat = width := by
  by_cases zero : pattern = 0
  · -- A pattern of zeros has no digits.
    have all : pattern.clz = BitVec.ofNat width width := BitVec.clz_eq_iff_eq_zero.mpr zero
    have none : pattern.toNat = 0 := by simp [zero]
    rw [all, none, BitVec.toNat_ofNat, Nat.mod_eq_of_lt Nat.lt_two_pow_self, Nat.size_zero, Nat.zero_add]
  · -- The first one stands right behind the leading zeros.
    have wide : 0 < width := by
      apply Nat.pos_of_ne_zero
      rintro rfl
      exact zero BitVec.of_length_zero
    have reached := BitVec.two_pow_sub_clz_le_toNat_of_ne_zero wide zero
    have bounded := BitVec.toNat_lt_two_pow_sub_clz (x := pattern)
    rw [← Nat.lt_size] at reached
    rw [← Nat.size_le] at bounded
    have digits : 0 < pattern.toNat.size := by omega
    omega

/-- The ones of a number are counted digit by digit, from the lowest place up. -/
theorem sum_testBit {width n : Nat} (bounded : n < 2 ^ width) :
    ∑ place ∈ Finset.range width, (n.testBit place).toNat = (Nat.digits 2 n).count 1 := by
  -- Every step takes the lowest digit off the number.
  induction width generalizing n with
  | zero =>
    obtain rfl : n = 0 := by simpa using bounded
    rfl
  | succ width ih =>
    have halved : n / 2 < 2 ^ width := by
      rw [Nat.pow_succ] at bounded
      omega
    rw [Finset.sum_range_succ']
    simp only [Nat.testBit_succ, Nat.testBit_zero]
    rw [ih halved]
    rcases Nat.eq_zero_or_pos n with rfl | positive
    · rfl
    · rw [Nat.digits_def' (by decide) positive, List.count_cons]
      by_cases odd : n % 2 = 1 <;> simp [odd]

/-- Going down through a pattern counts the ones of its places. -/
theorem cpopNatRec_eq_testBits {width : Nat} (pattern : BitVec width) (places : Nat) :
    pattern.cpopNatRec places 0 = ∑ place ∈ Finset.range places, (pattern.toNat.testBit place).toNat := by
  -- Each place passed adds its bit to the count.
  induction places with
  | zero => rfl
  | succ places ih =>
    rw [BitVec.cpopNatRec_succ, BitVec.cpopNatRec_eq, ih, Finset.sum_range_succ, Nat.zero_add]
    rfl

/-- The ones of a pattern are the ones of its number. -/
theorem toNat_cpop_eq_count {width : Nat} (pattern : BitVec width) :
    pattern.cpop.toNat = (Nat.digits 2 pattern.toNat).count 1 := by
  -- Every one of the number stands at a place of the pattern, since the number fits into the width.
  rw [BitVec.toNat_cpop, cpopNatRec_eq_testBits, sum_testBit pattern.isLt]

/-- A power of two is written with a single one. -/
theorem count_digits_two_pow (exponent : Nat) : (Nat.digits 2 (2 ^ exponent)).count 1 = 1 := by
  -- The digits are zeros and a single one behind them.
  have digits := Nat.digits_base_pow_mul (b := 2) (k := exponent) (m := 1) (by decide) (by decide)
  rw [Nat.mul_one] at digits
  rw [digits, List.count_append, List.count_replicate]
  simp

namespace Word

variable {t : IntType}

/-! ## Words -/

/-- The pattern of the absolute value is the integer's absolute value in binary. -/
theorem toNat_absolute (x : Word t) : x.absolute.bits.toNat = x.toInt.natAbs := by
  have bound := x.bits.isLt
  unfold absolute toInt
  cases t.signed with
  | true =>
    -- A pattern with its top bit set stands for a negative integer, whose negative the same width holds.
    simp only [if_true, BitVec.toNat_abs, BitVec.toInt_eq_msb_cond]
    split <;> omega
  | false => rfl

/-- The absolute value of a word is exact, even that of the least word. -/
theorem toInt_absolute (x : Word t) : x.absolute.toInt = x.toInt.natAbs :=
  congrArg Nat.cast x.toNat_absolute

/-- One more than the logarithm of the absolute value is its number of digits. -/
theorem log2?_absolute (x : Word t) : x.absolute.log2?.elim 0 (· + 1) = x.toInt.natAbs.size := by
  -- The logarithm is missing for zero, which is the number without digits.
  rw [log2?, toInt_absolute]
  by_cases positive : 0 < x.toInt.natAbs
  · rw [if_pos (Int.natCast_pos.mpr positive), Int.toNat_natCast, Option.elim_some, log2_succ_eq_size positive]
  · have zero : x.toInt.natAbs = 0 := Nat.eq_zero_of_not_pos positive
    rw [zero]
    rfl

/-- The digits of the absolute value stand behind its leading zeros. -/
theorem size_add_leadingZeros (x : Word t) : x.toInt.natAbs.size + x.absolute.leadingZeros = t.width := by
  -- The absolute value is a pattern of the same width, and digits and leading zeros fill it.
  rw [← toNat_absolute, leadingZeros]
  exact size_add_clz x.absolute.bits

/-- Both ways to find the number of digits find the digits of the integer's absolute value. -/
theorem bitLength_eq_size (x : Word t) : x.bitLength = x.toInt.natAbs.size := by
  unfold bitLength
  cases sign : t.signed with
  | true => rw [if_pos rfl, log2?_absolute]
  | false =>
    -- An unsigned word is its own absolute value.
    have parts := x.size_add_leadingZeros
    have same : x.absolute.leadingZeros = x.leadingZeros := by
      simp only [leadingZeros, absolute, sign, Bool.false_eq_true, if_false]
    rw [if_neg (by decide)]
    omega

/-- The ones are those of the binary expansion of the integer's absolute value. -/
theorem bitCount_eq_count (x : Word t) : x.bitCount = (Nat.digits 2 x.toInt.natAbs).count 1 := by
  -- The ones are counted on the pattern of the absolute value.
  rw [bitCount, ones, toNat_cpop_eq_count, toNat_absolute]

/-- Two words, of whatever types, with as many binary digits and as many ones among them. -/
def SameDigits {u : IntType} (x : Word t) (y : Word u) : Prop :=
  x.bitLength = y.bitLength ∧ x.bitCount = y.bitCount

/-- Words of any types whose integers differ in the sign at most have the same digits. -/
theorem sameDigits_of_natAbs {u : IntType} {x : Word t} {y : Word u}
    (same : x.toInt.natAbs = y.toInt.natAbs) : x.SameDigits y := by
  -- Both counts are functions of the absolute value of the integer.
  rw [SameDigits, bitLength_eq_size, bitLength_eq_size, bitCount_eq_count, bitCount_eq_count, same]
  exact ⟨rfl, rfl⟩

/-- The least word of a signed type takes up the whole width and has a single one, the top bit. -/
theorem digits_of_least {x : Word t} (signed : t.signed = true) (wide : 0 < t.width) (least : x.toInt = t.least) :
    x.bitLength = t.width ∧ x.bitCount = 1 := by
  -- The absolute value is the power of two that does not fit into the positive half.
  have size : x.toInt.natAbs = 2 ^ (t.width - 1) := by
    rw [least, IntType.least, if_pos signed, Int.natAbs_neg, Int.natAbs_natCast]
    rfl
  rw [bitLength_eq_size, bitCount_eq_count, size, Nat.size_pow, count_digits_two_pow]
  omega

/-- The binary digits of a word are those of its integer's absolute value. -/
structure DigitsOfAbsolute (x : Word t) : Prop where
  /-- Zero has no digits. -/
  length_zero : x.toInt = 0 → x.bitLength = 0
  /-- Any other word has the one number of digits whose powers of two enclose the absolute value. -/
  length_iff : x.toInt ≠ 0 → ∀ k, x.bitLength = k ↔ 2 ^ (k - 1) ≤ x.toInt.natAbs ∧ x.toInt.natAbs < 2 ^ k
  /-- The ones are those of the binary expansion of the absolute value. -/
  count : x.bitCount = (Nat.digits 2 x.toInt.natAbs).count 1
  /-- The negative has the same digits, if the type has it. -/
  negative : t.least ≤ -x.toInt → -x.toInt ≤ t.greatest → (-x).toInt = -x.toInt ∧ (-x).SameDigits x
  /-- The same integer has the same digits in every other type that has it. -/
  converted : ∀ u : IntType, 0 < u.width → u.least ≤ x.toInt → x.toInt ≤ u.greatest →
    (x.convert u).toInt = x.toInt ∧ (x.convert u).SameDigits x
  /-- The absolute value is an unsigned word of the same width with the same digits, with no exception. -/
  absolute : x.absolute.toInt = x.toInt.natAbs ∧ x.absolute.SameDigits x
  /-- The least word of a signed type, whose negative the type does not have, fills the width and has a single one. -/
  least : t.signed = true → 0 < t.width → x.toInt = t.least → x.bitLength = t.width ∧ x.bitCount = 1
  /-- Under either reading, the digits are one more than the logarithm of the absolute value. -/
  logarithm : x.bitLength = x.absolute.log2?.elim 0 (· + 1)
  /-- Under either reading, the digits and the leading zeros of the absolute value make up the width. -/
  zeros : x.bitLength + x.absolute.leadingZeros = t.width

/--
Digits and ones are counted on the absolute value, for words of every width.

The logarithm that signed words take and the leading zeros that unsigned words leave out find the same digits, those between
two powers of two. So neither the sign nor the type of a word matters for them.
-/
theorem digits_of_absolute (x : Word t) : x.DigitsOfAbsolute := by
  -- Each count is read from the digits of the absolute value, and these are the same for the words compared.
  refine {
    length_zero := ?length_zero
    length_iff := ?length_iff
    count := x.bitCount_eq_count
    negative := ?negative
    converted := ?converted
    absolute := ⟨x.toInt_absolute, sameDigits_of_natAbs (by rw [toInt_absolute, Int.natAbs_natCast])⟩
    least := fun signed wide least => digits_of_least signed wide least
    logarithm := by rw [bitLength_eq_size, log2?_absolute]
    zeros := by rw [bitLength_eq_size, size_add_leadingZeros] }
  case length_zero =>
    intro zero
    rw [bitLength_eq_size, zero, Int.natAbs_zero, Nat.size_zero]
  case length_iff =>
    intro nonzero k
    rw [bitLength_eq_size]
    exact size_eq_iff (Int.natAbs_pos.mpr nonzero) k
  case negative =>
    -- Inside of the range the negative word has the negative integer.
    intro low high
    have integer := toInt_neg_of_inRange ⟨low, high⟩
    exact ⟨integer, sameDigits_of_natAbs (by rw [integer, Int.natAbs_neg])⟩
  case converted =>
    -- Inside of the range of the other type the conversion keeps the integer.
    intro u wide low high
    have integer : (x.convert u).toInt = x.toInt := toInt_ofInt wide ⟨low, high⟩
    exact ⟨integer, sameDigits_of_natAbs (by rw [integer])⟩

/-- The least word of 128 bits, and a negative word of eight bits next to its negative and to the same integer in 64 bits. -/
theorem digits_of_absolute_least :
    let least : Word ⟨true, 128⟩ := .ofInt _ (-170141183460469231731687303715884105728)
    let five : Word ⟨true, 8⟩ := .ofInt _ (-5)
    (least.bitLength = 128 ∧ least.bitCount = 1) ∧ least.absolute.SameDigits least ∧ five.bitLength = 3 ∧
      (-five).SameDigits five ∧ (five.convert .int64).SameDigits five := by
  -- The least word has no negative in its type, so that only the unsigned absolute value is compared with it.
  intro least five
  have wide := digits_of_absolute least
  have narrow := digits_of_absolute five
  refine ⟨wide.least rfl (by decide) (by decide), wide.absolute.2, ?_, ?_, ?_⟩
  · exact (narrow.length_iff (by decide) 3).mpr (by decide)
  · exact (narrow.negative (by decide) (by decide)).2
  · exact (narrow.converted .int64 (by decide) (by decide) (by decide)).2

end Word

end DynValue
