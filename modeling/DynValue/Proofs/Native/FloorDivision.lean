import DynValue.Proofs.Native.Homomorphism
import DynValue.Proofs.Word.Floor

/-! Floor division and its remainder belong together, on words of every width and on numbers of mixed widths. -/

namespace DynValue

/-- What floor division gives for a divisor that is not zero. -/
structure Word.FloorQuotient {t : IntType} (a b : Word t) : Prop where
  /-- The division that hands faults back gives the floor of the exact quotient, reduced to the width. -/
  checked : a.floorDiv b = .ok (ofInt t ⌊(a.toInt / b.toInt : ℚ)⌋)
  /-- The division that a fault ends gives the same. -/
  unchecked : a.floorDivOrAbort b = .ok (ofInt t ⌊(a.toInt / b.toInt : ℚ)⌋)
  /-- The reduction only matters for the least word over minus one. -/
  exact_iff : (t.least ≤ ⌊(a.toInt / b.toInt : ℚ)⌋ ∧ ⌊(a.toInt / b.toInt : ℚ)⌋ ≤ t.greatest) ↔
    ¬(a.toInt = t.least ∧ b.toInt = -1)
  /-- Where one is taken off the quotient that was cut toward zero, nothing is reduced. -/
  mended : cutUpward (a.remainder b) b = true → (a.quotient b - 1).toInt = (a.quotient b).toInt - 1

/-- A word as the remainder of two integers of its type, next to their quotient. -/
structure Word.FloorRemainder {t : IntType} (m n : Int) (rest : Word t) : Prop where
  /-- The words of the integers stand for them. -/
  operands : (ofInt t m).toInt = m ∧ (ofInt t n).toInt = n
  /-- The remainder is what the floor of the quotient leaves, exactly. -/
  exact_rest : rest.toInt = m - n * ⌊(m / n : ℚ)⌋
  /-- Under a positive divisor it is neither negative nor as large as the divisor. -/
  of_pos : 0 < n → 0 ≤ rest.toInt ∧ rest.toInt < n
  /-- Under a negative divisor it is neither positive nor as small as the divisor. -/
  of_neg : n < 0 → n < rest.toInt ∧ rest.toInt ≤ 0
  /-- Where the divisor is added to the remainder of the cut quotient, nothing is reduced. -/
  mended : cutUpward ((ofInt t m).remainder (ofInt t n)) (ofInt t n) = true →
    ((ofInt t m).remainder (ofInt t n) + ofInt t n).toInt = ((ofInt t m).remainder (ofInt t n)).toInt + n
  /-- Quotient times divisor plus remainder is the dividend, modulo two to the width. -/
  sum : ∃ quotient, (ofInt t m).floorDiv (ofInt t n) = .ok quotient ∧
    quotient * ofInt t n + rest = ofInt t m

namespace Word

variable {t : IntType} {a b : Word t}

/-- A divisor other than zero has the floor of the exact quotient, reduced to the width. -/
theorem floorQuotient (signed : t.signed = true) (nonzero : b.toInt ≠ 0) : a.FloorQuotient b := by
  have quotient := floorDiv?_eq_floor (a := a) signed nonzero
  refine ⟨by rw [floorDiv, quotient], by rw [floorDivOrAbort, quotient], ?_,
    toInt_quotient_sub_one signed nonzero⟩
  -- The range of a signed type starts at its least integer and ends before the negative of it.
  have limits := IntType.greatest_of_signed signed
  have dividend := a.toInt_inRange
  have divisor := b.toInt_inRange
  have around : - -t.least ≤ a.toInt ∧ a.toInt < -t.least := by omega
  have inRange := (floorSplit_floorMod (a := a) signed nonzero).inRange_iff around (by omega)
  rw [Int.neg_neg] at inRange
  rw [← inRange]
  omega

/-- A zero divisor is the same fault for both divisions. -/
theorem floorDiv_zero (zero : b.toInt = 0) :
    a.floorDiv b = .error (.zeroDivisor a.toInt) ∧
      a.floorDivOrAbort b = .error (Fault.zeroDivisor a.toInt).abort := by
  -- The divisor is tested before anything is divided.
  simp [floorDiv, floorDivOrAbort, floorDiv?, zero]

/-- The remainder of two integers in range has the sign of the divisor and completes the floor of the quotient. -/
theorem floorRemainder (signed : t.signed = true) {m n : Int} (first : t.least ≤ m ∧ m ≤ t.greatest)
    (second : t.least ≤ n ∧ n ≤ t.greatest) (wide : 0 < t.width) (nonzero : n ≠ 0) :
    FloorRemainder m n ((ofInt t m).floorMod (ofInt t n)) := by
  -- Both integers are those of their words, so that the split of the words is one of the integers.
  have dividend : (ofInt t m).toInt = m := toInt_ofInt wide first
  have divisor : (ofInt t n).toInt = n := toInt_ofInt wide second
  have proper : (ofInt t n).toInt ≠ 0 := by rwa [divisor]
  have split := floorSplit_floorMod (a := ofInt t m) signed proper
  rw [dividend, divisor] at split
  have between := split.rest
  refine ⟨⟨dividend, divisor⟩, by have := split.sum; omega, by omega, by omega, ?_, ?_⟩
  · intro upward
    rw [toInt_remainder_add signed proper upward, divisor]
  · -- The integers add up, and the words are their reductions.
    refine ⟨_, (floorQuotient signed proper).checked, ?_⟩
    rw [dividend, divisor, ← ofInt_toInt ((ofInt t m).floorMod (ofInt t n)), ← ofInt_mul, ← ofInt_add]
    congr 1
    rw [Int.mul_comm, split.sum]

end Word

namespace Number

/-- The integer of a number that is a word. -/
def integer? : Number → Option Int
  | .int32 n => some n.toInt
  | .int64 n => some n.toInt
  | .double _ => none

/-- The type in which two words are combined, the narrower one only for two words of it. -/
def commonType (x y : Number) : IntType :=
  if x.isShort && y.isShort then .int32 else .int64

variable {x y : Number} {m n : Int}

/-- Words are combined as the words of their integers in the common type. -/
theorem combine?_integers (operator : Operator) (first : x.integer? = some m) (second : y.integer? = some n) :
    x.combine? operator y =
      onWords operator (Word.ofInt (x.commonType y) m) (Word.ofInt (x.commonType y) n) := by
  -- Short words stay short among themselves, and next to a long one they are made long first.
  cases x <;> cases y <;> simp only [integer?, Option.some.injEq, reduceCtorEq] at first second <;>
    subst first second
  case int32.int32 a b =>
    show onWords operator a b = onWords operator (Word.ofInt .int32 a.toInt) (Word.ofInt .int32 b.toInt)
    rw [Word.ofInt_toInt, Word.ofInt_toInt]
  case int32.int64 a b =>
    show onWords operator (a.convert .int64) b = onWords operator (a.convert .int64) (Word.ofInt .int64 b.toInt)
    rw [Word.ofInt_toInt]
  case int64.int32 a b =>
    show onWords operator a (b.convert .int64) = onWords operator (Word.ofInt .int64 a.toInt) (b.convert .int64)
    rw [Word.ofInt_toInt]
  case int64.int64 a b =>
    show onWords operator a b = onWords operator (Word.ofInt .int64 a.toInt) (Word.ofInt .int64 b.toInt)
    rw [Word.ofInt_toInt, Word.ofInt_toInt]

/-- The integer of a word lies in the range of 64 bits. -/
theorem inRange_int64 (word : x.integer? = some m) : IntType.int64.least ≤ m ∧ m ≤ IntType.int64.greatest := by
  -- Both widths lie inside of the range, and floats have no integer.
  cases x with
  | int32 a => exact Option.some.inj word ▸ a.inRange_of_int32
  | int64 a => exact Option.some.inj word ▸ a.toInt_inRange
  | double z => contradiction

/-- The integers of two words lie in the range of their common type. -/
theorem inRange_commonType (first : x.integer? = some m) (second : y.integer? = some n) :
    ((x.commonType y).least ≤ m ∧ m ≤ (x.commonType y).greatest) ∧
      (x.commonType y).least ≤ n ∧ n ≤ (x.commonType y).greatest := by
  by_cases short : x.isShort = true ∧ y.isShort = true
  · -- Two words of 32 bits are the only ones that stay in 32 bits.
    cases x <;> cases y <;> simp [isShort] at short
    exact ⟨Option.some.inj first ▸ Word.toInt_inRange _, Option.some.inj second ▸ Word.toInt_inRange _⟩
  · rw [commonType, if_neg (by simpa using short)]
    exact ⟨inRange_int64 first, inRange_int64 second⟩

end Number

namespace Native

/-- Integers of values have the remainder of the integers they stand for. -/
theorem apply_mod_int {m n : Int} (first : IntType.int64.least ≤ m ∧ m ≤ IntType.int64.greatest)
    (second : IntType.int64.least ≤ n ∧ n ≤ IntType.int64.greatest) (nonzero : n ≠ 0) :
    ∃ rest : Word64, (Value.int (Word.ofInt _ m)).apply .mod (.int (Word.ofInt _ n)) = pure (.int rest) ∧
      Word.FloorRemainder m n rest := by
  -- The remainder of values is that of words, as the divisor is not zero.
  have remainder := Word.floorRemainder rfl first second (by decide) nonzero
  refine ⟨_, ?_, remainder⟩
  have proper : (Word.ofInt .int64 n).toInt ≠ 0 := by rwa [remainder.operands.2]
  simp [Value.apply, Value.mod, proper]

/--
Floor division and its remainder are those of the exact integers, whatever the width.

Words of a signed type have the floor of their exact quotient, reduced to the width, and both forms of division report a zero
divisor in the same words. Words of 32 and 64 bits in any mix have the remainder that goes with the floor, and so do the
integers of values.
-/
theorem divmod_exact :
    (∀ (t : IntType) (a b : Word t), t.signed = true → b.toInt ≠ 0 → a.FloorQuotient b) ∧
      (∀ (t : IntType) (a b : Word t), t.signed = true → b.toInt = 0 → ∃ fault : Fault,
        a.floorDiv b = .error fault ∧ fault.category = .divideByZero ∧
          a.floorDivOrAbort b = .error ⟨fault.display⟩) ∧
      ∀ (x y : Number) (m n : Int), x.integer? = some m → y.integer? = some n → n ≠ 0 →
        ∃ rest : Word (x.commonType y),
          x.toNative.combine? .mod y.toNative = some (pure ⟨.int (x.commonType y), rest⟩) ∧
            Word.FloorRemainder m n rest ∧
            ∃ same : Word64, (Value.int (Word.ofInt _ m)).apply .mod (.int (Word.ofInt _ n)) = pure (.int same) ∧
              same.toInt = rest.toInt := by
  refine ⟨fun t a b signed nonzero => Word.floorQuotient signed nonzero, ?_, ?_⟩
  · intro t a b _ zero
    obtain ⟨returned, aborted⟩ := Word.floorDiv_zero (a := a) zero
    exact ⟨_, returned, rfl, aborted⟩
  · intro x y m n first second nonzero
    obtain ⟨dividend, divisor⟩ := Number.inRange_commonType first second
    -- Both types of words are signed and have bits.
    have common : (x.commonType y).signed = true ∧ 0 < (x.commonType y).width := by
      unfold Number.commonType
      split <;> decide
    have remainder := Word.floorRemainder common.1 dividend divisor common.2 nonzero
    -- The remainder of values has the same integer, since the exact remainder fixes it.
    obtain ⟨same, applied, equal⟩ := apply_mod_int (Number.inRange_int64 first) (Number.inRange_int64 second) nonzero
    refine ⟨_, ?_, remainder, same, applied, ?_⟩
    · rw [Number.combine?_toNative, Number.combine?_integers .mod first second]
      rfl
    · rw [equal.exact_rest, remainder.exact_rest]

/-- The least word of eight bits over minus one is itself, and a remainder of mixed widths takes the divisor's sign. -/
theorem divmod_exact_limits :
    (Word.ofInt ⟨true, 8⟩ (-128)).floorDiv (Word.ofInt ⟨true, 8⟩ (-1)) = .ok (Word.ofInt ⟨true, 8⟩ (-128)) ∧
      (∃ fault : Fault, (Word.ofInt ⟨true, 128⟩ 7).floorDiv 0 = .error fault ∧ fault.category = .divideByZero ∧
        (Word.ofInt ⟨true, 128⟩ 7).floorDivOrAbort 0 = .error ⟨fault.display⟩) ∧
      ∃ rest : Word64, (Number.int32 (Word.ofInt _ (-7))).toNative.combine? .mod (Number.int64 3).toNative =
        some (pure ⟨.int .int64, rest⟩) ∧ 0 ≤ rest.toInt ∧ rest.toInt < 3 := by
  -- The quotient of the least word by minus one is one too large and is reduced to the least word.
  obtain ⟨quotients, zeros, remainders⟩ := divmod_exact
  refine ⟨?_, zeros _ _ _ rfl (by decide), ?_⟩
  · have quotient := (quotients ⟨true, 8⟩ (.ofInt _ (-128)) (.ofInt _ (-1)) rfl (by decide)).checked
    have operands : (Word.ofInt ⟨true, 8⟩ (-128)).toInt = -128 ∧ (Word.ofInt ⟨true, 8⟩ (-1)).toInt = -1 := by decide
    have floor : ⌊((-128 : Int) / (-1 : Int) : ℚ)⌋ = 128 := by norm_num
    rw [quotient, operands.1, operands.2, floor]
    decide
  · obtain ⟨rest, found, remainder, _⟩ :=
      remainders (.int32 (.ofInt _ (-7))) (.int64 3) (-7) 3 (by decide) (by decide) (by decide)
    exact ⟨rest, found, remainder.of_pos (by decide)⟩

end Native

end DynValue
