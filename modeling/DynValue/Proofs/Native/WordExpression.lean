import DynValue.Proofs.Native.Homomorphism
import DynValue.Proofs.Value.Expression

/-!
Expressions over integers compute with words of 64 bits.

The operators of values, the native ones and those between a native word and a value all wrap in the same way, so that an
inner overflow does no harm: the result is that of the exact integers, reduced once.
-/

namespace DynValue

/-- The operators under which integers stay integers. -/
inductive WordOperator where
  /-- Addition. -/
  | add
  /-- Subtraction. -/
  | sub
  /-- Multiplication. -/
  | mul
  /-- Bitwise and. -/
  | and
  /-- Bitwise or. -/
  | or
  /-- Bitwise exclusive or. -/
  | xor

namespace WordOperator

/-- The operator of values. -/
def operator : WordOperator → Operator
  | .add => .add
  | .sub => .sub
  | .mul => .mul
  | .and => .and
  | .or => .or
  | .xor => .xor

/-- The operation on patterns of bits. -/
def onBits {width : Nat} : WordOperator → BitVec width → BitVec width → BitVec width
  | .add => (· + ·)
  | .sub => (· - ·)
  | .mul => (· * ·)
  | .and => (· &&& ·)
  | .or => (· ||| ·)
  | .xor => (· ^^^ ·)

/-- The operation on unbounded integers, for the operators that do not look at bits. -/
def onIntegers? : WordOperator → Option (Int → Int → Int)
  | .add => some (· + ·)
  | .sub => some (· - ·)
  | .mul => some (· * ·)
  | _ => none

/-- Whether an operator looks at the bits of its operands. -/
def isBitwise : WordOperator → Bool
  | .and | .or | .xor => true
  | _ => false

end WordOperator

/-- An expression over integers. -/
inductive WordExpression where
  /-- An integer by itself. -/
  | constant (word : Word64)
  /-- An operator between two expressions. -/
  | binary (operator : WordOperator) (left right : WordExpression)
  /-- The negative of an expression. -/
  | negative (operand : WordExpression)

namespace WordExpression

/-- The expression over values. -/
def toExpression : WordExpression → Expression
  | .constant word => .constant (.int word)
  | .binary operator left right => .binary operator.operator left.toExpression right.toExpression
  | .negative operand => .negative operand.toExpression

/-- The pattern of 64 bits that the expression evaluates to. -/
def bits : WordExpression → BitVec IntType.int64.width
  | .constant word => word.bits
  | .binary operator left right => operator.onBits left.bits right.bits
  | .negative operand => -operand.bits

/-- The unbounded integer that the expression evaluates to, if no operator looks at bits. -/
def integer? : WordExpression → Option Int
  | .constant word => some word.toInt
  | .binary operator left right => do
    let onIntegers ← operator.onIntegers?
    let a ← left.integer?
    let b ← right.integer?
    pure (onIntegers a b)
  | .negative operand => do
    let a ← operand.integer?
    pure (-a)

/--
The native evaluation of an expression, in which right operands are handed over in some way.

There is no native negation, and no native operator that looks at bits.
-/
def evalNative? (hand : Native → Native) : WordExpression → Option (Traced Native)
  | .constant word => some (pure ⟨.int .int64, word⟩)
  | .binary operator left right => do
    let a ← left.evalNative? hand
    let b ← right.evalNative? hand
    let outcome ← a.value.combine? operator.operator (hand b.value)
    pure (a.andThen fun _ => b.andThen fun _ => outcome)
  | .negative _ => none

/-- Whether no operator of the expression looks at bits. -/
def isArithmetic : WordExpression → Bool
  | .constant _ => true
  | .binary operator left right => !operator.isBitwise && left.isArithmetic && right.isArithmetic
  | .negative operand => operand.isArithmetic

/-- Whether the expression consists of sums, differences and products alone. -/
def isPolynomial : WordExpression → Bool
  | .constant _ => true
  | .binary operator left right => !operator.isBitwise && left.isPolynomial && right.isPolynomial
  | .negative _ => false

/-- An operator between integers gives the integer of the patterns of bits, and no record. -/
theorem apply_int (operator : WordOperator) (a b : Word64) :
    (Value.int a).apply operator.operator (.int b) = pure (.int ⟨operator.onBits a.bits b.bits⟩) := by
  -- Each operator is carried out on the bits of the two words.
  cases operator <;> rfl

/-- Over values an expression evaluates to an integer, and nothing is recorded. -/
theorem eval_toExpression (expression : WordExpression) :
    expression.toExpression.eval = pure (.int ⟨expression.bits⟩) := by
  -- The operands are integers without a record, and so is the result.
  induction expression with
  | constant word => rfl
  | binary operator left right leftIH rightIH =>
    rw [toExpression, Expression.eval, leftIH, rightIH, pure_bind, pure_bind]
    exact apply_int operator _ _
  | negative operand ih =>
    rw [toExpression, Expression.eval, ih, pure_bind]
    rfl

/-- An operator that does not look at bits agrees with the one on integers, modulo the number of patterns. -/
theorem onBits_ofInt {operator : WordOperator} (arithmetic : operator.isBitwise = false) :
    ∃ onIntegers, operator.onIntegers? = some onIntegers ∧ ∀ m n : Int,
      (⟨operator.onBits (Word.ofInt .int64 m).bits (Word.ofInt .int64 n).bits⟩ : Word64) =
        Word.ofInt .int64 (onIntegers m n) := by
  -- Reducing integers to words respects sums, differences and products, and the other operators are excluded.
  cases operator with
  | add => exact ⟨_, rfl, fun m n => (Word.ofInt_add m n).symm⟩
  | sub => exact ⟨_, rfl, fun m n => (Word.ofInt_sub m n).symm⟩
  | mul => exact ⟨_, rfl, fun m n => (Word.ofInt_mul m n).symm⟩
  | and | or | xor => contradiction

/-- An expression that does not look at bits has the bits of its exact integer, whatever overflows inside of it. -/
theorem bits_of_arithmetic {expression : WordExpression} (arithmetic : expression.isArithmetic = true) :
    ∃ n, expression.integer? = some n ∧ (⟨expression.bits⟩ : Word64) = Word.ofInt .int64 n := by
  -- Reduction commutes with every operator, so that it may wait until the end.
  induction expression with
  | constant word => exact ⟨_, rfl, word.ofInt_toInt.symm⟩
  | binary operator left right leftIH rightIH =>
    simp only [isArithmetic, Bool.and_eq_true, Bool.not_eq_true'] at arithmetic
    obtain ⟨⟨kept, inLeft⟩, inRight⟩ := arithmetic
    obtain ⟨m, leftInteger, leftBits⟩ := leftIH inLeft
    obtain ⟨n, rightInteger, rightBits⟩ := rightIH inRight
    obtain ⟨onIntegers, defined, agree⟩ := onBits_ofInt kept
    refine ⟨onIntegers m n, by simp [integer?, leftInteger, rightInteger, defined], ?_⟩
    -- The operands have the bits of exact integers, though they need not be these integers.
    rw [← agree, ← leftBits, ← rightBits]
    rfl
  | negative operand ih =>
    obtain ⟨n, integer, inside⟩ := ih arithmetic
    refine ⟨-n, by simp [integer?, integer], ?_⟩
    rw [Word.ofInt_neg, ← inside]
    rfl

/-- The word of an integer has the one integer in its range that differs by a multiple of the number of patterns. -/
theorem toInt_ofInt_int64 (n : Int) : (Word.ofInt .int64 n).toInt = n.bmod (Nat.pow 2 64) :=
  BitVec.toInt_ofInt n

/-- A datum as a value. -/
def asValue (datum : Native) : Native := ⟨.value, datum.toValue⟩

/-- Native words, the second of them as it is or as a value, are combined by their patterns of bits. -/
theorem combine?_words {operator : WordOperator} (arithmetic : operator.isBitwise = false) (a b : Word64)
    {hand : Native → Native} (handed : hand = id ∨ hand = asValue) :
    Native.combine? operator.operator ⟨.int .int64, a⟩ (hand ⟨.int .int64, b⟩) =
      some (pure ⟨.int .int64, ⟨operator.onBits a.bits b.bits⟩⟩) := by
  obtain rfl | rfl := handed
  · -- Two words of 64 bits are combined as such.
    have numbers := Number.combine?_toNative operator.operator (.int64 a) (.int64 b)
    refine numbers.trans ?_
    cases operator with
    | add | sub | mul => rfl
    | and | or | xor => contradiction
  · -- The integer of the value is the word it was made from.
    rw [asValue, Native.toValue_int64]
    simp only [Native.combine?, Number.ofNative?_int64, Option.bind_some]
    cases operator with
    | add | sub | mul => rfl
    | and | or | xor => contradiction

/-- The native evaluations of sums, differences and products give the same word, and record nothing. -/
theorem evalNative?_eq {expression : WordExpression} (polynomial : expression.isPolynomial = true)
    {hand : Native → Native} (handed : hand = id ∨ hand = asValue) :
    expression.evalNative? hand = some (pure ⟨.int .int64, ⟨expression.bits⟩⟩) := by
  induction expression with
  | constant word => rfl
  | binary operator left right leftIH rightIH =>
    -- Neither operand has records, so that the operator works on their words.
    simp only [isPolynomial, Bool.and_eq_true, Bool.not_eq_true'] at polynomial
    obtain ⟨⟨kept, inLeft⟩, inRight⟩ := polynomial
    have step := combine?_words kept ⟨left.bits⟩ ⟨right.bits⟩ handed
    rw [evalNative?, leftIH inLeft, rightIH inRight]
    simp only [Option.bind_eq_bind, Option.bind_some, pure]
    rw [step]
    rfl
  | negative operand => contradiction

/--
Expressions over integers compute in two's complement with 64 bits.

Over values every expression gives the integer of its pattern of bits, never the absent value and never a record. Without
operators that look at bits, this is the exact integer reduced to the range of 64 bits. The native operators, between two
words or between a word and a value to its right, give the same word for sums, differences and products.
-/
theorem eval_twosComplement (expression : WordExpression) :
    expression.toExpression.eval = pure (.int ⟨expression.bits⟩) ∧
      (expression.isArithmetic = true → ∃ n, expression.integer? = some n ∧
        (⟨expression.bits⟩ : Word64).toInt = n.bmod (Nat.pow 2 64)) ∧
      (expression.isPolynomial = true →
        expression.evalNative? id = some (pure ⟨.int .int64, ⟨expression.bits⟩⟩) ∧
          expression.evalNative? asValue = some (pure ⟨.int .int64, ⟨expression.bits⟩⟩)) := by
  -- The word is the same whether it is computed from bits, from integers or by native operators.
  refine ⟨eval_toExpression expression, ?_, ?_⟩
  · intro arithmetic
    obtain ⟨n, integer, reduced⟩ := bits_of_arithmetic arithmetic
    exact ⟨n, integer, by rw [reduced, toInt_ofInt_int64]⟩
  · intro polynomial
    exact ⟨evalNative?_eq polynomial (.inl rfl), evalNative?_eq polynomial (.inr rfl)⟩

/-- The square of the greatest word overflows, and what is taken from it then gives the same word on all ways. -/
theorem eval_twosComplement_limits :
    let greatest : WordExpression := .constant (Word.ofInt _ 9223372036854775807)
    let expression : WordExpression := .binary .sub (.binary .mul greatest greatest) greatest
    let word : Word64 := Word.ofInt _ (-9223372036854775806)
    expression.toExpression.eval = pure (.int word) ∧
      (∃ n, expression.integer? = some n ∧ word.toInt = n.bmod (Nat.pow 2 64)) ∧
      expression.evalNative? id = some (pure ⟨.int .int64, word⟩) ∧
      expression.evalNative? asValue = some (pure ⟨.int .int64, word⟩) := by
  -- The pattern of bits is computed once, and the laws say that all ways lead to it.
  intro greatest expression word
  have same : (⟨expression.bits⟩ : Word64) = word := by decide
  obtain ⟨value, arithmetic, polynomial⟩ := eval_twosComplement expression
  rw [same] at value arithmetic polynomial
  exact ⟨value, arithmetic rfl, polynomial rfl⟩

end WordExpression

end DynValue
