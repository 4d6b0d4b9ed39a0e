import DynValue.Proofs.Binary.Order
import DynValue.Value.Arithmetic

/-!
Expressions over the operators of values.

An operator whose result is absent reports this by one record, and any other operator by none. No operator accepts an absent
operand, so that one absent value makes absent whatever it is a part of.
-/

namespace DynValue

/-- Whether an operator divides a number by a number that is zero, of either kind and sign. -/
def Value.dividesByZero (operator : Operator) (a b : Value) : Bool :=
  (operator = .div || operator = .mod) && (a.asFloat?.isSome && b.asFloat?.any Binary.isZero)

/-- An expression over the operators of values. -/
inductive Expression where
  /-- A value by itself. -/
  | constant (value : Value)
  /-- An operator between two expressions. -/
  | binary (operator : Operator) (left right : Expression)
  /-- The negative of an expression. -/
  | negative (operand : Expression)

namespace Expression

/-- The value of an expression; operands are evaluated from left to right, and before their operator. -/
def eval : Expression → Traced Value
  | .constant value => pure value
  | .binary operator left right => do
    let a ← left.eval
    let b ← right.eval
    a.apply operator b
  | .negative operand => do
    let a ← operand.eval
    a.negate

/-- The expression itself and all expressions inside of it. -/
def parts : Expression → List Expression
  | .constant value => [.constant value]
  | .binary operator left right => .binary operator left right :: (left.parts ++ right.parts)
  | .negative operand => .negative operand :: operand.parts

/-- The operators of an expression with their operands, in the order in which they are evaluated. -/
def operations : Expression → List Expression
  | .constant _ => []
  | .binary operator left right => left.operations ++ (right.operations ++ [.binary operator left right])
  | .negative operand => operand.operations ++ [.negative operand]

/-- The records that the outermost operator emits, those of its operands left aside. -/
def emitted : Expression → List Record
  | .constant _ => []
  | .binary operator left right => (left.eval.value.apply operator right.eval.value).records
  | .negative operand => operand.eval.value.negate.records

/-- Whether an expression has no result. -/
def isAbsent (expression : Expression) : Bool := expression.eval.value.kind = .null

/--
Whether a record is on the channel of operators and names the outermost operator and the kind of its first operand.

A division of numbers by zero has a wording of its own, and all other operands are said to be of kinds that do not go together.
-/
def IsReportedBy : Expression → Record → Prop
  | .constant _, _ => False
  | .binary operator left right, record =>
    let first := left.eval.value.kind.name
    let second := right.eval.value.kind.name
    record.channel = .operators ∧ record.message =
      if Value.dividesByZero operator left.eval.value right.eval.value then s!"`{first}` {operator.symbol} zero is None"
      else s!"unsupported operand types for {operator.symbol}: `{first}` and `{second}`"
  | .negative operand, record =>
    record.channel = .operators ∧
      record.message = s!"bad operand type for unary -: `{operand.eval.value.kind.name}`"

end Expression

/-- A computation that has a result and emits nothing, or has none and emits one record of which something holds. -/
def Traced.Settles (outcome : Traced Value) (claim : Record → Prop) : Prop :=
  outcome.value ≠ .null ∧ outcome.records = [] ∨
    outcome.value = .null ∧ ∃ record, outcome.records = [record] ∧ claim record

namespace Value

/-- The record that an operator without a result emits about its operands. -/
def complaint (operator : Operator) (a b : Value) : Record :=
  if dividesByZero operator a b then .zeroDivisor operator a.kind else .unsupported operator a.kind b.kind

/-- Operands that are not both numbers are not divided by zero. -/
theorem dividesByZero_of_not_numbers (operator : Operator) {a b : Value}
    (other : a.asFloat? = none ∨ b.asFloat? = none) : dividesByZero operator a b = false := by
  -- Whichever operand is no number, one of the two tests fails.
  obtain missing | missing := other <;> simp [dividesByZero, missing]

/-- A number is divided by zero exactly when the divisor is zero as a float. -/
theorem dividesByZero_of_numbers {operator : Operator} {a b : Value} {x y : Binary64}
    (divides : operator = .div ∨ operator = .mod) (first : a.asFloat? = some x) (second : b.asFloat? = some y) :
    dividesByZero operator a b = y.isZero := by
  -- Both operands are numbers, so that only the test for zero is left.
  obtain rfl | rfl := divides <;> simp [dividesByZero, first, second]

/-- A present result without a record settles an operator, whatever it could have complained about. -/
theorem settles_pure {value : Value} (present : value ≠ .null) (claim : Record → Prop) :
    (pure value : Traced Value).Settles claim :=
  .inl ⟨present, rfl⟩

/-- An operator that does not apply says so once. -/
theorem settles_unsupported {operator : Operator} {a b : Value} (refused : dividesByZero operator a b = false) :
    (unsupported operator a b).Settles (· = complaint operator a b) :=
  .inr ⟨rfl, _, rfl, by rw [complaint, refused]; rfl⟩

/-- A division by zero is reported once. -/
theorem settles_dividedByZero {operator : Operator} {a b : Value} (zero : dividesByZero operator a b = true) :
    (dividedByZero operator a).Settles (· = complaint operator a b) :=
  .inr ⟨rfl, _, rfl, by rw [complaint, zero]; rfl⟩

/-- An operation on floats is settled when it is so for the floats of the operands. -/
theorem settles_onFloats {operator : Operator} {a b : Value} {f : Binary64 → Binary64 → Traced Value}
    (each : ∀ x y, a.asFloat? = some x → b.asFloat? = some y → (f x y).Settles (· = complaint operator a b)) :
    (onFloats operator a b f).Settles (· = complaint operator a b) := by
  unfold onFloats
  split
  -- Either both operands are numbers, or one of them is refused.
  case h_1 x y first second => exact each x y first second
  case h_2 other =>
    refine settles_unsupported (dividesByZero_of_not_numbers operator ?_)
    cases first : a.asFloat? with
    | none => exact .inl rfl
    | some x =>
      cases second : b.asFloat? with
      | none => exact .inr rfl
      | some y => exact (other x y first second).elim

/-- A division of numbers is settled by whether the divisor is zero. -/
theorem settles_division {operator : Operator} {a b : Value} (divides : operator = .div ∨ operator = .mod)
    (quotient : Binary64 → Binary64 → Binary64) :
    (onFloats operator a b fun x y =>
      if y.isZero then dividedByZero operator a else pure (.float (quotient x y))).Settles
        (· = complaint operator a b) := by
  -- The complaint depends on the divisor through the same test that the division makes.
  refine settles_onFloats fun x y first second => ?_
  have tested := dividesByZero_of_numbers divides first second
  split
  case isTrue zero => exact settles_dividedByZero (tested.trans zero)
  case isFalse => exact settles_pure (by simp) _

/-- A sum is there or reported. -/
theorem settles_add (a b : Value) : (add a b).Settles (· = complaint .add a b) := by
  unfold add
  split
  -- Integers, texts and sequences have a sum, and only what is left is passed on as floats.
  case h_5 => exact settles_onFloats fun x y _ _ => settles_pure (by simp) _
  all_goals exact settles_pure (by simp) _

/-- A difference is there or reported. -/
theorem settles_sub (a b : Value) : (sub a b).Settles (· = complaint .sub a b) := by
  unfold sub
  split
  -- Two integers have a difference, and all else is passed on as floats.
  · exact settles_pure (by simp) _
  · exact settles_onFloats fun x y _ _ => settles_pure (by simp) _

/-- A product is there or reported. -/
theorem settles_mul (a b : Value) : (mul a b).Settles (· = complaint .mul a b) := by
  unfold mul
  split
  -- Integers have a product, texts and sequences are repeated, and only what is left is passed on as floats.
  case h_8 => exact settles_onFloats fun x y _ _ => settles_pure (by simp) _
  all_goals exact settles_pure (by simp) _

/-- A remainder is there or reported. -/
theorem settles_mod (a b : Value) : (mod a b).Settles (· = complaint .mod a b) := by
  unfold mod
  split
  case h_1 x y =>
    -- Integers have a test for zero of their own, which agrees with that of the floats.
    have tested : dividesByZero .mod (.int x) (.int y) = decide (y.toInt = 0) :=
      (dividesByZero_of_numbers (.inr rfl) rfl rfl).trans (Binary.isZero_ofInt .double y.toInt)
    split
    case isTrue zero => exact settles_dividedByZero (tested.trans (decide_eq_true zero))
    case isFalse => exact settles_pure (by simp) _
  case h_2 => exact settles_division (.inr rfl) Binary.floorMod

/-- A bitwise operation is there or reported. -/
theorem settles_bitwise {operator : Operator} (undivided : ∀ a b, dividesByZero operator a b = false)
    (onWords : Word64 → Word64 → Word64) (onBools : Bool → Bool → Bool) (a b : Value) :
    (bitwise operator onWords onBools a b).Settles (· = complaint operator a b) := by
  unfold bitwise
  split
  -- Words and truth values are combined in any mix, and all else is refused.
  case h_5 => exact settles_unsupported (undivided _ _)
  all_goals exact settles_pure (by simp) _

/-- Every operator has a result and emits nothing, or has none and emits one record about its operands. -/
theorem settles_apply (operator : Operator) (a b : Value) :
    (a.apply operator b).Settles (· = complaint operator a b) := by
  cases operator with
  | add => exact settles_add a b
  | sub => exact settles_sub a b
  | mul => exact settles_mul a b
  | div => exact settles_division (.inl rfl) (· / ·)
  | mod => exact settles_mod a b
  -- No bitwise operator divides.
  | and => exact settles_bitwise (fun _ _ => rfl) _ _ a b
  | or => exact settles_bitwise (fun _ _ => rfl) _ _ a b
  | xor => exact settles_bitwise (fun _ _ => rfl) _ _ a b

/-- Negation has a result and emits nothing, or has none and emits one record about its operand. -/
theorem settles_negate (a : Value) : a.negate.Settles (· = .unsupportedNegation a.kind) := by
  -- Every kind without a negative falls into the last case.
  unfold negate
  split
  case h_4 => exact .inr ⟨rfl, _, rfl, rfl⟩
  all_goals exact settles_pure (by simp) _

/-- Only the absent value is of its kind. -/
theorem kind_eq_null_iff {a : Value} : a.kind = .null ↔ a = .null := by
  -- There is one value of this kind, and it has no data.
  cases a <;> simp [kind]

/-- No operator accepts an absent operand. -/
theorem apply_null (operator : Operator) (a b : Value) (absent : a = .null ∨ b = .null) :
    (a.apply operator b).value = .null := by
  obtain rfl | rfl := absent
  · cases operator <;> rfl
  -- Behind another operand it depends on that one which test refuses the absent value.
  · cases operator <;> cases a <;> rfl

end Value

namespace Expression

/-- An operator inside of an expression is settled by what it emits itself. -/
theorem settles_emitted {expression operation : Expression} (member : operation ∈ expression.operations) :
    Traced.Settles ⟨operation.eval.value, operation.emitted⟩ operation.IsReportedBy := by
  -- The operators of an expression are those of its operands and the outermost one.
  induction expression with
  | constant value => simp [operations] at member
  | binary operator left right leftIH rightIH =>
    simp only [operations, List.mem_append, List.mem_singleton] at member
    obtain inLeft | inRight | rfl := member
    · exact leftIH inLeft
    · exact rightIH inRight
    · -- The wording of the record follows the same case distinction as the record itself.
      obtain present | ⟨absent, _, emission, rfl⟩ :=
        Value.settles_apply operator left.eval.value right.eval.value
      · exact .inl present
      · refine .inr ⟨absent, _, emission, ?_⟩
        simp only [IsReportedBy, Value.complaint]
        split <;> exact ⟨rfl, rfl⟩
  | negative operand ih =>
    simp only [operations, List.mem_append, List.mem_singleton] at member
    obtain inside | rfl := member
    · exact ih inside
    · -- The record of a negation has one wording only.
      obtain present | ⟨absent, record, emission, rfl⟩ := Value.settles_negate operand.eval.value
      · exact .inl present
      · exact .inr ⟨absent, _, emission, rfl, rfl⟩

/-- Whatever an operator reports is on the channel of operators. -/
theorem channel_of_isReportedBy {operation : Expression} {record : Record} (reported : operation.IsReportedBy record) :
    record.channel = .operators := by
  -- A constant reports nothing, and the operators say the channel first.
  cases operation with
  | constant value => exact reported.elim
  | binary operator left right => exact reported.1
  | negative operand => exact reported.1

/-- The records of an expression are those of its operators, in the order in which they are evaluated. -/
theorem records_eval (expression : Expression) :
    expression.eval.records = expression.operations.flatMap emitted := by
  -- The trace of a sequence of computations is the traces one behind the other.
  induction expression with
  | constant value => rfl
  | binary operator left right leftIH rightIH =>
    rw [operations, List.flatMap_append, List.flatMap_append, ← leftIH, ← rightIH, List.flatMap_singleton]
    rfl
  | negative operand ih =>
    rw [operations, List.flatMap_append, ← ih, List.flatMap_singleton]
    rfl

/-- An absent part of an expression makes all of it absent. -/
theorem eval_eq_null {expression part : Expression} (member : part ∈ expression.parts)
    (absent : part.eval.value = .null) : expression.eval.value = .null := by
  -- Each operator on the way from the part to the whole has an absent operand.
  induction expression with
  | constant value =>
    rw [parts, List.mem_singleton] at member
    rwa [← member]
  | binary operator left right leftIH rightIH =>
    simp only [parts, List.mem_cons, List.mem_append] at member
    obtain rfl | inLeft | inRight := member
    · exact absent
    · exact Value.apply_null operator _ _ (.inl (leftIH inLeft))
    · exact Value.apply_null operator _ _ (.inr (rightIH inRight))
  | negative operand ih =>
    rw [parts, List.mem_cons] at member
    obtain rfl | inside := member
    · exact absent
    · have poisoned : operand.eval.value.negate.value = .null := by rw [ih inside]; rfl
      exact poisoned

/-- Operators that are each settled emit as many records on their channel as there are operators without a result. -/
theorem length_reported {operations : List Expression}
    (each : ∀ operation ∈ operations, Traced.Settles ⟨operation.eval.value, operation.emitted⟩ operation.IsReportedBy) :
    ((operations.flatMap emitted).filter fun record => record.channel = .operators).length =
      (operations.filter isAbsent).length := by
  -- The operators are gone through one by one, and each adds to both sides or to neither.
  induction operations with
  | nil => rfl
  | cons operation rest ih =>
    obtain ⟨head, tail⟩ := List.forall_mem_cons.mp each
    rw [List.flatMap_cons, List.filter_append, List.length_append, ih tail, List.filter_cons]
    -- The first operator adds a record exactly when it is counted among those without a result.
    obtain ⟨present, silent⟩ | ⟨absent, record, emission, reported⟩ := head
    · have kept : operation.isAbsent = false := by
        simpa [isAbsent, Value.kind_eq_null_iff] using present
      have silent : operation.emitted = [] := silent
      simp [kept, silent]
    · have dropped : operation.isAbsent = true := by
        simpa [isAbsent, Value.kind_eq_null_iff] using absent
      have emission : operation.emitted = [record] := emission
      simp [dropped, emission, channel_of_isReportedBy reported, Nat.add_comm]

/--
An absent value poisons every expression around it, and every absorption is reported once.

The records are those that the operators emit in the order of evaluation. An operator without a result emits one, which names
it and the kind of its first operand and says whether it was a division by zero, and an operator with a result emits none, so
that there are as many records as operators without a result.
-/
theorem eval_absorption (expression : Expression) :
    (∀ part ∈ expression.parts, part.eval.value = .null → expression.eval.value = .null) ∧
      expression.eval.records = expression.operations.flatMap emitted ∧
      (∀ operation ∈ expression.operations,
        (operation.eval.value = .null → ∃ record, operation.emitted = [record] ∧ operation.IsReportedBy record) ∧
          (operation.eval.value ≠ .null → operation.emitted = [])) ∧
      (expression.eval.records.filter fun record => record.channel = .operators).length =
        (expression.operations.filter isAbsent).length := by
  -- The poisoning goes up from a part, the records are gathered on the way, and each operator settles its own.
  refine ⟨fun part => eval_eq_null, records_eval expression, ?_, ?_⟩
  · intro operation member
    obtain ⟨present, silent⟩ | ⟨absent, emission⟩ := settles_emitted member
    · exact ⟨fun absent => absurd absent present, fun _ => silent⟩
    · exact ⟨fun _ => emission, fun present => absurd absent present⟩
  · rw [records_eval]
    exact length_reported fun operation => settles_emitted

/-- A quotient by zero inside of a sum absorbs the sum and all around it, with one record for each operator. -/
theorem eval_absorption_quotient :
    (eval (.negative (.binary .add (.constant (.str "a"))
        (.binary .div (.constant (.int 1)) (.constant (.float (Binary.zero true))))))).value = .null ∧
      ((eval (.negative (.binary .add (.constant (.str "a"))
        (.binary .div (.constant (.int 1)) (.constant (.float (Binary.zero true))))))).records.filter fun record =>
          record.channel = .operators).length = 3 := by
  -- The quotient is a part of the sum, and each of the three operators is left without a result.
  obtain ⟨poisoned, _, _, counted⟩ := eval_absorption (.negative (.binary .add (.constant (.str "a"))
    (.binary .div (.constant (.int 1)) (.constant (.float (Binary.zero true))))))
  refine ⟨poisoned (.binary .div (.constant (.int 1)) (.constant (.float (Binary.zero true)))) ?_ rfl, counted.trans rfl⟩
  simp [parts]

end Expression

end DynValue
