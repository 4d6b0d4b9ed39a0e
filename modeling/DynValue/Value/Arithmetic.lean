import DynValue.Repetition
import DynValue.Trace
import DynValue.Value.Coerce
import DynValue.Word.Floor

/-! The operators of values; operands they do not apply to give the absent value and one record. -/

namespace DynValue

namespace Value

/-- The absent value, with a record that an operator does not apply. -/
def unsupported (operator : Operator) (a b : Value) : Traced Value :=
  .report (.unsupported operator a.kind b.kind) .null

/-- The absent value, with a record that a value was divided by zero. -/
def dividedByZero (operator : Operator) (a : Value) : Traced Value :=
  .report (.zeroDivisor operator a.kind) .null

/-- An operation on the floats of two numbers. -/
def onFloats (operator : Operator) (a b : Value) (f : Binary64 → Binary64 → Traced Value) :
    Traced Value :=
  match a.asFloat?, b.asFloat? with
  | some x, some y => f x y
  | _, _ => unsupported operator a b

/-- The sum of numbers, or the concatenation of texts, lists or tuples. -/
def add : Value → Value → Traced Value
  | .int a, .int b => pure (.int (a + b))
  | .str a, .str b => pure (.str (a ++ b))
  | .list a, .list b => pure (.list (a ++ b))
  | .tuple a, .tuple b => pure (.tuple (a ++ b))
  | a, b => onFloats .add a b fun x y => pure (.float (x + y))

/-- The difference of numbers. -/
def sub : Value → Value → Traced Value
  | .int a, .int b => pure (.int (a - b))
  | a, b => onFloats .sub a b fun x y => pure (.float (x - y))

/-- The product of numbers, or a text, list or tuple repeated. -/
def mul : Value → Value → Traced Value
  | .int a, .int b => pure (.int (a * b))
  | .str text, .int times => pure (.str (repeatedText text times.toInt))
  | .int times, .str text => pure (.str (repeatedText text times.toInt))
  | .list items, .int times => pure (.list (repeated items times.toInt))
  | .int times, .list items => pure (.list (repeated items times.toInt))
  | .tuple items, .int times => pure (.tuple (repeated items times.toInt))
  | .int times, .tuple items => pure (.tuple (repeated items times.toInt))
  | a, b => onFloats .mul a b fun x y => pure (.float (x * y))

/-- The quotient of numbers, which is always a float. -/
def div (a b : Value) : Traced Value :=
  -- The divisor is tested as a float, so that zeros of both kinds and signs count.
  onFloats .div a b fun x y => if y.isZero then dividedByZero .div a else pure (.float (x / y))

/-- The remainder of numbers, with the sign of the divisor. -/
def mod (a b : Value) : Traced Value :=
  match a, b with
  -- Integers keep their remainder exact instead of passing through floats.
  | .int x, .int y =>
    if y.toInt = 0 then dividedByZero .mod a else pure (.int (x.floorMod y))
  | a, b =>
    onFloats .mod a b fun x y => if y.isZero then dividedByZero .mod a else pure (.float (x.floorMod y))

/-- A bitwise operation on integers and truth values, which gives a truth value only for two of them. -/
def bitwise (operator : Operator) (onWords : Word64 → Word64 → Word64) (onBools : Bool → Bool → Bool) :
    Value → Value → Traced Value
  | .int a, .int b => pure (.int (onWords a b))
  | .bool a, .bool b => pure (.bool (onBools a b))
  | .int a, .bool b => pure (.int (onWords a (Word.ofInt _ b.toInt)))
  | .bool a, .int b => pure (.int (onWords (Word.ofInt _ a.toInt) b))
  | a, b => unsupported operator a b

/-- The value of an operator at two operands. -/
def apply : Operator → Value → Value → Traced Value
  | .add => add
  | .sub => sub
  | .mul => mul
  | .div => div
  | .mod => mod
  | .and => bitwise .and (· &&& ·) (· && ·)
  | .or => bitwise .or (· ||| ·) (· || ·)
  | .xor => bitwise .xor (· ^^^ ·) (· != ·)

/-- The negative of a number or truth value. -/
def negate : Value → Traced Value
  | .int number => pure (.int (-number))
  | .float number => pure (.float (-number))
  | .bool truth => pure (.int (Word.ofInt _ (-truth.toInt)))
  | other => .report (.unsupportedNegation other.kind) .null

/-- Takes a value out of its place, in which the absent value is left. -/
def take : StateT Value Traced Value := do
  let taken ← get
  set Value.null
  pure taken

/-- Combines a value in its place with an operand: it is taken out, and the result is put back. -/
def operateInPlace (operator : Operator) (operand : Value) : StateT Value Traced Unit := do
  let taken ← take
  let result ← taken.apply operator operand
  set result

/-- Whatever was in a place, the result of the operator is in it afterwards. -/
theorem operateInPlace_run (operator : Operator) (operand state : Value) :
    (operateInPlace operator operand).run state = (fun result => ((), result)) <$> state.apply operator operand := by
  -- Taking the value out emits nothing, and what is left in the meantime is overwritten.
  simp [operateInPlace, take]

end Value

end DynValue
