import DynValue.Fault

/-! Records of absorbed and raised faults, and computations that emit them. -/

namespace DynValue

/-- The binary operators of values. -/
inductive Operator where
  /-- Addition and concatenation. -/
  | add
  /-- Subtraction. -/
  | sub
  /-- Multiplication and repetition. -/
  | mul
  /-- Division. -/
  | div
  /-- The remainder with the sign of the divisor. -/
  | mod
  /-- Bitwise and. -/
  | and
  /-- Bitwise or. -/
  | or
  /-- Bitwise exclusive or. -/
  | xor
deriving DecidableEq

/-- The symbol of an operator. -/
def Operator.symbol : Operator → String
  | .add => "+"
  | .sub => "-"
  | .mul => "*"
  | .div => "/"
  | .mod => "%"
  | .and => "&"
  | .or => "|"
  | .xor => "^"

/-- The parts of the library that emit records. -/
inductive Channel where
  /-- The operators of values. -/
  | operators
  /-- Subscripts that must select something. -/
  | subscripts
deriving DecidableEq

/-- A record of something that went wrong. -/
inductive Record where
  /-- An operator does not apply to values of these kinds. -/
  | unsupported (operator : Operator) (left right : Kind)
  /-- A value of this kind was divided by zero. -/
  | zeroDivisor (operator : Operator) (left : Kind)
  /-- A value of this kind has no negative. -/
  | unsupportedNegation (kind : Kind)
  /-- A subscript failed. -/
  | subscriptFailed (fault : Fault)
deriving DecidableEq

namespace Record

/-- The channel a record is emitted on. -/
def channel : Record → Channel
  | .unsupported .. => .operators
  | .zeroDivisor .. => .operators
  | .unsupportedNegation _ => .operators
  | .subscriptFailed _ => .subscripts

/-- What a record says. -/
def message : Record → String
  | .unsupported operator left right =>
    s!"unsupported operand types for {operator.symbol}: `{left.name}` and `{right.name}`"
  | .zeroDivisor operator left => s!"`{left.name}` {operator.symbol} zero is None"
  | .unsupportedNegation kind => s!"bad operand type for unary -: `{kind.name}`"
  | .subscriptFailed fault => s!"operator index failed: {fault.display}"

end Record

/-- A result together with the records emitted on the way, in order. -/
structure Traced (α : Type) where
  /-- The result. -/
  value : α
  /-- The records. -/
  records : List Record

namespace Traced

/-- Runs a computation on the result of another, with the records of both. -/
def andThen {α β : Type} (first : Traced α) (next : α → Traced β) : Traced β :=
  let second := next first.value
  ⟨second.value, first.records ++ second.records⟩

/-- Computations one after the other emit their records one after the other. -/
instance : Monad Traced where
  pure value := ⟨value, []⟩
  bind := andThen

/-- Records only accumulate, so that the order in which computations are joined does not matter. -/
instance : LawfulMonad Traced :=
  LawfulMonad.mk' Traced
    (fun computation => congrArg (Traced.mk computation.value) (List.append_nil computation.records))
    (fun _ _ => rfl)
    (fun first second third => congrArg (Traced.mk _)
      (List.append_assoc first.records (second first.value).records _))

/-- Taken one by one, elements give the results that each of them gives alone. -/
theorem value_mapM {α β : Type} (f : α → Traced β) (items : List α) :
    (items.mapM f).value = items.map fun item => (f item).value := by
  -- The records are gathered beside the results, and the result of a step never depends on them.
  induction items with
  | nil => rfl
  | cons item rest ih =>
    rw [List.mapM_cons, List.map_cons, ← ih]
    rfl

/-- A result that is reported by one record. -/
def report {α : Type} (record : Record) (value : α) : Traced α := ⟨value, [record]⟩

end Traced

end DynValue
