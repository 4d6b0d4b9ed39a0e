import DynValue.Text.Escaped
import DynValue.Value.Basic

/-! What can go wrong with an operation on values, and how it is worded. -/

namespace DynValue

/-- The categories of faults. -/
inductive Category where
  /-- A division by zero. -/
  | divideByZero
  /-- A subscript that selects nothing. -/
  | indexOutOfRange
  /-- A value of the wrong shape. -/
  | badValue
deriving DecidableEq

namespace Category

/-- The name of a category in debug forms. -/
def name : Category → String
  | .divideByZero => "DivideByZero"
  | .indexOutOfRange => "IndexOutOfRange"
  | .badValue => "BadValue"

/-- The words a category starts a message with. -/
def label : Category → String
  | .divideByZero => "division by zero"
  | .indexOutOfRange => "index out of range"
  | .badValue => "value error"

end Category

/-- The causes of faults. -/
inductive Fault where
  /-- An integer was divided by zero. -/
  | zeroDivisor (dividend : Int)
  /-- A position lies outside of a sequence. -/
  | noPosition (kind : Kind) (index : Int) (length : Nat)
  /-- A value has no positions. -/
  | notPositional (kind : Kind)
  /-- A value has no keys. -/
  | notKeyed (kind : Kind)
  /-- The elements of a value cannot be exchanged. -/
  | notAssignable (kind : Kind)
  /-- A value that has to be unpacked is no sequence. -/
  | notSequence (kind : Kind)
  /-- A sequence has another length than the one expected. -/
  | wrongLength (kind : Kind) (expected found : Nat)
  /-- A fault raised with a message of its own. -/
  | raised (category : Category) (message : String)
deriving DecidableEq

namespace Fault

/-- The category of a fault. -/
def category : Fault → Category
  | .zeroDivisor _ => .divideByZero
  | .noPosition .. => .indexOutOfRange
  | .notPositional _ => .indexOutOfRange
  | .notKeyed _ => .indexOutOfRange
  | .notAssignable _ => .indexOutOfRange
  | .notSequence _ => .badValue
  | .wrongLength .. => .badValue
  | .raised category _ => category

/-- What a fault says about its cause. -/
def message : Fault → String
  | .zeroDivisor dividend => s!"{dividend} // 0"
  | .noPosition kind index length => s!"{kind.name} index {index} for length {length}"
  | .notPositional kind => s!"`{kind.name}` object is not subscriptable by position"
  | .notKeyed kind => s!"`{kind.name}` object is not subscriptable by key"
  | .notAssignable kind => s!"`{kind.name}` object does not support item assignment"
  | .notSequence kind => s!"cannot unpack non-sequence `{kind.name}`"
  | .wrongLength kind expected found =>
    s!"expected a {kind.name} of length {expected}, but found one with length {found}"
  | .raised _ message => message

/-- The category and the message. -/
def display (fault : Fault) : String :=
  fault.category.label ++ ": " ++ fault.message

/-- The debug form, which names the category and escapes the message. -/
def debug (fault : Fault) : String :=
  "PyError \x7b kind: " ++ fault.category.name ++ " \x7b message: " ++
    String.ofList (Text.Escaped.encode fault.message.toList) ++ " \x7d \x7d"

end Fault

/-- The end of a call that does not hand its fault back: only a text is left of it. -/
structure Abort where
  /-- The text. -/
  message : String
deriving DecidableEq

/-- A fault ends a call with its category and message. -/
def Fault.abort (fault : Fault) : Abort := ⟨fault.display⟩

end DynValue
