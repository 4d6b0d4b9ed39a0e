import DynValue.Binary.Rounding
import DynValue.Word.Basic

/-! Dynamically typed values, their kinds, and the views of one kind. -/

namespace DynValue

/-- Integers of values are signed words of 64 bits. -/
abbrev Word64 := Word .int64

/--
A dynamically typed value.

A dict is the list of its entries in the order of insertion. Its keys are pairwise different as long as it is built by the
operations on entries.
-/
inductive Value where
  /-- The value that stands for the absence of one. -/
  | null
  /-- A truth value. -/
  | bool (truth : Bool)
  /-- An integer. -/
  | int (number : Word64)
  /-- A floating-point number. -/
  | float (number : Binary64)
  /-- A text. -/
  | str (text : String)
  /-- A sequence whose elements can be exchanged. -/
  | list (items : List Value)
  /-- A sequence that does not change. -/
  | tuple (items : List Value)
  /-- A mapping from keys to values. -/
  | dict (entries : List (Value × Value))
deriving Inhabited

/-- The kinds of values, in the order in which values of different kinds are sorted. -/
inductive Kind where
  /-- The kind of the absent value. -/
  | null
  /-- The kind of truth values. -/
  | bool
  /-- The kind of integers. -/
  | int
  /-- The kind of floating-point numbers. -/
  | float
  /-- The kind of texts. -/
  | str
  /-- The kind of lists. -/
  | list
  /-- The kind of tuples. -/
  | tuple
  /-- The kind of dicts. -/
  | dict
deriving DecidableEq

namespace Kind

/-- The name of a kind in messages. -/
def name : Kind → String
  | .null => "NoneType"
  | .bool => "bool"
  | .int => "int"
  | .float => "float"
  | .str => "str"
  | .list => "list"
  | .tuple => "tuple"
  | .dict => "dict"

/-- The place of a kind among all kinds. -/
def rank : Kind → Nat
  | .null => 0
  | .bool => 1
  | .int => 2
  | .float => 3
  | .str => 4
  | .list => 5
  | .tuple => 6
  | .dict => 7

end Kind

namespace Value

/-- The kind of a value. -/
def kind : Value → Kind
  | .null => .null
  | .bool _ => .bool
  | .int _ => .int
  | .float _ => .float
  | .str _ => .str
  | .list _ => .list
  | .tuple _ => .tuple
  | .dict _ => .dict

/-- The size of a value: bytes of a text, elements of a sequence, entries of a dict, and zero otherwise. -/
def size : Value → Nat
  | .str text => text.utf8ByteSize
  | .list items => items.length
  | .tuple items => items.length
  | .dict entries => entries.length
  | _ => 0

/-- The truth value, of truth values only. -/
def asBool? : Value → Option Bool
  | .bool truth => some truth
  | _ => none

/-- The integer, of integers only. -/
def asInt? : Value → Option Word64
  | .int number => some number
  | _ => none

/-- The floating-point number of a number, an integer being rounded. -/
def asFloat? : Value → Option Binary64
  | .float number => some number
  | .int number => some (Binary.ofInt .double number.toInt)
  | _ => none

/-- The text, of texts only. -/
def asText? : Value → Option String
  | .str text => some text
  | _ => none

/-- The elements, of lists only. -/
def asList? : Value → Option (List Value)
  | .list items => some items
  | _ => none

/-- The elements of a list or tuple. -/
def asSequence? : Value → Option (List Value)
  | .list items => some items
  | .tuple items => some items
  | _ => none

/-- The entries, of dicts only. -/
def asDict? : Value → Option (List (Value × Value))
  | .dict entries => some entries
  | _ => none

/-- The characters of a text, none for other values. -/
def chars : Value → List Char
  | .str text => text.toList
  | _ => []

end Value

end DynValue
