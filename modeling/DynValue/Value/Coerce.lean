import DynValue.Binary.Arithmetic
import DynValue.Decimal.Reader
import DynValue.Text.Words
import DynValue.Value.Basic

/-! Values taken as integers, floats and truth values, whatever their kind. -/

namespace DynValue

/-- The integer part of a number, the nearest integer when it is out of range, and zero for a NaN. -/
def Binary.toWord {f : Format} (t : IntType) (x : Binary f) : Word t :=
  if x.isNan then 0
  -- An infinity has no integer part to clamp.
  else if x.isInfinite then Word.ofInt t (if x.negative then t.least else t.greatest)
  else Word.clamp t x.truncate

namespace Value

/-- The value as an integer, zero where it has none. -/
def toInt : Value → Word64
  | .int number => number
  | .float number => number.toWord .int64
  | .bool truth => Word.ofInt _ truth.toInt
  | .str text => ((Decimal.readInteger? (Text.trim text.toList)).bind (Word.ofInt? .int64)).getD 0
  | _ => 0

/-- The value as a float, zero where it has none. -/
def toFloat : Value → Binary64
  | .float number => number
  | .int number => Binary.ofInt .double number.toInt
  | .bool truth => Binary.ofInt .double truth.toInt
  | .str text => (Decimal.readBinary? .double (Text.trim text.toList)).getD (Binary.zero false)
  | _ => Binary.zero false

/-- Whether a value is neither absent, zero nor empty. -/
def truth : Value → Bool
  | .null => false
  | .bool truth => truth
  | .int number => number.toInt ≠ 0
  | .float number => !number.isZero
  | .str text => !text.isEmpty
  | .list items => !items.isEmpty
  | .tuple items => !items.isEmpty
  | .dict entries => !entries.isEmpty

end Value

end DynValue
