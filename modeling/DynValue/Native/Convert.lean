import DynValue.Native.Order
import DynValue.Value.Coerce
import DynValue.Value.Entries
import DynValue.Value.Iterate
import DynValue.Value.Render

/-! Conversion of native data to values, and extraction of native data from values. -/

namespace DynValue

namespace KeyTy

/-- The value of a key, an integer out of range becoming the nearest in range. -/
def toValue : (k : KeyTy) → k.Carrier → Value
  | .int _, number => .int (Word.clamp .int64 number.toInt)
  | .bool, holds => .bool holds
  | .text, content => .str content

/-- The key that a value is taken as. -/
def ofValue : (k : KeyTy) → Value → k.Carrier
  | .int t, value => value.toInt.convert t
  | .bool, value => value.truth
  | .text, value => value.display

end KeyTy

mutual

/-- The value of a datum: a missing one is absent, sets become lists, and maps become dicts. -/
def Ty.toValue : (t : Ty) → t.Carrier → Value
  | .int _, number => .int (Word.clamp .int64 number.toInt)
  | .double, number => .float number
  | .single, number => .float (number.convert .double)
  | .bool, holds => .bool holds
  | .char, c => .ofChar c
  | .text, content => .str content
  | .unit, _ => .null
  | .value, datum => datum
  | .option t, datum =>
    match datum with
    | none => .null
    | some inner => t.toValue inner
  | .list t, items => .list (items.map t.toValue)
  | .set k, keys => .list (keys.keys.map k.toValue)
  | .map k t, table =>
    .dict (Entries.ofPairs (table.entries.map fun (key, datum) => (k.toValue key, t.toValue datum)))
  | .tuple row, components => .tuple (row.toValues components)

/-- The values of the components of a tuple. -/
def Row.toValues : (row : Row) → row.Carrier → List Value
  | .nil, _ => []
  | .cons head tail, (first, rest) => head.toValue first :: tail.toValues rest

end

/-- The value of a set of data: the list of the values of its elements, taken one after the other. -/
def Ty.setValue (t : Ty) (set : t.SetOf) : Value :=
  .list ((t.elements set).map t.toValue)

/-- How data of a type are extracted from values, for the types for which they can be. -/
def Ty.reader? : (t : Ty) → Option (Value → t.Carrier)
  | .int t => some fun value => value.toInt.convert t
  | .double => some Value.toFloat
  | .single => some fun value => value.toFloat.convert .single
  | .bool => some Value.truth
  | .text => some Value.display
  | .value => some id
  | .option t => t.reader?.map fun read value =>
    match value with
    | .null => none
    | value => some (read value)
  -- Whatever a value iterates over becomes an element.
  | .list t => t.reader?.map fun read value => (Cursor.start value).toList.map read
  | .map k t => t.reader?.map fun read value =>
    KeyMap.ofList (value.entries.map fun (key, content) => (k.ofValue key, read content))
  | _ => none

/-- The integer type that values convert to: their own, or the one of 32 bits, to which integers are cut. -/
def Ty.wordConversion? (t : IntType) : Option (Value → Word t) :=
  if own : t = .int64 then some (own ▸ Value.toInt)
  else if short : t = .int32 then some (short ▸ fun value => value.toInt.convert .int32)
  else none

/-- The conversion of values to data of a type, for scalars and for values themselves. -/
def Ty.conversion? : (t : Ty) → Option (Value → t.Carrier)
  | .int t => wordConversion? t
  | .double => some Value.toFloat
  | .single => some fun value => value.toFloat.convert .single
  | .bool => some Value.truth
  | .text => some fun
    | .str content => content
    | other => other.display
  | .value => some id
  | _ => none

/-- The value of a datum. -/
def Native.toValue (datum : Native) : Value := datum.type.toValue datum.data

/-- Whether a datum is neither missing, zero nor empty. -/
def Ty.truth : (t : Ty) → t.Carrier → Bool
  | .int _, number => number.toInt ≠ 0
  | .double, number => !number.isZero
  | .single, number => !number.isZero
  | .bool, holds => holds
  | .char, _ => true
  | .text, content => !content.isEmpty
  | .unit, _ => false
  | .value, datum => datum.truth
  -- Presence alone counts, whatever is present.
  | .option _, datum => datum.isSome
  | .list _, items => !items.isEmpty
  | .set _, keys => !keys.entries.isEmpty
  | .map _ _, table => !table.entries.isEmpty
  | .tuple row, _ =>
    match row with
    | .nil => false
    | .cons _ _ => true

end DynValue
