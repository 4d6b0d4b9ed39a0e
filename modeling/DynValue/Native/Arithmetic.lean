import DynValue.Native.Convert
import DynValue.Value.Arithmetic

/-! The operators of native data, in which the operands decide the type of the result. -/

namespace DynValue

namespace Operator

/-- The operation on words of one type, for the operators that keep the type. -/
def onWords? {t : IntType} : Operator → Option (Word t → Word t → Word t)
  | .add => some (· + ·)
  | .sub => some (· - ·)
  | .mul => some (· * ·)
  | .mod => some Word.floorMod
  | _ => none

/-- The operation on floating-point numbers, for the arithmetic operators. -/
def onFloats? {f : Format} : Operator → Option (Binary f → Binary f → Binary f)
  | .add => some (· + ·)
  | .sub => some (· - ·)
  | .mul => some (· * ·)
  | .div => some Binary.safeDiv
  | .mod => some Binary.floorMod
  | _ => none

end Operator

/-- The native numbers that take part in arithmetic. -/
inductive Number where
  /-- A word of 32 bits. -/
  | int32 (number : Word .int32)
  /-- A word of 64 bits. -/
  | int64 (number : Word64)
  /-- A floating-point number. -/
  | double (number : Binary64)

namespace Number

/-- The number of a datum of one of the types of numbers. -/
def ofNative? : Native → Option Number
  | ⟨.int t, n⟩ =>
    if t = .int32 then some (.int32 (n.convert .int32))
    else if t = .int64 then some (.int64 (n.convert .int64))
    else none
  | ⟨.double, x⟩ => some (.double x)
  | _ => none

/-- The value of a number: an integer, widened to 64 bits, or a float. -/
def toValue : Number → Value
  | .int32 n => .int (n.convert .int64)
  | .int64 n => .int n
  | .double x => .float x

/-- The nearest floating-point number. -/
def toDouble : Number → Binary64
  | .int32 n => Binary.ofInt .double n.toInt
  | .int64 n => Binary.ofInt .double n.toInt
  | .double x => x

/-- Words of one type under an operator, division giving a floating-point number. -/
def onWords (operator : Operator) {t : IntType} (a b : Word t) : Option Native :=
  match operator with
  | .div => some ⟨.double, (Binary.ofInt .double a.toInt).safeDiv (Binary.ofInt .double b.toInt)⟩
  | operator => operator.onWords?.map fun f => ⟨.int t, f a b⟩

/-- Floating-point numbers under an operator. -/
def onDoubles (operator : Operator) (a b : Binary64) : Option Native :=
  operator.onFloats?.map fun f => ⟨.double, f a b⟩

/-- Two numbers under an operator: words of 32 bits stay such, other words have 64 bits, and one float makes two. -/
def combine? (operator : Operator) : Number → Number → Option Native
  | .int32 a, .int32 b => onWords operator a b
  | .int32 a, .int64 b => onWords operator (a.convert .int64) b
  | .int64 a, .int32 b => onWords operator a (b.convert .int64)
  | .int64 a, .int64 b => onWords operator a b
  | a, b => onDoubles operator a.toDouble b.toDouble

/-- A number and a value under an operator: the value is taken as a number of the same sort. -/
def applyValue? (operator : Operator) (number : Number) (value : Value) : Option Native :=
  match operator, number with
  -- Division is the one operator under which a value is not cut to an integer.
  | .div, number => onDoubles .div number.toDouble value.toFloat
  | operator, .int32 n => onWords operator (n.convert .int64) value.toInt
  | operator, .int64 n => onWords operator n value.toInt
  | operator, .double x => onDoubles operator x value.toFloat

end Number

namespace Native

/-- The number of times a sequence is repeated by an integer, cut to the signed range. -/
def repetitions? : Native → Option Int
  | ⟨.int t, n⟩ =>
    if t = .int32 ∨ t = .int64 ∨ t = .uint64 then some (Word.clamp .int64 n.toInt).toInt else none
  | _ => none

/-- Two sequences of numbers under an operator element by element, up to the end of the shorter one. -/
def elementwise? (operator : Operator) : (t : Ty) → List t.Carrier → List t.Carrier → Option Native
  | .double, xs, ys => operator.onFloats?.map fun f => ⟨.list .double, List.zipWith f xs ys⟩
  | .single, xs, ys => operator.onFloats?.map fun f => ⟨.list .single, List.zipWith f xs ys⟩
  | .int t, xs, ys =>
    match operator with
    | .div =>
      let quotient (a b : Word t) := (Binary.ofInt .double a.toInt).safeDiv (Binary.ofInt .double b.toInt)
      some ⟨.list .double, List.zipWith quotient xs ys⟩
    | operator => operator.onWords?.map fun f => ⟨.list (.int t), List.zipWith f xs ys⟩
  | _, _, _ => none

/-- Two sequences of one type under an operator: concatenation, or element by element. -/
def onLists? (operator : Operator) (t : Ty) (xs ys : List t.Carrier) : Option Native :=
  match operator with
  | .add => some ⟨.list t, xs ++ ys⟩
  | .sub | .mul | .div => elementwise? operator t xs ys
  | _ => none

/-- A sequence and a datum under an operator: a repetition, or every float combined with the same one. -/
def onListAndScalar? (operator : Operator) : (t : Ty) → List t.Carrier → Native → Option Native
  | .double, xs, ⟨.double, y⟩ =>
    match operator with
    | .mod => none
    | operator => operator.onFloats?.map fun f => ⟨.list .double, xs.map (f · y)⟩
  | t, xs, scalar =>
    match operator with
    | .mul => scalar.repetitions?.map fun times => ⟨.list t, repeated xs times⟩
    | _ => none

/-- The datum of an operator at two operands neither of which is a value. -/
def applyData? (operator : Operator) (a b : Native) : Option Native :=
  match a, b with
  | ⟨.text, s⟩, ⟨.text, t⟩ => if operator = .add then some ⟨.text, s ++ t⟩ else none
  | ⟨.text, s⟩, ⟨.char, c⟩ => if operator = .add then some ⟨.text, s.push c⟩ else none
  | ⟨.text, s⟩, times =>
    if operator = .mul then times.repetitions?.map fun n => ⟨.text, repeatedText s n⟩ else none
  | times, ⟨.text, s⟩ =>
    if operator = .mul then times.repetitions?.map fun n => ⟨.text, repeatedText s n⟩ else none
  | ⟨.list t, xs⟩, ⟨.list u, ys⟩ => if same : u = t then onLists? operator t xs (same ▸ ys) else none
  | ⟨.list t, xs⟩, scalar => onListAndScalar? operator t xs scalar
  -- Of the operators with a scalar on the left, only multiplication is defined.
  | scalar, ⟨.list t, xs⟩ => if operator = .mul then onListAndScalar? operator t xs scalar else none
  | ⟨.set k, xs⟩, ⟨.set l, ys⟩ =>
    if same : l = k then
      if operator = .sub then some ⟨.set k, xs.difference (same ▸ ys)⟩ else none
    else none
  | a, b =>
    match Number.ofNative? a, Number.ofNative? b with
    | some x, some y => x.combine? operator y
    | _, _ => none

/--
The datum of an operator at two operands, for the types it is defined on.

A value on the left makes an operation on values, and a value on the right is taken as a native number.
-/
def combine? (operator : Operator) (a b : Native) : Option (Traced Native) :=
  match a, b with
  | ⟨.value, v⟩, ⟨.value, w⟩ => some ((v.apply operator w).andThen fun result => pure ⟨.value, result⟩)
  | ⟨.value, v⟩, number =>
    (Number.ofNative? number).map fun n =>
      (v.apply operator n.toValue).andThen fun result => pure ⟨.value, result⟩
  | number, ⟨.value, w⟩ =>
    ((Number.ofNative? number).bind fun n => n.applyValue? operator w).map pure
  | a, b => (applyData? operator a b).map pure

/--
The value of an operator at two operands of which at least one is a value.

A number behind a value becomes a value by its type, and whatever stands in front of a value is converted to one.
-/
def operate (operator : Operator) (a b : Native) : Traced Value :=
  match a, b with
  | ⟨.value, v⟩, ⟨.value, w⟩ => v.apply operator w
  | ⟨.value, v⟩, b =>
    match Number.ofNative? b with
    | some number => v.apply operator number.toValue
    | none => v.apply operator b.toValue
  | a, b => a.toValue.apply operator b.toValue

end Native

/-- The floor of the quotient of two words; a zero divisor is a fault. -/
def Word.floorDiv {t : IntType} (a b : Word t) : Except Fault (Word t) :=
  match a.floorDiv? b with
  | some quotient => .ok quotient
  | none => .error (.zeroDivisor a.toInt)

/-- The floor of the quotient of two words; a zero divisor ends the call. -/
def Word.floorDivOrAbort {t : IntType} (a b : Word t) : Except Abort (Word t) :=
  match a.floorDiv? b with
  | some quotient => .ok quotient
  | none => .error (Fault.zeroDivisor a.toInt).abort

end DynValue
