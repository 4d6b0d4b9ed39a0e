import DynValue.Native.KeyMap
import DynValue.Value.Basic

/-! Statically typed data: a universe of types, and a datum as a type with an inhabitant of it. -/

namespace DynValue

/-- The types of keys of native sets and maps. -/
inductive KeyTy where
  /-- Words of an integer type. -/
  | int (t : IntType)
  /-- Truth values. -/
  | bool
  /-- Texts. -/
  | text
deriving DecidableEq

/-- The keys of a key type. -/
@[reducible] def KeyTy.Carrier : KeyTy → Type
  | .int t => Word t
  | .bool => Bool
  | .text => String

/-- Keys are ordered as words, truth values and texts are. -/
instance : (k : KeyTy) → Ord k.Carrier
  | .int t => inferInstanceAs (Ord (Word t))
  | .bool => inferInstanceAs (Ord Bool)
  | .text => inferInstanceAs (Ord String)

/-- The order of keys is total. -/
instance : (k : KeyTy) → Std.TransOrd k.Carrier
  | .int t => inferInstanceAs (Std.TransOrd (Word t))
  | .bool => inferInstanceAs (Std.TransOrd Bool)
  | .text => inferInstanceAs (Std.TransOrd String)

/-- Keys that compare as equal are the same. -/
instance : (k : KeyTy) → Std.LawfulEqOrd k.Carrier
  | .int t => inferInstanceAs (Std.LawfulEqOrd (Word t))
  | .bool => inferInstanceAs (Std.LawfulEqOrd Bool)
  | .text => inferInstanceAs (Std.LawfulEqOrd String)

mutual

/-- The types of native data. -/
inductive Ty where
  /-- Words of an integer type. -/
  | int (t : IntType)
  /-- Floating-point numbers of 64 bits. -/
  | double
  /-- Floating-point numbers of 32 bits. -/
  | single
  /-- Truth values. -/
  | bool
  /-- Characters. -/
  | char
  /-- Texts. -/
  | text
  /-- The type of one inhabitant. -/
  | unit
  /-- Dynamically typed values. -/
  | value
  /-- Data that may be missing. -/
  | option (t : Ty)
  /-- Sequences. -/
  | list (t : Ty)
  /-- Sets of keys. -/
  | set (k : KeyTy)
  /-- Maps from keys. -/
  | map (k : KeyTy) (t : Ty)
  /-- Tuples of a fixed shape. -/
  | tuple (row : Row)

/-- The shapes of tuples. -/
inductive Row where
  /-- No component. -/
  | nil
  /-- One component before others. -/
  | cons (head : Ty) (tail : Row)

end

deriving instance DecidableEq for Ty, Row

mutual

/-- The data of a type. -/
@[reducible] def Ty.Carrier : Ty → Type
  | .int t => Word t
  | .double => Binary .double
  | .single => Binary .single
  | .bool => Bool
  | .char => Char
  | .text => String
  | .unit => Unit
  | .value => Value
  | .option t => Option t.Carrier
  | .list t => List t.Carrier
  | .set k => KeyMap k.Carrier Unit
  | .map k t => KeyMap k.Carrier t.Carrier
  | .tuple row => row.Carrier

/-- The tuples of a shape. -/
@[reducible] def Row.Carrier : Row → Type
  | .nil => Unit
  | .cons head tail => head.Carrier × tail.Carrier

end

/-- A datum is a type together with an inhabitant of it. -/
structure Native where
  /-- The type. -/
  type : Ty
  /-- The inhabitant. -/
  data : type.Carrier

end DynValue
