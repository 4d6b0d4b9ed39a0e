import DynValue.Digest
import DynValue.Value.Basic

/-! The bytes that stand for a value when it is hashed, and its hash. -/

namespace DynValue.Value

/-- The eight bytes of a number, the least significant first. -/
def wordBytes (n : Nat) : List UInt8 :=
  (List.range 8).map fun i => (n / Nat.pow 256 i).toUInt8

/-- The bytes of a text, ended by a byte that no text contains. -/
def textBytes (text : String) : List UInt8 :=
  text.toUTF8.toList ++ [0xFF]

/-- The bytes of a text as a key, without building the value. -/
def textKeyStream (text : String) : List UInt8 :=
  Kind.str.rank.toUInt8 :: textBytes text

mutual

/-- The bytes of a value: its kind and its content, except that dicts show their kind alone. -/
def stream : Value → List UInt8
  | .null => [Kind.null.rank.toUInt8]
  | .bool truth => [Kind.bool.rank.toUInt8, truth.toUInt8]
  | .int number => Kind.int.rank.toUInt8 :: wordBytes number.bits.toNat
  | .float number => Kind.float.rank.toUInt8 :: wordBytes number.toBits
  | .str text => Kind.str.rank.toUInt8 :: textBytes text
  | .list items => Kind.list.rank.toUInt8 :: (wordBytes items.length ++ streamItems items)
  | .tuple items => Kind.tuple.rank.toUInt8 :: (wordBytes items.length ++ streamItems items)
  -- The entries have no order of their own that bytes could follow.
  | .dict _ => [Kind.dict.rank.toUInt8]

/-- The bytes of a sequence of values. -/
def streamItems : List Value → List UInt8
  | [] => []
  | item :: rest => stream item ++ streamItems rest

end

/-- The hash of a value. -/
def digest (value : Value) : UInt64 :=
  Digest.xxh64 0 value.stream

end DynValue.Value
