import DynValue.Model.Buffer
import DynValue.Value.Entries

/-! Trees of the data model through which values are serialized, and their conversion from and to values. -/

namespace DynValue

/-- A tree of the data model. -/
inductive Tree where
  /-- A truth value. -/
  | bool (truth : Bool)
  /-- An integer of some type. -/
  | int (type : IntType) (number : Word type)
  /-- A floating-point number of 32 bits. -/
  | single (number : Binary .single)
  /-- A floating-point number of 64 bits. -/
  | double (number : Binary64)
  /-- A character. -/
  | char (c : Char)
  /-- A text that is lent. -/
  | text (text : String)
  /-- A text that is handed over. -/
  | ownedText (text : String)
  /-- Bytes that are lent. -/
  | bytes (content : List UInt8)
  /-- Bytes that are handed over. -/
  | ownedBytes (content : List UInt8)
  /-- The empty datum. -/
  | unit
  /-- A missing datum. -/
  | absent
  /-- A datum that could have been missing. -/
  | present (inner : Tree)
  /-- A datum wrapped in a type of its own. -/
  | wrapped (inner : Tree)
  /-- A sequence that knows its length. -/
  | sequence (items : List Tree)
  /-- A sequence that does not know its length. -/
  | stream (items : List Tree)
  /-- A map. -/
  | map (entries : List (Tree × Tree))

/-- The data that have no value. -/
inductive TreeFault where
  /-- Bytes. -/
  | bytes
  /-- A datum wrapped in a type of its own. -/
  | wrapped
deriving DecidableEq

/-- What a fault says. -/
def TreeFault.message : TreeFault → String
  | .bytes => "invalid type: byte array, expected any valid value"
  | .wrapped => "invalid type: newtype struct, expected any valid value"

/-- The value of an integer: an integer if it is in range, and the nearest float otherwise. -/
def Value.ofInteger (n : Int) : Value :=
  match Word.ofInt? .int64 n with
  | some number => .int number
  | none => .float (Binary.ofInt .double n)

namespace Tree

mutual

/-- The value of a tree, or the first fault in it. -/
def toValue : Tree → Except TreeFault Value
  | .bool truth => .ok (.bool truth)
  | .int _ number => .ok (.ofInteger number.toInt)
  | .single number => .ok (.float (number.convert .double))
  | .double number => .ok (.float number)
  | .char c => .ok (.str (String.singleton c))
  | .text content => .ok (.str content)
  | .ownedText content => .ok (.str content)
  | .bytes _ => .error .bytes
  | .ownedBytes _ => .error .bytes
  | .unit => .ok .null
  | .absent => .ok .null
  | .present inner => toValue inner
  -- The wrapping is refused before what is inside is looked at.
  | .wrapped _ => .error .wrapped
  -- The room for the elements is set aside by the length, where there is one to go by.
  | .sequence items =>
    (fillItems items (.start (some items.length) #[] rfl)).map fun filled => .list filled.content.toList
  | .stream items => (fillItems items (.start none #[] rfl)).map fun filled => .list filled.content.toList
  | .map entries => (fillEntries entries (.start (some entries.length) [] rfl)).map fun filled => .dict filled.content

/-- The values of trees added at the end of a sequence one by one, or the first fault in them. -/
def fillItems : List Tree → Buffer (Array Value) Array.size → Except TreeFault (Buffer (Array Value) Array.size)
  | [], filled => .ok filled
  | item :: rest, filled => do
    let value ← toValue item
    fillItems rest (filled.update (·.push value))

/-- The keys and values of entries inserted one by one, or the first fault in them, a key coming before its value. -/
def fillEntries : List (Tree × Tree) → Buffer Entries List.length → Except TreeFault (Buffer Entries List.length)
  | [], filled => .ok filled
  | (key, content) :: rest, filled => do
    let first ← toValue key
    let second ← toValue content
    fillEntries rest (filled.update (·.insert first second))

end

/-- The list that is read from trees of which some number, be it theirs or not, is announced. -/
def readItems (announced : Option Nat) (items : List Tree) : Except TreeFault Value :=
  (fillItems items (.start announced #[] rfl)).map fun filled => .list filled.content.toList

/-- The dict that is read from entries of which some number, be it theirs or not, is announced. -/
def readEntries (announced : Option Nat) (entries : List (Tree × Tree)) : Except TreeFault Value :=
  (fillEntries entries (.start announced [] rfl)).map fun filled => .dict filled.content

end Tree

namespace Value

mutual

/-- The tree that a value is serialized as; lists and tuples both become sequences. -/
def toTree : Value → Tree
  | .null => .unit
  | .bool truth => .bool truth
  | .int number => .int .int64 number
  | .float number => .double number
  | .str text => .text text
  | .list items => .sequence (toTrees items)
  | .tuple items => .sequence (toTrees items)
  | .dict entries => .map (toTreePairs entries)

/-- The trees of a sequence. -/
def toTrees : List Value → List Tree
  | [] => []
  | item :: rest => toTree item :: toTrees rest

/-- The trees of entries. -/
def toTreePairs : List (Value × Value) → List (Tree × Tree)
  | [] => []
  | (key, value) :: rest => (toTree key, toTree value) :: toTreePairs rest

end

end Value

end DynValue
