import DynValue.Decimal.Layout
import DynValue.Value.Entries

/-! JSON trees, and the conversion of values to and from them. -/

namespace DynValue

/-- A JSON tree in which integers and floats are told apart. -/
inductive Json where
  /-- The null. -/
  | null
  /-- A truth value. -/
  | bool (truth : Bool)
  /-- An integer. -/
  | int (number : Word64)
  /-- A number that is no integer of the signed range. -/
  | float (number : Binary64)
  /-- A text. -/
  | text (text : String)
  /-- An array. -/
  | array (items : List Json)
  /-- An object. -/
  | object (members : List (String × Json))
deriving Inhabited

/-- Why a value has no JSON tree. -/
inductive JsonFault where
  /-- A key is an infinity or a NaN. -/
  | infiniteKey
  /-- A key is neither a text, a number nor a truth value. -/
  | notTextKey
deriving DecidableEq

/-- What a fault says. -/
def JsonFault.message : JsonFault → String
  | .infiniteKey => "float key must be finite (got NaN or +/-inf)"
  | .notTextKey => "key must be a string"

namespace Json

/-- The text that stands for a key in an object. -/
def keyText : Value → Except JsonFault String
  | .str content => .ok content
  | .int number => .ok (String.ofList (integerText number.toInt))
  | .bool truth => .ok (if truth then "true" else "false")
  | .float number =>
    -- There is no number to write for an infinity or a NaN.
    if number.isFinite then .ok (String.ofList (Layout.key.text number)) else .error .infiniteKey
  | _ => .error .notTextKey

/-- Members with a tree put under a key, in the place of the one that was there. -/
def insertMember (key : String) (tree : Json) : List (String × Json) → List (String × Json)
  | [] => [(key, tree)]
  | (other, old) :: rest =>
    if key = other then (other, tree) :: rest else (other, old) :: insertMember key tree rest

mutual

/-- The JSON tree of a value; lists and tuples become arrays, and floats that are not finite become null. -/
def ofValue : Value → Except JsonFault Json
  | .null => .ok .null
  | .bool truth => .ok (.bool truth)
  | .int number => .ok (.int number)
  | .float number => .ok (if number.isFinite then .float number else .null)
  | .str content => .ok (.text content)
  | .list items => (ofValues items).map .array
  | .tuple items => (ofValues items).map .array
  | .dict entries => (ofEntries entries).map fun members =>
    .object (members.foldl (fun object member => insertMember member.1 member.2 object) [])

/-- The JSON trees of a sequence. -/
def ofValues : List Value → Except JsonFault (List Json)
  | [] => .ok []
  | item :: rest => do
    let first ← ofValue item
    let others ← ofValues rest
    .ok (first :: others)

/-- The members of entries, a key coming before its value. -/
def ofEntries : List (Value × Value) → Except JsonFault (List (String × Json))
  | [] => .ok []
  | (key, content) :: rest => do
    let name ← keyText key
    let tree ← ofValue content
    let others ← ofEntries rest
    .ok ((name, tree) :: others)

end

mutual

/-- The value of a JSON tree. -/
def toValue : Json → Value
  | .null => .null
  | .bool truth => .bool truth
  | .int number => .int number
  | .float number => .float number
  | .text content => .str content
  | .array items => .list (toValues items)
  | .object members => .dict (Entries.ofPairs (toPairs members))

/-- The values of an array. -/
def toValues : List Json → List Value
  | [] => []
  | item :: rest => toValue item :: toValues rest

/-- The keys and values of members. -/
def toPairs : List (String × Json) → List (Value × Value)
  | [] => []
  | (key, tree) :: rest => (.str key, toValue tree) :: toPairs rest

end

end Json

end DynValue
