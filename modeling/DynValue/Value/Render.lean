import DynValue.Decimal.Respelled
import DynValue.Text.Escaped
import DynValue.Text.Quoted
import DynValue.Value.Basic

/-! The three written forms of values: a literal, a debug form that names kinds, and a display form. -/

namespace DynValue.Value

/-- Written parts with a comma and a space between them. -/
def commaSeparated (parts : List (List Char)) : List Char :=
  [',', ' '].intercalate parts

/-- A written key and a written value as an entry. -/
def entryText (key value : List Char) : List Char :=
  key ++ ':' :: ' ' :: value

mutual

/-- The literal form of a value. -/
def literalText : Value → List Char
  | .null => "None".toList
  | .bool truth => (if truth then "True" else "False").toList
  | .int number => integerText number.toInt
  | .float number => Decimal.respelledText number
  | .str text => Text.Quoted.encode text.toList
  | .list items => '[' :: (commaSeparated (literalItems items) ++ [']'])
  -- A comma tells a tuple of one element from the element in parentheses.
  | .tuple [item] => '(' :: (literalText item ++ [',', ')'])
  | .tuple items => '(' :: (commaSeparated (literalItems items) ++ [')'])
  | .dict entries => '\x7b' :: (commaSeparated (literalEntries entries) ++ ['\x7d'])

/-- The literal forms of a sequence. -/
def literalItems : List Value → List (List Char)
  | [] => []
  | item :: rest => literalText item :: literalItems rest

/-- The literal forms of entries. -/
def literalEntries : List (Value × Value) → List (List Char)
  | [] => []
  | (key, value) :: rest => entryText (literalText key) (literalText value) :: literalEntries rest

end

mutual

/-- The debug form of a value, in which every value names its kind. -/
def debugText : Value → List Char
  | .null => "None".toList
  | .bool truth => "Bool(".toList ++ (if truth then "true" else "false").toList ++ [')']
  | .int number => "Int(".toList ++ integerText number.toInt ++ [')']
  | .float number => "Float(".toList ++ Layout.marked.text number ++ [')']
  | .str text => "Str(".toList ++ Text.Escaped.encode text.toList ++ [')']
  | .list items => "List([".toList ++ commaSeparated (debugItems items) ++ [']', ')']
  | .tuple items => "Tuple([".toList ++ commaSeparated (debugItems items) ++ [']', ')']
  | .dict entries => "Dict(\x7b".toList ++ commaSeparated (debugEntries entries) ++ ['\x7d', ')']

/-- The debug forms of a sequence. -/
def debugItems : List Value → List (List Char)
  | [] => []
  | item :: rest => debugText item :: debugItems rest

/-- The debug forms of entries. -/
def debugEntries : List (Value × Value) → List (List Char)
  | [] => []
  | (key, value) :: rest => entryText (debugText key) (debugText value) :: debugEntries rest

end

/-- The display form of a value: scalars bare, and the contents of containers in debug form. -/
def displayText : Value → List Char
  | .null => "None".toList
  | .bool truth => (if truth then "true" else "false").toList
  | .int number => integerText number.toInt
  | .float number => Layout.plain.text number
  | .str text => text.toList
  | .list items => '[' :: (commaSeparated (debugItems items) ++ [']'])
  | .tuple items => '[' :: (commaSeparated (debugItems items) ++ [']'])
  | .dict entries => '\x7b' :: (commaSeparated (debugEntries entries) ++ ['\x7d'])

/-- The literal form of a value. -/
def literal (value : Value) : String := String.ofList value.literalText

/-- The debug form of a value. -/
def debug (value : Value) : String := String.ofList value.debugText

/-- The display form of a value. -/
def display (value : Value) : String := String.ofList value.displayText

/-- The literal form of a value, except that a text stands for itself. -/
def print : Value → String
  | .str text => text
  | other => other.literal

end DynValue.Value
