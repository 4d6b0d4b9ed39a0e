import DynValue.Text.Padding
import DynValue.Text.Search
import DynValue.Text.Words
import DynValue.Value.Basic

/-! Text methods of values; on a value that is no text they give something empty, false or not found. -/

namespace DynValue.Value

/-- A function of the characters of a text, with a result for values that are no texts. -/
def onText {α : Type} (otherwise : α) (f : List Char → α) (value : Value) : α :=
  match value.asText? with
  | some text => f text.toList
  | none => otherwise

/-- A change of the characters of a text; other values give the empty text. -/
def mapText (f : List Char → List Char) (value : Value) : String :=
  value.onText "" fun text => String.ofList (f text)

/-- A text given by its characters is changed as these are. -/
theorem mapText_ofList (f : List Char → List Char) (chars : List Char) :
    mapText f (.str (String.ofList chars)) = String.ofList (f chars) := by
  -- The characters of a text made of a list are that list.
  show String.ofList (f (String.ofList chars).toList) = _
  rw [String.toList_ofList]

/-- The text in lower case. -/
def lower : Value → String := mapText Text.lower

/-- The text in upper case. -/
def upper : Value → String := mapText Text.upper

/-- The text without white space at both ends. -/
def strip : Value → String := mapText Text.trim

/-- The text without white space in front. -/
def stripStart : Value → String := mapText Text.trimStart

/-- The text without white space at the end. -/
def stripEnd : Value → String := mapText Text.trimEnd

/-- The text with its first character in upper case and the others in lower case. -/
def capitalize : Value → String := mapText Text.capitalize

/-- The text with every word capitalized. -/
def title : Value → String := mapText Text.title

/-- The text with upper case and lower case exchanged. -/
def swapCase : Value → String := mapText Text.swapCase

/-- The text between spaces up to a width. -/
def center (value : Value) (width : Nat) : String := value.mapText (Text.center width)

/-- The text with spaces after it up to a width. -/
def padEnd (value : Value) (width : Nat) : String := value.mapText (Text.padEnd width)

/-- The text with spaces before it up to a width. -/
def padStart (value : Value) (width : Nat) : String := value.mapText (Text.padStart width)

/-- The text with zeros after its sign up to a width. -/
def zeroFill (value : Value) (width : Nat) : String := value.mapText (Text.zeroFill width)

/-- The text with every occurrence of one text exchanged for another. -/
def replace (value : Value) (old new : String) : String :=
  value.mapText (Text.replace old.toList new.toList)

/-- The pieces of the text between the occurrences of a separator. -/
def split (value : Value) (sep : String) : List String :=
  value.onText [] fun text => (Text.split sep.toList text).map String.ofList

/-- The words of the text. -/
def words : Value → List String :=
  onText [] fun text => (Text.words text).map String.ofList

/-- Whether the text starts with another. -/
def startsWith (value : Value) (sub : String) : Bool :=
  value.onText false sub.toList.isPrefixOf

/-- Whether the text ends with another. -/
def endsWith (value : Value) (sub : String) : Bool :=
  value.onText false sub.toList.isSuffixOf

/-- The position of the first occurrence in the text, and minus one when there is none. -/
def find (value : Value) (sub : String) : Int :=
  value.onText (-1) fun text => ((Text.byteFind? sub.toList text).map Int.ofNat).getD (-1)

/-- The position of the last occurrence in the text, and minus one when there is none. -/
def findLast (value : Value) (sub : String) : Int :=
  value.onText (-1) fun text => ((Text.byteFindLast? sub.toList text).map Int.ofNat).getD (-1)

/-- The number of occurrences in the text that do not overlap. -/
def count (value : Value) (sub : String) : Nat :=
  value.onText 0 (Text.count sub.toList)

/-- Whether all characters of the text are letters. -/
def isAlpha : Value → Bool := onText false (Text.allOf Text.isLetter)

/-- Whether all characters of the text are the ten digits. -/
def isDigit : Value → Bool := onText false (Text.allOf Char.isDigit)

/-- Whether all characters of the text are letters or numbers. -/
def isAlphanumeric : Value → Bool :=
  onText false (Text.allOf fun c => Text.isLetter c || Text.isNumeral c)

/-- Whether all characters of the text are white space. -/
def isSpace : Value → Bool := onText false (Text.allOf Text.isBlank)

/-- Whether the text has a lower-case character and no upper-case one. -/
def isLower : Value → Bool := onText false Text.isLowerText

/-- Whether the text has an upper-case character and no lower-case one. -/
def isUpper : Value → Bool := onText false Text.isUpperText

/-- Whether a text contains another, or a list has it as an element. -/
def contains (value : Value) (needle : String) : Bool :=
  match value with
  | .str text => Text.contains text.toList needle.toList
  -- An element has to be that very text, and not only contain it.
  | .list items => items.any fun item => item.asText? = some needle
  | _ => false

end DynValue.Value
