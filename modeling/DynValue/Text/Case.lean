import DynValue.Text.CaseMap
import DynValue.Text.Class.CaseIgnorable
import DynValue.Text.Class.Lower
import DynValue.Text.Class.Upper

/-! Case conversion of whole texts. -/

namespace DynValue.Text

/-- Whether a character has a case. -/
def isCased (c : Char) : Bool := isLower c || isUpper c || isTitle c

/-- Whether the first character that is not passed over has a case. -/
def meetsCased (text : List Char) : Bool :=
  match text.dropWhile isCaseIgnorable with
  | [] => false
  | c :: _ => isCased c

/-- The lower-case sigma between a text, read backward from it, and the text after it: final at the end of a word. -/
def lowerSigma (before after : List Char) : Char :=
  if meetsCased before && !meetsCased after then 'ς' else 'σ'

/-- The lower-case form of a text that follows another, the latter read backward. -/
def lowerAfter (before : List Char) : List Char → List Char
  | [] => []
  | c :: rest =>
    -- Sigma is the one letter whose lower case depends on its surroundings.
    (if c = 'Σ' then [lowerSigma before rest] else lowerChar c) ++ lowerAfter (c :: before) rest

/-- The lower-case form of a text. -/
def lower (text : List Char) : List Char := lowerAfter [] text

/-- The upper-case form of a text. -/
def upper (text : List Char) : List Char := text.flatMap upperChar

/-- The first character in upper case and every other one, by itself, in lower case. -/
def capitalize : List Char → List Char
  | [] => []
  | c :: rest => upperChar c ++ rest.flatMap lowerChar

/-- Upper-case characters in lower case and lower-case ones in upper case. -/
def swapCase (text : List Char) : List Char :=
  text.flatMap fun c => if isUpper c then lowerChar c else if isLower c then upperChar c else [c]

/-- Whether a text has a lower-case character and no upper-case one. -/
def isLowerText (text : List Char) : Bool := text.any isLower && !text.any isUpper

/-- Whether a text has an upper-case character and no lower-case one. -/
def isUpperText (text : List Char) : Bool := text.any isUpper && !text.any isLower

end DynValue.Text
