import DynValue.Text.Case
import DynValue.Text.Class.Blank
import DynValue.Text.Class.Letter
import DynValue.Text.Class.Numeral

/-! White space around and between words. -/

namespace DynValue.Text

/-- The text without the white space in front. -/
def trimStart (text : List Char) : List Char := text.dropWhile isBlank

/-- The text without the white space at the end. -/
def trimEnd (text : List Char) : List Char := (text.reverse.dropWhile isBlank).reverse

/-- The text without the white space at both ends. -/
def trim (text : List Char) : List Char := trimEnd (trimStart text)

/-- The words of a text, the current word being read backward and not yet ended. -/
def wordsAfter (current : List Char) : List Char → List (List Char)
  | [] => if current = [] then [] else [current.reverse]
  | c :: rest =>
    if isBlank c then
      -- White space ends a word, unless none has begun.
      if current = [] then wordsAfter [] rest else current.reverse :: wordsAfter [] rest
    else wordsAfter (c :: current) rest

/-- The words of a text: its maximal runs without white space. -/
def words (text : List Char) : List (List Char) := wordsAfter [] text

/-- The text with words capitalized, given whether the next character starts one. -/
def titleFrom (starts : Bool) : List Char → List Char
  | [] => []
  | c :: rest =>
    if isBlank c then c :: titleFrom true rest
    else (if starts then upperChar c else lowerChar c) ++ titleFrom false rest

/-- The text with every word capitalized. -/
def title (text : List Char) : List Char := titleFrom true text

/-- Whether a text is not empty and all of its characters are of a class. -/
def allOf (isMember : Char → Bool) (text : List Char) : Bool := !text.isEmpty && text.all isMember

end DynValue.Text
