/-!
Texts filled up to a width.

The limit that memory sets to the size of a text is left out: filling up to a width beyond it, which ends a program, gives
here the text that it would have given.
-/

namespace DynValue.Text

/-- The number of characters missing to a width. -/
def margin (width : Nat) (text : List Char) : Nat := width - text.length

/-- The text with spaces after it up to a width. -/
def padEnd (width : Nat) (text : List Char) : List Char :=
  text ++ List.replicate (margin width text) ' '

/-- The text with spaces before it up to a width. -/
def padStart (width : Nat) (text : List Char) : List Char :=
  List.replicate (margin width text) ' ' ++ text

/-- The text between spaces up to a width, an odd space going to the left when the width is odd. -/
def center (width : Nat) (text : List Char) : List Char :=
  let missing := margin width text
  -- The last bit is set when both the margin and the width are odd.
  let left := missing / 2 + (missing &&& width &&& 1)
  List.replicate left ' ' ++ text ++ List.replicate (missing - left) ' '

/-- The text with zeros up to a width, behind its sign if it starts with one. -/
def zeroFill (width : Nat) (text : List Char) : List Char :=
  let zeros := List.replicate (margin width text) '0'
  match text with
  | [] => zeros
  | c :: rest => if c = '+' ∨ c = '-' then c :: (zeros ++ rest) else zeros ++ c :: rest

end DynValue.Text
