import DynValue.Text.Class.Combining
import DynValue.Text.Class.Hidden
import DynValue.Text.Class.Ignorable

/-! Texts in double quotes, in which everything that would not show by itself is escaped. -/

namespace DynValue.Text.Escaped

/-- The written form of one character: a short escape, its code point in hexadecimal, or itself. -/
def encodeChar (c : Char) : List Char :=
  match c with
  | '\x00' => ['\\', '0']
  | '\t' => ['\\', 't']
  | '\r' => ['\\', 'r']
  | '\n' => ['\\', 'n']
  | '"' => ['\\', '"']
  | '\\' => ['\\', '\\']
  | c =>
    -- A combining character would merge with the quote or letter before it.
    if isCombining c || isIgnorable c || isHidden c then
      ['\\', 'u', '\x7b'] ++ Nat.toDigits 16 c.toNat ++ ['\x7d']
    else [c]

/-- The escaped form of a text. -/
def encode (text : List Char) : List Char :=
  '"' :: (text.flatMap encodeChar ++ ['"'])

end DynValue.Text.Escaped
