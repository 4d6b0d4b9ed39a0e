import DynValue.Binary.Rounding
import DynValue.Decimal.Shortest

/-! Reading of integers and decimals from their written forms. -/

namespace DynValue.Decimal

/-- The sign in front of a number, plus when there is none, and what follows it. -/
def splitSign : List Char → Bool × List Char
  | '-' :: rest => (true, rest)
  | '+' :: rest => (false, rest)
  | text => (false, text)

/-- Taking off a sign adds nothing to a text. -/
theorem length_splitSign_le (text : List Char) : (splitSign text).2.length ≤ text.length := by
  -- A sign is one character, and without one the text stays.
  unfold splitSign
  split <;> simp

/-- The leading digits of a text, and what follows them. -/
def splitDigits (text : List Char) : List Char × List Char :=
  (text.takeWhile Char.isDigit, text.dropWhile Char.isDigit)

/-- The digits and what follows them make up the text. -/
theorem splitDigits_append (text : List Char) : (splitDigits text).1 ++ (splitDigits text).2 = text :=
  List.takeWhile_append_dropWhile

/-- A natural number, written with at least one digit and nothing else. -/
def readNatural? (text : List Char) : Option Nat :=
  if text ≠ [] ∧ text.all Char.isDigit then some (Nat.ofDigitChars 10 text 0) else none

/-- An integer, written as digits behind an optional sign. -/
def readInteger? (text : List Char) : Option Int :=
  let (negative, digits) := splitSign text
  (readNatural? digits).map fun size => if negative then -(size : Int) else size

/-- The exponent at the end of a number, zero when the text is empty. -/
def readExponent? : List Char → Option Int
  | [] => some 0
  | mark :: rest => if mark = 'e' ∨ mark = 'E' then readInteger? rest else none

/-- An unsigned decimal: digits around an optional point, at least one of them, and an optional exponent. -/
def readUnsigned? (text : List Char) : Option Decimal :=
  let (whole, afterWhole) := splitDigits text
  let (fraction, rest) :=
    match afterWhole with
    | '.' :: more => splitDigits more
    | more => ([], more)
  -- A point by itself is no number, though it may lack digits on one side.
  if whole = [] ∧ fraction = [] then none
  else (readExponent? rest).map fun exponent =>
    ⟨Nat.ofDigitChars 10 (whole ++ fraction) 0, exponent - fraction.length⟩

/-- A floating-point number, written as a signed decimal or by the name of an infinity or a NaN in any case. -/
def readBinary? (f : Format) (text : List Char) : Option (Binary f) :=
  let (negative, size) := splitSign text
  let name := String.ofList (size.map Char.toLower)
  if name = "inf" ∨ name = "infinity" then some (Binary.infinite negative)
  else if name = "nan" then some { (Binary.nan : Binary f) with negative := negative }
  else (readUnsigned? size).map fun decimal => Binary.ofDecimal f negative decimal.coefficient decimal.exponent

end DynValue.Decimal
