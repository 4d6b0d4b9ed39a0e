import DynValue.Binary.Order
import DynValue.Decimal.Layout
import DynValue.Decimal.Reader
import DynValue.Word.Basic

/-! The literal text of floating-point numbers, made from their compact text by respelling small and large ones. -/

namespace DynValue

namespace Layout

/-- Positional from 0.00001 up to 10^16, whole numbers keep a point, and exponents are bare. -/
def compact : Layout := ⟨.even, some (-5, 15), true, false, 1, "NaN"⟩

end Layout

namespace Decimal

/-- The text in front of the mark of an exponent and the text behind it, if there is a mark. -/
def splitMark? (text : List Char) : Option (List Char × List Char) :=
  match text.dropWhile (· ≠ 'e') with
  | [] => none
  | _ :: exponent => some (text.takeWhile (· ≠ 'e'), exponent)

/-- The text without a zero and a point in front, however often they stand there. -/
def dropZeroPoint : List Char → List Char
  | '0' :: '.' :: rest => dropZeroPoint rest
  | text => text

/-- The text without a point and a zero at the end, however often they stand there. -/
def dropPointZero (text : List Char) : List Char := (dropZeroPoint text.reverse).reverse

/-- An exponent of 32 bits, zero where the text is none. -/
def exponentOf (text : List Char) : Int :=
  (((readInteger? text).bind (Word.ofInt? .int32)).map Word.toInt).getD 0

/-- An exponent behind its mark, with a sign and at least two digits. -/
def markedExponent (exponent : Int) : List Char := 'e' :: Layout.literal.exponentText exponent

/-- The scientific form of an unsigned text that has only zeros up to some place behind the point. -/
def scientificOfSize (size : List Char) : List Char :=
  let fraction := dropZeroPoint size
  let significant := fraction.dropWhile (· = '0')
  -- The leading digit stands one place behind the zeros.
  let zeros := fraction.length - significant.length
  let mantissa := significant.take 1 ++ if 1 < significant.length then '.' :: significant.drop 1 else []
  mantissa ++ markedExponent (-zeros - 1)

/-- The scientific form of a small number behind its sign. -/
def scientificOfSmall : List Char → List Char
  | '-' :: size => '-' :: scientificOfSize size
  | size => scientificOfSize size

/-- A compact text with its exponent respelled, and with an exponent if the number is small. -/
def respelled (small : Bool) (text : List Char) : List Char :=
  match splitMark? text with
  | some (mantissa, exponent) => dropPointZero mantissa ++ markedExponent (exponentOf exponent)
  -- Not all small numbers have an exponent in the compact text.
  | none => if small then scientificOfSmall text else text

/-- The number from which on numbers are not small. -/
def tenThousandth : Binary64 := Binary.ofDecimal .double false 1 (-4)

/-- Whether a number is not zero and its size is below one ten-thousandth. -/
def isSmall (x : Binary64) : Bool :=
  !x.isZero && Binary.numericLt { x with negative := false } tenThousandth

/-- The literal text of a floating-point number. -/
def respelledText (x : Binary64) : List Char :=
  if x.isNan then "nan".toList
  else if x.isInfinite then (if x.negative then "-inf" else "inf").toList
  else respelled (isSmall x) (Layout.compact.text x)

end Decimal

end DynValue
