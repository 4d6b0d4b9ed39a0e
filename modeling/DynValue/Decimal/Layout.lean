import DynValue.Decimal.Shortest

/-! Written forms of floating-point numbers: which exponents are positional, and how each form is spelled. -/

namespace DynValue

/-- The decisions of one written form of floating-point numbers. -/
structure Layout where
  /-- Which of two equally near shortest decimals is written. -/
  tie : Tie
  /-- The exponents of the leading digit that are written positionally, all of them when there are no bounds. -/
  positional : Option (Int × Int)
  /-- Whether a whole number is written with a zero after the point. -/
  wholePoint : Bool
  /-- Whether a nonnegative exponent is written with a plus. -/
  exponentPlus : Bool
  /-- The least number of digits of an exponent. -/
  exponentWidth : Nat
  /-- The text of a NaN. -/
  nan : String

namespace Layout

/-- Always positional, and whole numbers have no point. -/
def plain : Layout := ⟨.up, none, false, false, 1, "NaN"⟩

/-- Positional from 0.0001 up to 10^16, and whole numbers keep a point. -/
def marked : Layout := ⟨.up, some (-4, 15), true, false, 1, "NaN"⟩

/-- Positional from 0.0001 up to 10^16, whole numbers keep a point, and exponents have a sign and two digits. -/
def literal : Layout := ⟨.even, some (-4, 15), true, true, 2, "nan"⟩

/-- Positional from 0.00001 up to 10^16, whole numbers keep a point, and exponents have a sign. -/
def key : Layout := ⟨.even, some (-5, 15), true, true, 1, "NaN"⟩

/-- Whether a leading exponent is written positionally. -/
def isPositional (layout : Layout) (order : Int) : Bool :=
  match layout.positional with
  | none => true
  | some (least, greatest) => least ≤ order && order ≤ greatest

/-- The significant digits of a decimal, zeros at the end being left out. -/
def significant (digits : List Char) : List Char :=
  match (digits.reverse.dropWhile (· = '0')).reverse with
  | [] => ['0']
  | kept => kept

/-- Digits with a point after the place of the leading exponent, zeros filling what lies between. -/
def positionalText (wholePoint : Bool) (digits : List Char) (order : Int) : List Char :=
  if order < 0 then '0' :: '.' :: (List.replicate (-order - 1).toNat '0' ++ digits)
  else
    -- Digits that end before the point are filled up with zeros.
    let places := order.toNat + 1
    let whole := digits.take places ++ List.replicate (places - digits.length) '0'
    match digits.drop places with
    | [] => if wholePoint then whole ++ ['.', '0'] else whole
    | fraction => whole ++ '.' :: fraction

/-- An exponent with its sign, padded with zeros. -/
def exponentText (layout : Layout) (exponent : Int) : List Char :=
  let digits := Nat.toDigits 10 exponent.natAbs
  let padded := List.replicate (layout.exponentWidth - digits.length) '0' ++ digits
  if exponent < 0 then '-' :: padded
  else if layout.exponentPlus then '+' :: padded
  else padded

/-- The leading digit, the others after a point, and the exponent. -/
def scientificText (layout : Layout) (digits : List Char) (order : Int) : List Char :=
  match digits with
  | [] => []
  -- A single digit takes no point.
  | [digit] => digit :: 'e' :: layout.exponentText order
  | digit :: fraction => digit :: '.' :: (fraction ++ 'e' :: layout.exponentText order)

/-- A decimal without its sign. -/
def decimalText (layout : Layout) (decimal : Decimal) : List Char :=
  let digits := Nat.toDigits 10 decimal.coefficient
  let order := decimal.exponent + digits.length - 1
  if layout.isPositional order then positionalText layout.wholePoint (significant digits) order
  else layout.scientificText (significant digits) order

/-- A floating-point number, a NaN having no sign. -/
def text {f : Format} (layout : Layout) (x : Binary f) : List Char :=
  if x.isNan then layout.nan.toList
  else
    -- The sign stands in front of zeros and infinities as well.
    let size :=
      if x.isInfinite then "inf".toList
      else layout.decimalText (Decimal.shortest layout.tie f x.magnitude)
    if x.negative then '-' :: size else size

end Layout

/-- The decimal digits of an integer behind its sign. -/
def integerText (n : Int) : List Char :=
  let digits := Nat.toDigits 10 n.natAbs
  if n < 0 then '-' :: digits else digits

end DynValue
