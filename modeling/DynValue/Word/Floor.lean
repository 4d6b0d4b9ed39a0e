import DynValue.Word.Basic

/-! Floor division and its remainder on words, each a correction of the quotient cut toward zero. -/

namespace DynValue.Word

variable {t : IntType}

/-- Whether a nonzero remainder has a sign other than the divisor's, so that the quotient was cut upward. -/
def cutUpward (rest divisor : Word t) : Bool :=
  rest.toInt ≠ 0 && (decide (rest.toInt < 0) != decide (divisor.toInt < 0))

/-- The floor of the quotient modulo two to the width, or nothing when the divisor is zero. -/
def floorDiv? (x y : Word t) : Option (Word t) :=
  if y.toInt = 0 then none
  else
    let cut := x.quotient y
    -- A quotient that was cut upward is one too large.
    some (if cutUpward (x.remainder y) y then cut - 1 else cut)

/-- The remainder with the divisor's sign, which is zero for a zero divisor. -/
def floorMod (x y : Word t) : Word t :=
  if y.toInt = 0 then 0
  else
    let rest := x.remainder y
    -- The sign is mended by one divisor, which cannot leave the range because the signs differ.
    if cutUpward rest y then rest + y else rest

end DynValue.Word
