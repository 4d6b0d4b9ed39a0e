import DynValue.Word.Basic

/-! The number of binary digits and of ones of a word's absolute value. -/

namespace DynValue

/-- The unsigned type of the same width. -/
abbrev IntType.unsigned (t : IntType) : IntType := { t with signed := false }

namespace Word

variable {t : IntType}

/--
The absolute value, as a word of the unsigned type of the same width.

Unlike the signed type, it also holds the absolute value of the least word.
-/
def absolute (x : Word t) : Word t.unsigned :=
  ⟨if t.signed then x.bits.abs else x.bits⟩

/-- The exponent of the largest power of two that is not above the word, which only a positive word has. -/
def log2? (x : Word t) : Option Nat :=
  if 0 < x.toInt then some x.toInt.toNat.log2 else none

/-- The number of zeros in front of the first one of the pattern. -/
def leadingZeros (x : Word t) : Nat := x.bits.clz.toNat

/-- The number of ones of the pattern. -/
def ones (x : Word t) : Nat := x.bits.cpop.toNat

/--
The number of binary digits of the absolute value.

A signed word takes the logarithm of its absolute value, an unsigned one its width without the leading zeros.
-/
def bitLength (x : Word t) : Nat :=
  if t.signed then
    -- Zero has no digits, and no logarithm either.
    x.absolute.log2?.elim 0 (· + 1)
  else t.width - x.leadingZeros

/-- The number of ones in the binary digits of the absolute value. -/
def bitCount (x : Word t) : Nat := x.absolute.ones

end Word

end DynValue
