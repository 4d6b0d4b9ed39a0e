/-! Fixed-width integers of every width and signedness, as bit vectors with an integer view. -/

namespace DynValue

/-- An integer type is a width in bits together with the choice of signed or unsigned reading. -/
structure IntType where
  /-- Whether the top bit counts negatively. -/
  signed : Bool
  /-- The number of bits. -/
  width : Nat
deriving DecidableEq

namespace IntType

/-- The signed type of 32 bits. -/
def int32 : IntType := ⟨true, 32⟩

/-- The signed type of 64 bits. -/
def int64 : IntType := ⟨true, 64⟩

/-- The unsigned type of 64 bits, which also counts positions and lengths. -/
def uint64 : IntType := ⟨false, 64⟩

/-- The least integer of the type. -/
def least (t : IntType) : Int :=
  if t.signed then -(Nat.pow 2 (t.width - 1)) else 0

/-- The greatest integer of the type. -/
def greatest (t : IntType) : Int :=
  if t.signed then Nat.pow 2 (t.width - 1) - 1 else Nat.pow 2 t.width - 1

end IntType

/-- A word of an integer type is its pattern of bits. -/
structure Word (t : IntType) where
  /-- The pattern of bits. -/
  bits : BitVec t.width
deriving DecidableEq

namespace Word

variable {t : IntType}

/-- The integer a word stands for under its type's reading. -/
def toInt (x : Word t) : Int :=
  if t.signed then x.bits.toInt else x.bits.toNat

/-- The word that agrees with an integer modulo two to the width. -/
def ofInt (t : IntType) (n : Int) : Word t :=
  ⟨BitVec.ofInt t.width n⟩

/-- The word of an integer that lies in the type's range. -/
def ofInt? (t : IntType) (n : Int) : Option (Word t) :=
  if t.least ≤ n ∧ n ≤ t.greatest then some (ofInt t n) else none

/-- The word of the nearest integer in the type's range. -/
def clamp (t : IntType) (n : Int) : Word t :=
  ofInt t (max t.least (min n t.greatest))

/-- The word of another type that agrees with this one modulo two to the new width. -/
def convert (u : IntType) (x : Word t) : Word u :=
  ofInt u x.toInt

/-- A word is determined by its integer. -/
theorem toInt_inj {x y : Word t} (same : x.toInt = y.toInt) : x = y := by
  -- Both readings of a bit vector are injective.
  obtain ⟨a⟩ := x
  obtain ⟨b⟩ := y
  simp only [toInt] at same
  split at same
  · exact congrArg _ (BitVec.eq_of_toInt_eq same)
  · exact congrArg _ (BitVec.eq_of_toNat_eq (Int.ofNat_inj.mp same))

/-- Zero is a word of every type. -/
instance : Inhabited (Word t) := ⟨⟨0⟩⟩

/-- A numeral is the word of its integer. -/
instance (n : Nat) : OfNat (Word t) n := ⟨ofInt t n⟩

/-- Words are ordered as their integers. -/
instance : Ord (Word t) := ⟨fun x y => compare x.toInt y.toInt⟩

/-- The order of words is total, since that of integers is. -/
instance : Std.TransOrd (Word t) :=
  inferInstanceAs (Std.TransCmp (compareOn (toInt (t := t))))

/-- Words that compare as equal are the same. -/
instance : Std.LawfulEqOrd (Word t) where
  compare_self {x} := by
    have same : compare x.toInt x.toInt = .eq := Std.ReflCmp.compare_self
    exact same
  eq_of_compare {x y} same := by
    -- Words that compare as equal have the same integer.
    have integers : compare x.toInt y.toInt = .eq := same
    exact toInt_inj (Std.LawfulEqCmp.eq_of_compare integers)

/-- Sums wrap around. -/
instance : Add (Word t) := ⟨fun x y => ⟨x.bits + y.bits⟩⟩

/-- Differences wrap around. -/
instance : Sub (Word t) := ⟨fun x y => ⟨x.bits - y.bits⟩⟩

/-- Products wrap around. -/
instance : Mul (Word t) := ⟨fun x y => ⟨x.bits * y.bits⟩⟩

/-- The negative of the least word wraps around to it. -/
instance : Neg (Word t) := ⟨fun x => ⟨-x.bits⟩⟩

/-- The bits that both words have. -/
instance : AndOp (Word t) := ⟨fun x y => ⟨x.bits &&& y.bits⟩⟩

/-- The bits that one of the words has. -/
instance : OrOp (Word t) := ⟨fun x y => ⟨x.bits ||| y.bits⟩⟩

/-- The bits that exactly one of the words has. -/
instance : XorOp (Word t) := ⟨fun x y => ⟨x.bits ^^^ y.bits⟩⟩

/-- The quotient cut toward zero, modulo two to the width. -/
def quotient (x y : Word t) : Word t :=
  -- Only the least signed word over minus one leaves the range.
  ofInt t (x.toInt.tdiv y.toInt)

/-- The remainder that goes with the quotient cut toward zero. -/
def remainder (x y : Word t) : Word t :=
  ofInt t (x.toInt.tmod y.toInt)

end Word

end DynValue
