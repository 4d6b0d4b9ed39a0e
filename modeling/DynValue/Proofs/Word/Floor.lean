import Mathlib.Data.Rat.Floor
import DynValue.Proofs.Word.Range
import DynValue.Word.Floor

/-! The quotient that is cut toward zero and then mended is the floor of the exact quotient. -/

namespace DynValue

/-- A quotient and a remainder that is smaller than the divisor and does not have the other sign. -/
structure FloorSplit (a b q r : Int) : Prop where
  /-- The quotient and the remainder make up the dividend. -/
  sum : b * q + r = a
  /-- The remainder lies between zero and the divisor. -/
  rest : 0 < b ∧ 0 ≤ r ∧ r < b ∨ b < 0 ∧ b < r ∧ r ≤ 0

namespace FloorSplit

variable {a b q r : Int}

/-- There is one such quotient, the floor of the exact one. -/
theorem floor_eq (split : FloorSplit a b q r) : ⌊(a / b : ℚ)⌋ = q := by
  obtain ⟨sum, rest⟩ := split
  -- The floor is the one integer at most the quotient and more than the quotient less one.
  rw [Int.floor_eq_iff, ← sum]
  push_cast
  rcases rest with ⟨positive, low, high⟩ | ⟨negative, low, high⟩
  · have positive : (0 : ℚ) < b := by exact_mod_cast positive
    have low : (0 : ℚ) ≤ r := by exact_mod_cast low
    have high : (r : ℚ) < b := by exact_mod_cast high
    rw [le_div_iff₀ positive, div_lt_iff₀ positive]
    constructor <;> linarith
  · -- A negative divisor turns both comparisons around.
    have negative : (b : ℚ) < 0 := by exact_mod_cast negative
    have low : (b : ℚ) < r := by exact_mod_cast low
    have high : (r : ℚ) ≤ 0 := by exact_mod_cast high
    rw [le_div_iff_of_neg negative, div_lt_iff_of_neg negative]
    constructor <;> linarith

/-- In a range around zero, only the least integer over minus one has its quotient outside. -/
theorem inRange_iff {limit : Int} (split : FloorSplit a b q r) (dividend : -limit ≤ a ∧ a < limit)
    (divisor : -limit ≤ b) : (-limit ≤ q ∧ q < limit) ↔ ¬(a = -limit ∧ b = -1) := by
  obtain ⟨sum, rest⟩ := split
  constructor
  · rintro inside ⟨rfl, rfl⟩
    omega
  · intro ordinary
    rcases rest with ⟨positive, low, high⟩ | ⟨negative, low, high⟩
    · -- A positive divisor brings the dividend nearer to zero, or leaves it.
      constructor <;> by_contra outside
      · have far : b * (q + 1) ≤ -limit := by nlinarith
        nlinarith
      · have far : limit ≤ b * q := by nlinarith
        omega
    · by_cases unit : b = -1
      · subst unit
        omega
      · -- Any other negative divisor at least halves the dividend.
        have halved : b ≤ -2 := by omega
        constructor <;> by_contra outside
        · have far : 2 * limit ≤ b * (q + 1) := by nlinarith
          nlinarith
        · have far : b * q ≤ -2 * limit := by nlinarith
          omega

end FloorSplit

/-- A signed type reaches one further down than up. -/
theorem IntType.greatest_of_signed {t : IntType} (signed : t.signed = true) : t.greatest = -t.least - 1 := by
  -- Zero is counted with the positive half.
  simp only [greatest, least, if_pos signed]
  omega

namespace Word

variable {t : IntType}

section Signed

variable {a b : Word t} (signed : t.signed = true) (nonzero : b.toInt ≠ 0)

include signed nonzero

/-- The remainder of a cut quotient is smaller than the divisor, so that its word is exact. -/
theorem toInt_remainder :
    (a.remainder b).toInt = a.toInt.tmod b.toInt ∧ (a.toInt.tmod b.toInt).natAbs < b.toInt.natAbs := by
  -- No divisor is larger than the least word allows, and the remainder is smaller still.
  have smaller : (a.toInt.tmod b.toInt).natAbs < b.toInt.natAbs := by
    rw [Int.natAbs_tmod]
    exact Nat.mod_lt _ (by omega)
  refine ⟨toInt_ofInt (width_pos nonzero) ?_, smaller⟩
  have divisor := b.toInt_inRange
  have limits := IntType.greatest_of_signed signed
  omega

/-- The sign test tells which quotients were cut upward, and mending gives the floor and its remainder. -/
theorem floorSplit_of_cut :
    (cutUpward (a.remainder b) b = true ∧
        FloorSplit a.toInt b.toInt (a.toInt.tdiv b.toInt - 1) (a.toInt.tmod b.toInt + b.toInt)) ∨
      (cutUpward (a.remainder b) b = false ∧
        FloorSplit a.toInt b.toInt (a.toInt.tdiv b.toInt) (a.toInt.tmod b.toInt)) := by
  obtain ⟨rest, smaller⟩ := toInt_remainder (a := a) signed nonzero
  have sum := Int.mul_tdiv_add_tmod a.toInt b.toInt
  rw [cutUpward, rest]
  generalize a.toInt.tmod b.toInt = r at *
  generalize a.toInt.tdiv b.toInt = q at *
  by_cases other : r ≠ 0 ∧ ¬(r < 0 ↔ b.toInt < 0)
  · -- The signs differ, so that adding the divisor does not pass zero.
    refine .inl ⟨by simpa using other, ⟨?_, by omega⟩⟩
    rw [← sum]
    ring
  · exact .inr ⟨by simpa using other, ⟨sum, by omega⟩⟩

/-- Floor division gives the floor of the exact quotient, reduced to the width. -/
theorem floorDiv?_eq_floor : a.floorDiv? b = some (ofInt t ⌊(a.toInt / b.toInt : ℚ)⌋) := by
  rw [floorDiv?, if_neg nonzero]
  rcases floorSplit_of_cut (a := a) signed nonzero with ⟨upward, split⟩ | ⟨downward, split⟩
  · -- One less than the word of the quotient is the word of one less.
    have mended : ofInt t (a.toInt.tdiv b.toInt - 1) = a.quotient b - 1 := ofInt_sub _ _
    simp only [upward, if_true, split.floor_eq, mended]
  · simp only [downward, Bool.false_eq_true, if_false, split.floor_eq, quotient]

/-- The sign of a remainder is mended inside of the range. -/
theorem toInt_remainder_add (upward : cutUpward (a.remainder b) b = true) :
    (a.remainder b + b).toInt = (a.remainder b).toInt + b.toInt := by
  -- The remainder and the divisor have opposite signs, so that their sum lies between them.
  have rest := (toInt_remainder (a := a) signed nonzero).1
  have divisor := b.toInt_inRange
  have limits := IntType.greatest_of_signed signed
  apply toInt_add_of_inRange (width_pos nonzero)
  rw [rest]
  rcases floorSplit_of_cut (a := a) signed nonzero with ⟨_, split⟩ | ⟨downward, _⟩
  · have between := split.rest
    omega
  · rw [upward] at downward
    contradiction

/-- A quotient that was cut upward is exact, and so is one less. -/
theorem toInt_quotient_sub_one (upward : cutUpward (a.remainder b) b = true) :
    (a.quotient b - 1).toInt = (a.quotient b).toInt - 1 := by
  have wide := width_pos nonzero
  have dividend := a.toInt_inRange
  have limits := IntType.greatest_of_signed signed
  obtain ⟨rest, smaller⟩ := toInt_remainder (a := a) signed nonzero
  -- A remainder that is not zero needs a divisor of two or more, which at least halves the dividend.
  have remains : a.toInt.tmod b.toInt ≠ 0 := by
    simp only [cutUpward, rest, Bool.and_eq_true, decide_eq_true_eq] at upward
    exact upward.1
  have halved : (a.toInt.tdiv b.toInt).natAbs ≤ a.toInt.natAbs / 2 := by
    rw [Int.natAbs_tdiv]
    exact Nat.div_le_div_left (by omega) (by decide)
  have cut : (a.quotient b).toInt = a.toInt.tdiv b.toInt := toInt_ofInt wide (by omega)
  have mended : a.quotient b - 1 = ofInt t (a.toInt.tdiv b.toInt - 1) := (ofInt_sub _ _).symm
  rw [cut, mended, toInt_ofInt wide (by omega)]

/-- The remainder of floor division is exact, and it goes with the floor of the quotient. -/
theorem floorSplit_floorMod :
    FloorSplit a.toInt b.toInt ⌊(a.toInt / b.toInt : ℚ)⌋ (a.floorMod b).toInt := by
  -- A quotient that was cut upward is one too large, and then the divisor is added to the remainder.
  have rest := (toInt_remainder (a := a) signed nonzero).1
  rw [floorMod, if_neg nonzero]
  rcases floorSplit_of_cut (a := a) signed nonzero with ⟨upward, split⟩ | ⟨downward, split⟩
  · simp only [upward, if_true]
    rwa [toInt_remainder_add signed nonzero upward, rest, split.floor_eq]
  · simp only [downward, Bool.false_eq_true, if_false]
    rwa [rest, split.floor_eq]

end Signed

end Word

end DynValue
