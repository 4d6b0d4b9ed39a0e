import DynValue.Proofs.Decimal.Reader
import DynValue.Proofs.Decimal.Shortest

/-!
Every layout writes the number that a decimal stands for.

The text of a floating-point number reads as its shortest decimal, wherever the point is set, so that the text determines
the number.
-/

namespace DynValue.Layout

open Decimal

/-- The number with these digits, the leading one of which counts a power of ten. -/
def placed (digits : List Char) (order : Int) : ℚ :=
  Nat.ofDigitChars 10 digits 0 * 10 ^ (order + 1 - digits.length)

/-- A text is an unsigned decimal that stands for a number. -/
def Reads (text : List Char) (number : ℚ) : Prop :=
  ∃ decimal, readUnsigned? text = some decimal ∧ decimal.value = number

/-- A power of ten that is taken out of a number is made up for by the exponent. -/
theorem ten_pow_mul (zeros : Nat) (exponent : Int) : (10 : ℚ) ^ zeros * 10 ^ (exponent - zeros) = 10 ^ exponent := by
  -- The exponents of the two powers add up to the whole one.
  rw [← zpow_natCast, ← zpow_add₀ (by norm_num)]
  congr 1
  omega

/-- The value of digits with an exponent is that of the digits with their leading one in its place. -/
theorem value_ofDigitChars (digits : List Char) (exponent : Int) :
    value ⟨Nat.ofDigitChars 10 digits 0, exponent⟩ = placed digits (exponent + digits.length - 1) := by
  -- The exponent counts from the last digit and the place from the first.
  simp only [value, placed]
  congr 2
  omega

/-- Zeros behind the digits add nothing. -/
theorem placed_append_zeros (digits : List Char) (zeros : Nat) (order : Int) :
    placed (digits ++ List.replicate zeros '0') order = placed digits order := by
  -- Each zero multiplies the digits by ten and moves the last of them one place back.
  have exponent : order + 1 - ((digits ++ List.replicate zeros '0').length : Int) =
      order + 1 - digits.length - zeros := by
    simp
    omega
  have digitsOf : Nat.ofDigitChars 10 (digits ++ List.replicate zeros '0') 0 =
      10 ^ zeros * Nat.ofDigitChars 10 digits 0 := by
    rw [Nat.ofDigitChars_append, Nat.ofDigitChars_replicate_zero]
  rw [placed, placed, exponent, digitsOf, ← ten_pow_mul zeros (order + 1 - digits.length)]
  push_cast
  ring

/-- Zeros in front of the digits move them back. -/
theorem placed_zeros_append (digits : List Char) (zeros : Nat) (order : Int) :
    placed (List.replicate zeros '0' ++ digits) order = placed digits (order - zeros) := by
  -- Zeros in front are worth nothing, but the leading digit is now one of them.
  have exponent : order + 1 - ((List.replicate zeros '0' ++ digits).length : Int) =
      order - zeros + 1 - digits.length := by
    simp
    omega
  rw [placed, placed, exponent, Nat.ofDigitChars_append, Nat.ofDigitChars_replicate_zero, Nat.mul_zero]

/-- Digits without a point are a whole number. -/
theorem reads_whole {whole : List Char} (nonempty : whole ≠ []) (all : whole.all Char.isDigit = true)
    {order : Int} (places : (whole.length : Int) = order + 1) : Reads whole (placed whole order) := by
  -- The last digit stands for the ones.
  have reads := readUnsigned?_whole nonempty all (show readExponent? [] = some 0 from rfl)
  rw [List.append_nil] at reads
  refine ⟨_, reads, ?_⟩
  rw [value_ofDigitChars]
  congr 1
  omega

/-- The digits in front of a point count how far the leading one stands from it. -/
theorem reads_point {whole fraction : List Char} (nonempty : whole ≠ [])
    (allWhole : whole.all Char.isDigit = true) (allFraction : fraction.all Char.isDigit = true)
    {order : Int} (places : (whole.length : Int) = order + 1) :
    Reads (whole ++ '.' :: fraction) (placed (whole ++ fraction) order) := by
  -- As many digits as stand behind the point, so far is the last one from the ones.
  have reads := readUnsigned?_fraction nonempty allWhole allFraction (show readExponent? [] = some 0 from rfl)
  rw [List.append_nil] at reads
  refine ⟨_, reads, ?_⟩
  rw [value_ofDigitChars, List.length_append]
  congr 1
  omega

/-- Behind the point, zeros fill the places up to the leading digit. -/
theorem reads_behind_point {digits : List Char} (all : digits.all Char.isDigit = true) (zeros : Nat) :
    Reads ('0' :: '.' :: (List.replicate zeros '0' ++ digits)) (placed digits (-(zeros + 1 : Nat))) := by
  have reads : Reads (['0'] ++ '.' :: (List.replicate zeros '0' ++ digits))
      (placed (['0'] ++ (List.replicate zeros '0' ++ digits)) 0) :=
    reads_point (by simp) (by decide) (by simp [all]) (by simp)
  -- The zero in front of the point is one more of them.
  have together : ['0'] ++ (List.replicate zeros '0' ++ digits) = List.replicate (zeros + 1) '0' ++ digits := by
    simp [List.replicate_succ]
  rwa [together, placed_zeros_append, zero_sub] at reads

/-- In front of the point, zeros fill the places behind the last digit. -/
theorem reads_before_point {digits : List Char} (nonempty : digits ≠ [])
    (all : digits.all Char.isDigit = true) {zeros : Nat} {order : Int}
    (places : (digits.length : Int) + zeros = order + 1) :
    Reads (digits ++ List.replicate zeros '0') (placed digits order) ∧
      Reads (digits ++ List.replicate zeros '0' ++ ['.', '0']) (placed digits order) := by
  have filled : ((digits ++ List.replicate zeros '0').length : Int) = order + 1 := by
    simp
    omega
  have allFilled : (digits ++ List.replicate zeros '0').all Char.isDigit = true := by simp [all]
  constructor
  · have reads := reads_whole (by simp [nonempty]) allFilled filled
    rwa [placed_append_zeros] at reads
  · have reads := reads_point (by simp [nonempty]) allFilled (show ['0'].all Char.isDigit = true by decide) filled
    -- The zero behind the point is one more of them.
    have together : digits ++ List.replicate zeros '0' ++ ['0'] = digits ++ List.replicate (zeros + 1) '0' := by
      simp [List.replicate_succ']
    rwa [together, placed_append_zeros] at reads

/-- Positional digits stand for the number with the leading digit in its place. -/
theorem reads_positionalText (wholePoint : Bool) {digits : List Char} (nonempty : digits ≠ [])
    (all : digits.all Char.isDigit = true) (order : Int) :
    Reads (positionalText wholePoint digits order) (placed digits order) := by
  unfold positionalText
  split
  · -- The leading digit stands behind the point, after zeros.
    rename_i small
    obtain ⟨zeros, rfl⟩ : ∃ zeros : Nat, order = -(zeros + 1 : Nat) := ⟨(-order - 1).toNat, by omega⟩
    have count : (-(-((zeros + 1 : Nat) : Int)) - 1).toNat = zeros := by omega
    rw [count]
    exact reads_behind_point all zeros
  · rename_i large
    obtain ⟨places, rfl⟩ := Int.eq_ofNat_of_zero_le (not_lt.mp large)
    simp only [Int.toNat_natCast]
    -- All digits may stand in front of the point, with zeros up to it.
    by_cases short : digits.length ≤ places + 1
    · have filled : (digits.length : Int) + (places + 1 - digits.length : Nat) = places + 1 := by omega
      obtain ⟨plain, pointed⟩ := reads_before_point nonempty all filled
      rw [List.drop_eq_nil_of_le short, List.take_of_length_le short]
      cases wholePoint with
      | false => exact plain
      | true => exact pointed
    · -- The point stands among the digits, which leave no place to fill.
      have before : ((digits.take (places + 1)).length : Int) = places + 1 := by
        simp
        omega
      have unfilled : places + 1 - digits.length = 0 := by omega
      have halves := all
      rw [← List.take_append_drop (places + 1) digits, List.all_append, Bool.and_eq_true] at halves
      have reads := reads_point (by simp [nonempty]) halves.1 halves.2 before
      rw [List.take_append_drop] at reads
      rw [unfilled, List.replicate_zero, List.append_nil]
      split
      · rename_i none
        rw [List.drop_eq_nil_iff] at none
        omega
      · exact reads

/-- Scientific digits stand for the number with the leading digit in its place. -/
theorem reads_scientificText (layout : Layout) {digits : List Char} (nonempty : digits ≠ [])
    (all : digits.all Char.isDigit = true) (order : Int) :
    Reads (layout.scientificText digits order) (placed digits order) := by
  -- One digit stands in front of the point; a single digit has no point at all.
  have exponent : readExponent? ('e' :: layout.exponentText order) = some order :=
    readInteger?_exponentText layout order
  unfold scientificText
  split
  · contradiction
  · rename_i digit
    refine ⟨_, readUnsigned?_whole nonempty all exponent, ?_⟩
    rw [value_ofDigitChars]
    simp
  · rename_i digit fraction _
    have halves : digit.isDigit = true ∧ fraction.all Char.isDigit = true := by simpa using all
    have leading : [digit].all Char.isDigit = true := by simp [halves.1]
    refine ⟨_, readUnsigned?_fraction (by simp) leading halves.2 exponent, ?_⟩
    rw [value_ofDigitChars]
    congr 1
    simp
    omega

/-- Only zeros are left out behind the significant digits. -/
theorem exists_significant_append {digits : List Char} (nonempty : digits ≠ []) :
    ∃ zeros, digits = significant digits ++ List.replicate zeros '0' := by
  have parts : digits = (digits.reverse.dropWhile (· = '0')).reverse ++
      (digits.reverse.takeWhile (· = '0')).reverse := by
    rw [← List.reverse_append, List.takeWhile_append_dropWhile, List.reverse_reverse]
  -- What comes off at the end is a run of zeros.
  have zeros : (digits.reverse.takeWhile (· = '0')).reverse =
      List.replicate (digits.reverse.takeWhile (· = '0')).length '0' := by
    rw [List.eq_replicate_iff]
    refine ⟨List.length_reverse, fun c member => ?_⟩
    simpa using List.all_eq_true.mp List.all_takeWhile c (List.mem_reverse.mp member)
  rw [zeros] at parts
  generalize (digits.reverse.takeWhile (· = '0')).length = count at parts
  unfold significant
  split
  · -- Of zeros alone, one is kept.
    rename_i none
    rw [none, List.nil_append] at parts
    cases count with
    | zero => exact absurd parts nonempty
    | succ count => exact ⟨count, parts⟩
  · exact ⟨count, parts⟩

/-- At least one digit is kept. -/
theorem significant_ne_nil (digits : List Char) : significant digits ≠ [] := by
  -- If all of them are zeros, one zero is kept.
  unfold significant
  split
  · simp
  · rename_i kept
    exact kept

/-- The digits that are kept are digits. -/
theorem all_isDigit_significant (n : Nat) : (significant (Nat.toDigits 10 n)).all Char.isDigit = true := by
  -- They are a piece of the digits of the number.
  obtain ⟨zeros, together⟩ := exists_significant_append (Nat.toDigits_ne_nil (n := n) (b := 10))
  have all := all_isDigit_toDigits n
  rw [together, List.all_append, Bool.and_eq_true] at all
  exact all.1

/-- The significant digits stand for the number, since the zeros that are left out add nothing. -/
theorem value_eq_placed (decimal : Decimal) :
    decimal.value = placed (significant (Nat.toDigits 10 decimal.coefficient))
      (decimal.exponent + (Nat.toDigits 10 decimal.coefficient).length - 1) := by
  -- The digits that are left out are zeros at the end, which only the number of digits accounts for.
  obtain ⟨zeros, together⟩ := exists_significant_append (Nat.toDigits_ne_nil (n := decimal.coefficient) (b := 10))
  have written := value_ofDigitChars (Nat.toDigits 10 decimal.coefficient) decimal.exponent
  rw [Nat.ofDigitChars_ten_toDigits] at written
  rw [← placed_append_zeros _ zeros, ← together]
  exact written

/-- A decimal without its sign stands for the number in every layout. -/
theorem reads_decimalText (layout : Layout) (decimal : Decimal) :
    Reads (layout.decimalText decimal) decimal.value := by
  -- The layout chooses between the two forms by the place of the leading digit.
  have nonempty := significant_ne_nil (Nat.toDigits 10 decimal.coefficient)
  have all := all_isDigit_significant decimal.coefficient
  rw [value_eq_placed]
  unfold decimalText
  dsimp only
  split
  · exact reads_positionalText layout.wholePoint nonempty all _
  · exact reads_scientificText layout nonempty all _

variable {f : Format}

/-- The text of a number without its sign. -/
def sizeText (layout : Layout) (x : Binary f) : List Char :=
  if x.isInfinite then "inf".toList else layout.decimalText (shortest layout.tie f x.magnitude)

/-- A number is written as its size, with a minus in front if it is negative. -/
theorem text_of_number (layout : Layout) {x : Binary f} (number : x.isNan = false) :
    layout.text x = if x.negative then '-' :: layout.sizeText x else layout.sizeText x := by
  -- A number that is none has a name of its own, without a sign.
  simp [text, number, sizeText]

/-- The size of a number does not start with a sign. -/
theorem sizeText_ne_minus (layout : Layout) (x : Binary f) (rest : List Char) :
    layout.sizeText x ≠ '-' :: rest := by
  unfold sizeText
  split
  · simp
  · -- A decimal reads without its sign, and behind a sign nothing does.
    intro same
    obtain ⟨decimal, reads, _⟩ := reads_decimalText layout (shortest layout.tie f x.magnitude)
    simp [same, readUnsigned?, splitDigits] at reads

/-- The text of the size determines the magnitude. -/
theorem magnitude_of_sizeText {layout : Layout} {x y : Binary f}
    (same : layout.sizeText x = layout.sizeText y) : x.magnitude = y.magnitude := by
  -- The name of an infinity is no decimal.
  have named (decimal : Decimal) : layout.decimalText decimal ≠ "inf".toList := by
    intro isName
    obtain ⟨_, reads, _⟩ := reads_decimalText layout decimal
    simp [isName, readUnsigned?, splitDigits] at reads
  simp only [sizeText, Binary.isInfinite, decide_eq_true_eq] at same
  split at same
  · rename_i infiniteX
    split at same
    · rename_i infiniteY
      rw [infiniteX, infiniteY]
    · exact absurd same.symm (named _)
  · split at same
    · exact absurd same (named _)
    · -- Equal texts read as the same number, which only one magnitude is written as.
      obtain ⟨first, readsX, valueX⟩ := reads_decimalText layout (shortest layout.tie f x.magnitude)
      obtain ⟨second, readsY, valueY⟩ := reads_decimalText layout (shortest layout.tie f y.magnitude)
      rw [same, readsY, Option.some.injEq] at readsX
      rw [readsX, valueX] at valueY
      exact (shortest_strictMono layout.tie f).injective valueY

/-- The text of a number determines the number. -/
theorem text_inj {layout : Layout} {x y : Binary f} (numberX : x.isNan = false) (numberY : y.isNan = false)
    (same : layout.text x = layout.text y) : x = y := by
  -- A size does not start with a minus, so that the first character tells the sign.
  rw [text_of_number layout numberX, text_of_number layout numberY] at same
  have sizes : layout.sizeText x = layout.sizeText y ∧ x.negative = y.negative := by
    cases signX : x.negative <;> cases signY : y.negative <;>
      simp only [signX, signY, Bool.false_eq_true, if_true, if_false] at same
    · exact ⟨same, rfl⟩
    · exact absurd same (sizeText_ne_minus layout x _)
    · exact absurd same.symm (sizeText_ne_minus layout y _)
    · exact ⟨(List.cons.inj same).2, rfl⟩
  -- What is left are the sizes, each of which determines its magnitude.
  have magnitudes := magnitude_of_sizeText sizes.1
  obtain ⟨signX, magnitudeX, boundX⟩ := x
  obtain ⟨signY, magnitudeY, boundY⟩ := y
  simp only at magnitudes sizes
  obtain ⟨_, rfl⟩ := sizes
  subst magnitudes
  rfl

/-- Whether a character occurs in the texts of numbers. -/
def isNumeral (c : Char) : Bool := c.isDigit || ['-', '+', '.', 'e', 'i', 'n', 'f'].contains c

/-- Whether a character tells a number that is not written as an integer. -/
def isMark (c : Char) : Bool := c = '.' || c = 'e' || c = 'i'

/-- Digits are characters of numbers. -/
theorem all_isNumeral_of_digits {digits : List Char} (all : digits.all Char.isDigit = true) :
    digits.all isNumeral = true := by
  -- To be a digit is one of the ways to be such a character.
  simp only [List.all_eq_true] at all ⊢
  intro c member
  simp [isNumeral, all c member]

/-- Positional digits are written with the digits, zeros and a point. -/
theorem all_positionalText {p : Char → Bool} (zero : p '0' = true) (point : p '.' = true) (wholePoint : Bool)
    {digits : List Char} (all : digits.all p = true) (order : Int) :
    (positionalText wholePoint digits order).all p = true := by
  have zeros (count : Nat) : (List.replicate count '0').all p = true := by simp [zero]
  -- The point divides the digits into those before it and those behind.
  have halves := all
  rw [← List.take_append_drop (order.toNat + 1) digits, List.all_append, Bool.and_eq_true] at halves
  unfold positionalText
  split
  · simp [zero, point, zeros, all]
  · dsimp only
    split
    · split <;> simp [zero, point, zeros, halves.1]
    · simp [point, zeros, halves.1, halves.2]

/-- Scientific digits are written with characters of numbers. -/
theorem all_isNumeral_scientificText (layout : Layout) {digits : List Char}
    (all : digits.all isNumeral = true) (order : Int) :
    (layout.scientificText digits order).all isNumeral = true := by
  -- Besides digits there are a point, a mark and perhaps the sign of the exponent.
  have point : isNumeral '.' = true := rfl
  have mark : isNumeral 'e' = true := rfl
  have exponent : (layout.exponentText order).all isNumeral = true := by
    have zero : isNumeral '0' = true := rfl
    have minus : isNumeral '-' = true := rfl
    have plus : isNumeral '+' = true := rfl
    have size := all_isNumeral_of_digits (all_isDigit_toDigits order.natAbs)
    unfold exponentText
    dsimp only
    split
    · simp [zero, minus, size]
    · split <;> simp [zero, plus, size]
  unfold scientificText
  split
  · rfl
  · simp_all
  · simp_all

/-- A number is written with digits, signs, a point, the mark of an exponent and the name of infinity. -/
theorem all_isNumeral_text (layout : Layout) {x : Binary f} (number : x.isNan = false) :
    (layout.text x).all isNumeral = true := by
  -- The infinity is written as a name, and every other size in one of the two forms.
  have size : (layout.sizeText x).all isNumeral = true := by
    unfold sizeText
    split
    · decide
    · have all := all_isNumeral_of_digits
        (all_isDigit_significant (shortest layout.tie f x.magnitude).coefficient)
      unfold decimalText
      dsimp only
      split
      · exact all_positionalText rfl rfl layout.wholePoint all _
      · exact all_isNumeral_scientificText layout all _
  have minus : isNumeral '-' = true := rfl
  rw [text_of_number layout number]
  split <;> simp [minus, size]

/-- Where whole numbers keep a point, the text of a number has a point, a mark or a name. -/
theorem exists_mark_text (layout : Layout) (point : layout.wholePoint = true) {x : Binary f}
    (number : x.isNan = false) : ∃ c ∈ layout.text x, isMark c = true := by
  -- Digits with a point have the point, scientific ones the mark, and infinity its first letter.
  have size : ∃ c ∈ layout.sizeText x, isMark c = true := by
    unfold sizeText
    split
    · exact ⟨'i', by decide, rfl⟩
    · unfold decimalText
      dsimp only
      split
      · refine ⟨'.', ?_, rfl⟩
        rw [positionalText, point]
        split
        · simp
        · dsimp only
          split <;> simp
      · refine ⟨'e', ?_, rfl⟩
        unfold scientificText
        split
        · rename_i none
          exact absurd none (significant_ne_nil _)
        · simp
        · simp
  -- A sign in front leaves the mark where it is.
  obtain ⟨c, member, isMark⟩ := size
  refine ⟨c, ?_, isMark⟩
  rw [text_of_number layout number]
  split
  · exact List.mem_cons_of_mem _ member
  · exact member

end DynValue.Layout
