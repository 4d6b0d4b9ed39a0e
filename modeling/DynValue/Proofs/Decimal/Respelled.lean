import DynValue.Decimal.Respelled
import DynValue.Proofs.Decimal.Fewest
import DynValue.Proofs.Decimal.ReadBack
import DynValue.Proofs.Word.Range

/-!
Respelling the compact text of a number gives the text of the literal layout.

The two layouts differ in the exponents of small and large numbers, and in the one decade below one ten-thousandth, which
the compact layout writes positionally and the literal one does not.
-/

namespace DynValue.Decimal

open Layout

/-- Digits as they are written for a number other than zero: neither the first nor the last is a zero. -/
structure IsSignificant (digits : List Char) : Prop where
  /-- There is at least one. -/
  nonempty : digits ≠ []
  /-- All of them are digits. -/
  all : digits.all Char.isDigit = true
  /-- The first one is not a zero. -/
  first : digits.head? ≠ some '0'
  /-- The last one is not a zero. -/
  last : digits.getLast? ≠ some '0'

/-- The digits that are kept of a positive number start and end with a digit other than zero. -/
theorem isSignificant_significant {n : Nat} (positive : 0 < n) : IsSignificant (significant (Nat.toDigits 10 n)) := by
  have nonempty := significant_ne_nil (Nat.toDigits 10 n)
  have first : (significant (Nat.toDigits 10 n)).head? ≠ some '0' := by
    -- The zeros that are left out stand behind the first digit.
    obtain ⟨zeros, together⟩ := exists_significant_append (Nat.toDigits_ne_nil (n := n) (b := 10))
    have first := head?_toDigits positive
    rw [together] at first
    rwa [List.head?_append_of_ne_nil _ nonempty] at first
  refine ⟨nonempty, all_isDigit_significant n, first, ?_⟩
  -- All zeros at the end are dropped, so that the last digit kept is none.
  unfold significant at first ⊢
  split at first
  · exact absurd rfl first
  · rw [List.getLast?_reverse]
    intro isZero
    have kept := List.head?_dropWhile_not (· = '0') (Nat.toDigits 10 n).reverse
    simp [isZero] at kept

/-- The leading digit, and the others behind a point. -/
def mantissaText : List Char → List Char
  | [] => []
  | digit :: fraction => digit :: if fraction = [] then [] else '.' :: fraction

/-- Scientific digits are the mantissa, the mark and the exponent. -/
theorem scientificText_eq (layout : Layout) {digits : List Char} (nonempty : digits ≠ []) (order : Int) :
    layout.scientificText digits order = mantissaText digits ++ 'e' :: layout.exponentText order := by
  -- The layouts agree on the mantissa, which has a point only if there are several digits.
  unfold scientificText
  split
  · contradiction
  · rfl
  · rename_i fraction several
    rw [mantissaText, if_neg several]
    rfl

/-- The mantissa ends with the last digit. -/
theorem getLast?_mantissaText (digits : List Char) : (mantissaText digits).getLast? = digits.getLast? := by
  -- The point stands behind the first digit, and only if there are others.
  cases digits with
  | nil => rfl
  | cons digit fraction =>
    cases fraction with
    | nil => rfl
    | cons next rest => simp [mantissaText]

/-- A text that has no mark is not split. -/
theorem splitMark?_of_unmarked {text : List Char} (unmarked : text.all (· ≠ 'e') = true) : splitMark? text = none := by
  -- The search for the mark runs to the end of the text.
  have rest : text.dropWhile (· ≠ 'e') = [] := by
    rw [← List.append_nil text, List.dropWhile_append_of_pos (List.all_eq_true.mp unmarked), List.dropWhile_nil]
  rw [splitMark?, rest]

/-- A text is split at its first mark. -/
theorem splitMark?_append {mantissa : List Char} (exponent : List Char) (unmarked : mantissa.all (· ≠ 'e') = true) :
    splitMark? (mantissa ++ 'e' :: exponent) = some (mantissa, exponent) := by
  -- Everything in front of the mark is passed over, and nothing more.
  rw [List.all_eq_true] at unmarked
  rw [splitMark?, List.dropWhile_append_of_pos unmarked, List.takeWhile_append_of_pos unmarked]
  simp

/-- Without a point nothing is dropped in front. -/
theorem dropZeroPoint_of_pointless {text : List Char} (pointless : text.all (· ≠ '.') = true) :
    dropZeroPoint text = text := by
  -- What is dropped has a point in it.
  unfold dropZeroPoint
  split
  · simp at pointless
  · rfl

/-- Without a zero at the end nothing is dropped there. -/
theorem dropPointZero_of_last {text : List Char} (last : text.getLast? ≠ some '0') : dropPointZero text = text := by
  -- Read backward, what is dropped would start with a zero.
  rw [← List.head?_reverse] at last
  unfold dropPointZero dropZeroPoint
  split
  · rename_i reversed
    rw [reversed] at last
    simp at last
  · exact List.reverse_reverse text

/-- An exponent of 32 bits reads back in every layout. -/
theorem exponentOf_exponentText (layout : Layout) {order : Int}
    (inRange : IntType.int32.least ≤ order ∧ order ≤ IntType.int32.greatest) :
    exponentOf (layout.exponentText order) = order := by
  -- Out of range, the text would be taken as the exponent zero.
  have word : (Word.ofInt .int32 order).toInt = order := Word.toInt_ofInt (by decide) inRange
  simp [exponentOf, readInteger?_exponentText, Word.ofInt?, inRange, word]

variable {digits : List Char}

/-- Digits are no other character. -/
theorem IsSignificant.all_ne (written : IsSignificant digits) {c : Char} (other : c.isDigit = false) :
    digits.all (· ≠ c) = true := by
  -- A character that is no digit is none of them.
  have all := written.all
  rw [List.all_eq_true] at all ⊢
  intro digit member
  have isDigit := all digit member
  rw [decide_eq_true_eq]
  rintro rfl
  rw [isDigit] at other
  cases other

/-- The sign in front of a number. -/
def signText (negative : Bool) : List Char := if negative then ['-'] else []

/-- The text of a number is its sign and its size. -/
theorem text_eq_append (layout : Layout) {f : Format} {x : Binary f} (number : x.isNan = false) :
    layout.text x = signText x.negative ++ layout.sizeText x := by
  -- A positive number has an empty sign.
  rw [text_of_number layout number, signText]
  split <;> rfl

/-- What holds of a minus holds of the characters of a sign. -/
theorem all_signText {p : Char → Bool} (minus : p '-' = true) (negative : Bool) : (signText negative).all p = true := by
  -- A sign is a minus or nothing.
  cases negative <;> simp [signText, minus]

/-- What holds of a point and of the digits holds of the characters of a mantissa. -/
theorem all_mantissaText {p : Char → Bool} (point : p '.' = true) (all : digits.all p = true) :
    (mantissaText digits).all p = true := by
  -- Nothing but a point comes between the digits.
  cases digits with
  | nil => rfl
  | cons digit fraction =>
    simp only [List.all_cons, Bool.and_eq_true] at all
    rw [mantissaText]
    split <;> simp [point, all]

/-- A scientific text is respelled by replacing its exponent, since its mantissa does not end with a zero. -/
theorem respelled_scientificText (written : IsSignificant digits) {order : Int}
    (inRange : IntType.int32.least ≤ order ∧ order ≤ IntType.int32.greatest) (small negative : Bool) :
    respelled small (signText negative ++ compact.scientificText digits order) =
      signText negative ++ literal.scientificText digits order := by
  -- The mark is found behind the mantissa, in which none occurs.
  have unmarked : (signText negative ++ mantissaText digits).all (· ≠ 'e') = true := by
    rw [List.all_append, all_signText (by decide), all_mantissaText (by decide) (written.all_ne (by decide))]
    rfl
  -- The last digit of the mantissa is significant, so that nothing is dropped at its end.
  have last : (signText negative ++ mantissaText digits).getLast? ≠ some '0' := by
    -- There is a last digit at all.
    have nonempty : mantissaText digits ≠ [] := by
      intro none
      have same := getLast?_mantissaText digits
      rw [none] at same
      exact written.nonempty (List.getLast?_eq_none_iff.mp same.symm)
    rw [List.getLast?_append_of_ne_nil _ nonempty, getLast?_mantissaText]
    exact written.last
  rw [scientificText_eq _ written.nonempty, scientificText_eq _ written.nonempty, ← List.append_assoc,
    ← List.append_assoc, respelled, splitMark?_append _ unmarked]
  dsimp only
  rw [dropPointZero_of_last last, exponentOf_exponentText _ inRange, markedExponent]

/-- A positional text has no mark, so that it is respelled only for a small number. -/
theorem respelled_positionalText (written : IsSignificant digits) (order : Int) (small negative : Bool) :
    respelled small (signText negative ++ positionalText true digits order) =
      if small then scientificOfSmall (signText negative ++ positionalText true digits order)
      else signText negative ++ positionalText true digits order := by
  -- Neither the sign nor the digits and the point are a mark.
  have unmarked : (signText negative ++ positionalText true digits order).all (· ≠ 'e') = true := by
    rw [List.all_append, all_signText (by decide),
      all_positionalText (by decide) (by decide) _ (written.all_ne (by decide))]
    rfl
  rw [respelled, splitMark?_of_unmarked unmarked]

/-- A positional text with zeros behind its point is respelled as the scientific text of its digits. -/
theorem scientificOfSmall_positionalText (written : IsSignificant digits) (zeros : Nat) (negative : Bool) :
    scientificOfSmall (signText negative ++ positionalText true digits (-zeros - 1)) =
      signText negative ++ literal.scientificText digits (-zeros - 1) := by
  -- The leading digit stands this many zeros behind the point.
  have text : positionalText true digits (-zeros - 1) = '0' :: '.' :: (List.replicate zeros '0' ++ digits) := by
    have below : (-zeros - 1 : Int) < 0 := by omega
    have count : (-(-zeros - 1 : Int) - 1).toNat = zeros := by omega
    rw [positionalText, if_pos below, count]
  -- Behind the point nothing is dropped but the zeros, which are counted.
  have fraction : dropZeroPoint ('0' :: '.' :: (List.replicate zeros '0' ++ digits)) =
      List.replicate zeros '0' ++ digits := by
    rw [dropZeroPoint]
    apply dropZeroPoint_of_pointless
    rw [List.all_append, written.all_ne (by decide)]
    simp
  obtain ⟨digit, rest, rfl⟩ := List.exists_cons_of_ne_nil written.nonempty
  have nonzero : digit ≠ '0' := by simpa using written.first
  have kept : (List.replicate zeros '0' ++ digit :: rest).dropWhile (· = '0') = digit :: rest := by
    rw [List.dropWhile_append_of_pos (by simp)]
    simp [nonzero]
  have count : (List.replicate zeros '0' ++ digit :: rest).length - (digit :: rest).length = zeros := by simp
  -- One digit goes in front of the new point, and the point is left out if it is the only one.
  have mantissa : ((digit :: rest).take 1 ++ if 1 < (digit :: rest).length then '.' :: (digit :: rest).drop 1 else []) =
      mantissaText (digit :: rest) := by
    cases rest <;> rfl
  have size : scientificOfSize (positionalText true (digit :: rest) (-zeros - 1)) =
      literal.scientificText (digit :: rest) (-zeros - 1) := by
    rw [scientificOfSize, text, fraction, kept, count, mantissa, scientificText_eq _ written.nonempty, markedExponent]
  rw [← size, text]
  cases negative <;> rfl

/-- The text in the compact layout is respelled as the text in the literal one. -/
theorem respelled_size (written : IsSignificant digits) {order : Int}
    (inRange : IntType.int32.least ≤ order ∧ order ≤ IntType.int32.greatest) {small : Bool}
    (decides : small = true ↔ order < -4) (negative : Bool) :
    respelled small (signText negative ++
        if -5 ≤ order ∧ order ≤ 15 then positionalText true digits order else compact.scientificText digits order) =
      signText negative ++
        if -4 ≤ order ∧ order ≤ 15 then positionalText true digits order else literal.scientificText digits order := by
  by_cases both : -4 ≤ order ∧ order ≤ 15
  · -- Where both layouts are positional, the text is kept.
    have unsmall : ¬small = true := fun isSmall => by
      have := decides.mp isSmall
      omega
    rw [if_pos both, if_pos (by omega), respelled_positionalText written, if_neg unsmall]
  · rw [if_neg both]
    by_cases last : order = -5
    · -- This is the decade in which the layouts differ.
      subst last
      rw [if_pos (by decide), respelled_positionalText written, if_pos (decides.mpr (by decide))]
      exact scientificOfSmall_positionalText written 4 negative
    · -- Elsewhere both layouts are scientific and differ in the exponent.
      rw [if_neg (by omega), respelled_scientificText written inRange]

/-- The exponent of the leading digit of a decimal. -/
def leadingExponent (decimal : Decimal) : Int := decimal.exponent + digitCount decimal.coefficient - 1

/-- A decimal other than zero lies in the decade of its leading exponent. -/
theorem leadingExponent_bounds {decimal : Decimal} (positive : 0 < decimal.coefficient) :
    10 ^ decimal.leadingExponent ≤ decimal.value ∧ decimal.value < 10 ^ (decimal.leadingExponent + 1) := by
  obtain ⟨coefficient, exponent⟩ := decimal
  obtain ⟨lower, upper⟩ := digitCount_bounds positive
  have digits : 0 < digitCount coefficient := Nat.length_toDigits_pos
  have power : (0 : ℚ) < 10 ^ exponent := zpow_pos (by norm_num) _
  simp only [leadingExponent, value]
  generalize digitCount coefficient = count at *
  -- There is a first digit, so that one digit less counts a power that is a natural number.
  obtain ⟨count, rfl⟩ : ∃ less, count = less + 1 := ⟨count - 1, by omega⟩
  have least : exponent + (count + 1 : Nat) - 1 = (count : Nat) + exponent := by omega
  have next : exponent + (count + 1 : Nat) - 1 + 1 = (count + 1 : Nat) + exponent := by omega
  rw [next, least, zpow_add₀ (by norm_num), zpow_add₀ (by norm_num), zpow_natCast, zpow_natCast]
  -- The coefficient lies between two powers of ten, and both sides are scaled by the exponent.
  constructor
  · gcongr
    exact_mod_cast lower
  · gcongr
    exact_mod_cast upper

/-- A decimal lies below a power of ten exactly when its leading exponent does. -/
theorem value_lt_iff {decimal : Decimal} (positive : 0 < decimal.coefficient) (exponent : Int) :
    decimal.value < 10 ^ exponent ↔ decimal.leadingExponent < exponent := by
  -- The decimal lies between the powers of its leading exponent and of the next one.
  have ten : (1 : ℚ) < 10 := by norm_num
  obtain ⟨lower, upper⟩ := leadingExponent_bounds positive
  constructor
  · intro less
    exact (zpow_lt_zpow_iff_right₀ ten).mp (lower.trans_lt less)
  · intro less
    exact upper.trans_le (zpow_le_zpow_right₀ ten.le (by omega))

/-- The shortest decimal of a positive magnitude is not zero. -/
theorem coefficient_shortest_pos (tie : Tie) (f : Format) {magnitude : Nat} (positive : 0 < magnitude) :
    0 < (shortest tie f magnitude).coefficient :=
  coefficient_pos_of_contains positive (contains_shortest tie f positive)

/-- The exponents of finite numbers are exponents of 32 bits. -/
theorem leadingExponent_inRange (tie : Tie) {magnitude : Nat} (positive : 0 < magnitude)
    (finite : magnitude < Format.double.infinity) :
    IntType.int32.least ≤ (shortest tie .double magnitude).leadingExponent ∧
      (shortest tie .double magnitude).leadingExponent ≤ IntType.int32.greatest := by
  have ten : (1 : ℚ) < 10 := by norm_num
  obtain ⟨low, high⟩ := value_bounds positive finite (contains_shortest tie .double positive)
  obtain ⟨lower, upper⟩ := leadingExponent_bounds (coefficient_shortest_pos tie .double positive)
  -- The bounds on what is read are wide, and those of the type are wider still.
  have least := (zpow_lt_zpow_iff_right₀ ten).mp (low.trans_lt upper)
  have greatest := (zpow_le_zpow_iff_right₀ ten).mp (lower.trans high)
  have scale : Format.double.scale = 1074 := by decide
  have bits : Format.double.fractionBits = 52 := rfl
  have first : IntType.int32.least = -2147483648 := by decide
  have last : IntType.int32.greatest = 2147483647 := by decide
  omega

/-- A magnitude is less than that of a power of ten exactly when its leading exponent is. -/
theorem magnitude_lt_iff {threshold magnitude : Nat} {exponent : Int}
    (power : shortest .even .double threshold = ⟨1, exponent⟩) (positive : 0 < magnitude) :
    magnitude < threshold ↔ (shortest .even .double magnitude).leadingExponent < exponent := by
  have number : (shortest .even .double threshold).value = 10 ^ exponent := by
    rw [power, value, Nat.cast_one, one_mul]
  -- The decimals are in the order of the magnitudes, and that of the threshold is the power of ten.
  rw [← value_lt_iff (coefficient_shortest_pos .even .double positive), ← number,
    (shortest_strictMono .even .double).lt_iff_lt]

/-- The number nearest to one ten-thousandth is written as that. -/
theorem shortest_tenThousandth : shortest .even .double tenThousandth.magnitude = ⟨1, -4⟩ := by
  -- The search for the shortest decimal is carried out.
  decide +kernel

/-- Small numbers are those whose leading digit stands past the fourth place behind the point. -/
theorem isSmall_iff {x : Binary64} (number : x.isNan = false) (nonzero : x.isZero = false) :
    isSmall x = true ↔ (shortest .even .double x.magnitude).leadingExponent < -4 := by
  have positive := Binary.magnitude_pos nonzero
  have sign : tenThousandth.negative = false := by decide +kernel
  have comparable : tenThousandth.isNan = false := by decide +kernel
  have plain : Binary.isNan { x with negative := false } = false := number
  rw [← magnitude_lt_iff shortest_tenThousandth positive]
  -- Under positive signs the numeric order is the order of the magnitudes.
  unfold isSmall
  generalize tenThousandth = threshold at *
  simp only [nonzero, Bool.not_false, Bool.true_and, Binary.numericLt, Binary.compare?, plain, comparable, Bool.or_self,
    Bool.false_eq_true, if_false, Binary.place, sign, Option.some.injEq, Int.compare_eq_lt, decide_eq_true_eq,
    Nat.cast_lt]

/-- The digits of a decimal without the zeros at its end. -/
def digitsOf (decimal : Decimal) : List Char := significant (Nat.toDigits 10 decimal.coefficient)

/-- The leading exponent of a finite number decides its notation. -/
theorem text_of_finite (layout : Layout) {least greatest : Int} (tie : layout.tie = .even)
    (point : layout.wholePoint = true) (bounds : layout.positional = some (least, greatest)) {f : Format} {x : Binary f}
    (finite : x.isFinite = true) :
    layout.text x = signText x.negative ++
      if least ≤ (shortest .even f x.magnitude).leadingExponent ∧
          (shortest .even f x.magnitude).leadingExponent ≤ greatest then
        positionalText true (shortest .even f x.magnitude).digitsOf (shortest .even f x.magnitude).leadingExponent
      else layout.scientificText (shortest .even f x.magnitude).digitsOf
        (shortest .even f x.magnitude).leadingExponent := by
  -- The range of the positional notation is the only thing in which the two layouts decide differently.
  have decides (order : Int) : layout.isPositional order = true ↔ least ≤ order ∧ order ≤ greatest := by
    simp [isPositional, bounds]
  simp only [text_eq_append layout (Binary.isNan_of_isFinite finite), sizeText_of_finite layout finite, tie, decimalText,
    decides, point]
  rfl

/-- Respelling a finite number other than zero gives its text in the literal layout. -/
theorem respelledText_of_nonzero {x : Binary64} (finite : x.isFinite = true) (nonzero : x.isZero = false) :
    respelledText x = Layout.literal.text x := by
  -- Both texts are a sign and a size, and the digits of the size are significant, so that respelling finds its parts.
  have below : x.magnitude < Format.double.infinity := by simpa [Binary.isFinite] using finite
  have bounded := Binary.isInfinite_of_isFinite finite
  have number := Binary.isNan_of_isFinite finite
  have positive := Binary.magnitude_pos nonzero
  have written : IsSignificant (shortest .even .double x.magnitude).digitsOf :=
    isSignificant_significant (coefficient_shortest_pos .even .double positive)
  rw [respelledText, if_neg (by simp [number]), if_neg (by simp [bounded]),
    text_of_finite Layout.compact rfl rfl rfl finite, text_of_finite Layout.literal rfl rfl rfl finite]
  exact respelled_size written (leadingExponent_inRange .even positive below) (isSmall_iff number nonzero) x.negative

/-- The literal text of a number is its text in the literal layout. -/
theorem respelledText_eq (x : Binary64) : respelledText x = Layout.literal.text x := by
  by_cases nan : x.isNan = true
  · rw [respelledText, if_pos nan, Layout.text, if_pos nan]
    rfl
  by_cases infinite : x.isInfinite = true
  · rw [respelledText, if_neg nan, if_pos infinite, Layout.text, if_neg nan, if_pos infinite]
    cases x.negative <;> rfl
  by_cases zero : x.isZero = true
  · -- Both layouts write zero positionally.
    have magnitude : x.magnitude = 0 := by simpa [Binary.isZero] using zero
    have unsmall : isSmall x = false := by simp [isSmall, zero]
    rw [respelledText, if_neg nan, if_neg infinite, unsmall, Layout.text, Layout.text, if_neg nan, if_neg nan]
    dsimp only
    rw [if_neg infinite, if_neg infinite, magnitude]
    cases x.negative <;> decide
  · -- What is left are the finite numbers other than zero.
    refine respelledText_of_nonzero ?_ (by simpa using zero)
    simp only [Binary.isNan, Binary.isInfinite, Binary.isFinite, decide_eq_true_eq] at nan infinite ⊢
    omega

end DynValue.Decimal
