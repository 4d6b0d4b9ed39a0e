import DynValue.Proofs.Value.Literal

/-!
The literal of a floating-point number shows the shortest digits that read as the number.

The exponent of the leading digit decides the notation: positional between one ten-thousandth and ten to the sixteenth,
scientific outside. Respelling the compact text changes the notation and never the decimal that it stands for.
-/

namespace DynValue.Value

open Decimal Layout

/-- These digits, the leading one of which counts a power of ten, are the shortest ones that read as the number. -/
structure ShortestDigits (x : Binary64) (digits : List Char) (order : Int) : Prop where
  /-- Neither the first digit nor the last one is a zero. -/
  significant : IsSignificant digits
  /-- Reading the digits gives the number. -/
  reads : Binary.ofDecimal .double x.negative (Nat.ofDigitChars 10 digits 0) (order + 1 - digits.length) = x
  /-- Digits that read as the number are at least as many, wherever their point stands. -/
  fewest : ∀ (other : List Char) (exponent : Int), other.all Char.isDigit = true →
    Binary.ofDecimal .double x.negative (Nat.ofDigitChars 10 other 0) exponent = x → digits.length ≤ other.length

/-- Digits on both sides of a point, with a zero at either end only where it is the one digit of its side. -/
structure AroundPoint (whole fraction : List Char) : Prop where
  /-- There is a digit in front of the point. -/
  whole_ne_nil : whole ≠ []
  /-- There is a digit behind the point. -/
  fraction_ne_nil : fraction ≠ []
  /-- Only digits stand in front of it. -/
  all_whole : whole.all Char.isDigit = true
  /-- Only digits stand behind it. -/
  all_fraction : fraction.all Char.isDigit = true
  /-- In front, a leading zero stands alone. -/
  first : whole.head? = some '0' → whole = ['0']
  /-- Behind, a final zero stands alone. -/
  last : fraction.getLast? = some '0' → fraction = ['0']

/-- A text with a point and at least one digit on each side of it. -/
def IsPointed (text : List Char) : Prop :=
  ∃ whole fraction, text = whole ++ '.' :: fraction ∧ AroundPoint whole fraction

/-- An exponent with a sign and at least two digits, the first of which is a zero only to make them two. -/
def IsExponent (order : Int) (text : List Char) : Prop :=
  ∃ power, text = (if order < 0 then '-' else '+') :: power ∧ power.all Char.isDigit = true ∧
    Nat.ofDigitChars 10 power 0 = order.natAbs ∧ 2 ≤ power.length ∧ (2 < power.length → power.head? ≠ some '0')

/-- The number that a signed decimal stands for. -/
def exactValue? (text : List Char) : Option ℚ :=
  (readUnsigned? (splitSign text).2).map fun decimal =>
    if (splitSign text).1 then -decimal.value else decimal.value

/-- The least number that the compact layout writes positionally. -/
def hundredThousandth : Binary64 := Binary.ofDecimal .double false 1 (-5)

/-- How the compact layout writes a number with these digits. -/
structure CompactForm (x : Binary64) (digits : List Char) (order : Int) : Prop where
  /-- From one hundred-thousandth up to ten to the sixteenth, a point stands between digits. -/
  positional : -5 ≤ order ∧ order ≤ 15 →
    ∃ size, Layout.compact.text x = signText x.negative ++ size ∧ IsPointed size
  /-- Elsewhere the exponent is written as an integer. -/
  scientific : ¬(-5 ≤ order ∧ order ≤ 15) →
    Layout.compact.text x = signText x.negative ++ (mantissaText digits ++ 'e' :: integerText order)
  /-- The decade in which literals are written otherwise lies between two numbers. -/
  decade : order = -5 ↔ hundredThousandth.magnitude ≤ x.magnitude ∧ x.magnitude < tenThousandth.magnitude
  /-- The text stands for the number that the digits are. -/
  exact : exactValue? (Layout.compact.text x) = some (if x.negative then -placed digits order else placed digits order)

/-- How the literal of a number with these digits is written. -/
structure LiteralForm (x : Binary64) (digits : List Char) (order : Int) : Prop where
  /-- A point between digits is written from one ten-thousandth up to ten to the sixteenth, and only there. -/
  positional : (∃ size, (Value.float x).literal.toList = signText x.negative ++ size ∧ IsPointed size) ↔
    -4 ≤ order ∧ order ≤ 15
  /-- Elsewhere the exponent has a sign and at least two digits. -/
  scientific : ¬(-4 ≤ order ∧ order ≤ 15) → ∃ exponent, IsExponent order exponent ∧
    (Value.float x).literal.toList = signText x.negative ++ (mantissaText digits ++ 'e' :: exponent)
  /-- A minus in front tells the sign. -/
  minus : (Value.float x).literal.toList.head? = some '-' ↔ x.negative = true
  /-- The literal stands for the same decimal as the compact text. -/
  exact : exactValue? (Value.float x).literal.toList = exactValue? (Layout.compact.text x)
  /-- The literal reads back as the number. -/
  reads : readBinary? .double (Value.float x).literal.toList = some x

/-- Digits make up a number below the power of ten that they count. -/
theorem ofDigitChars_lt {digits : List Char} (all : digits.all Char.isDigit = true) :
    Nat.ofDigitChars 10 digits 0 < 10 ^ digits.length := by
  induction digits with
  | nil => decide
  | cons digit rest ih =>
    rw [List.all_cons, Bool.and_eq_true] at all
    have below := ih all.2
    -- The first digit counts at most nine of the powers that the others stay below.
    have single : digit.toNat - '0'.toNat ≤ 9 := by
      have bounds := toNat_of_isDigit all.1
      have zero : '0'.toNat = 48 := rfl
      omega
    rw [Nat.ofDigitChars_cons, Nat.ofDigitChars_eq_ofDigitChars_zero, List.length_cons, Nat.pow_succ, Nat.mul_zero,
      Nat.zero_add]
    have first : 10 ^ rest.length * (digit.toNat - '0'.toNat) ≤ 10 ^ rest.length * 9 := Nat.mul_le_mul_left _ single
    omega

/-- Written positionally with a point behind whole numbers, digits stand on both sides of the point. -/
theorem isPointed_positionalText {digits : List Char} (written : IsSignificant digits) (order : Int) :
    IsPointed (positionalText true digits order) := by
  unfold positionalText
  split
  · -- All digits stand behind the point, and the last of them is not a zero.
    refine ⟨['0'], List.replicate (-order - 1).toNat '0' ++ digits, rfl, ?_⟩
    refine ⟨by simp, by simp [written.nonempty], by decide, by simp [written.all], fun _ => rfl, ?_⟩
    rw [List.getLast?_append_of_ne_nil _ written.nonempty]
    exact fun zero => absurd zero written.last
  · have halves := written.all
    rw [← List.take_append_drop (order.toNat + 1) digits, List.all_append, Bool.and_eq_true] at halves
    have taken : digits.take (order.toNat + 1) ≠ [] := by simp [written.nonempty]
    -- The first digit stands in front of the point, whatever fills the places up to it.
    have first : (digits.take (order.toNat + 1) ++
        List.replicate (order.toNat + 1 - digits.length) '0').head? ≠ some '0' := by
      rw [List.head?_append_of_ne_nil _ taken, List.head?_take, if_neg (by omega)]
      exact written.first
    have whole : (digits.take (order.toNat + 1) ++
        List.replicate (order.toNat + 1 - digits.length) '0').all Char.isDigit = true := by
      simp [halves.1]
    dsimp only
    split
    · exact ⟨_, ['0'], rfl, by simp [written.nonempty], by simp, whole, by decide, fun zero => absurd zero first,
        fun _ => rfl⟩
    · rename_i some
      refine ⟨_, _, rfl, by simp [written.nonempty], some, whole, halves.2, fun zero => absurd zero first, ?_⟩
      rw [List.drop_eq_nil_iff] at some
      rw [List.getLast?_drop, if_neg some]
      exact fun zero => absurd zero written.last

/-- An exponent is written with a sign and at least two digits. -/
theorem isExponent_exponentText (order : Int) : IsExponent order (Layout.literal.exponentText order) := by
  refine ⟨List.replicate (2 - (Nat.toDigits 10 order.natAbs).length) '0' ++ Nat.toDigits 10 order.natAbs,
    ?_, ?_, ?_, ?_, ?_⟩
  · simp only [exponentText, Layout.literal, if_true]
    split <;> rfl
  · simp [all_isDigit_toDigits]
  · rw [Nat.ofDigitChars_append, Nat.ofDigitChars_replicate_zero, Nat.mul_zero, Nat.ofDigitChars_ten_toDigits]
  · simp
    omega
  · -- More than two digits are not padded, and belong to a positive number.
    intro long
    rw [List.length_append, List.length_replicate] at long
    have unpadded : 2 - (Nat.toDigits 10 order.natAbs).length = 0 := by omega
    rw [unpadded, List.replicate_zero, List.nil_append]
    apply head?_toDigits
    rcases Nat.eq_zero_or_pos order.natAbs with zero | positive
    · have single : (Nat.toDigits 10 0).length = 1 := rfl
      rw [zero] at long
      omega
    · exact positive

variable {x : Binary64}

/-- In every layout, the text of a finite number stands for its shortest decimal. -/
theorem exactValue?_text (layout : Layout) (finite : x.isFinite = true) :
    exactValue? (layout.text x) = some (if x.negative then -(shortest layout.tie .double x.magnitude).value
      else (shortest layout.tie .double x.magnitude).value) := by
  -- The sign is split off in front, and the size stands for its decimal.
  obtain ⟨decimal, reads, exact_⟩ := reads_decimalText layout (shortest layout.tie .double x.magnitude)
  rw [text_of_number layout (Binary.isNan_of_isFinite finite), sizeText_of_finite layout finite, exactValue?,
    splitSign_signed x.negative reads]
  simp only [reads, Option.map_some, exact_]

/-- The digits of the shortest decimal are the shortest digits. -/
theorem shortestDigits (finite : x.isFinite = true) (nonzero : x.isZero = false) :
    ShortestDigits x (shortest .even .double x.magnitude).digitsOf
      (shortest .even .double x.magnitude).leadingExponent where
  significant := isSignificant_significant (coefficient_shortest_pos .even .double (Binary.magnitude_pos nonzero))
  reads := by
    -- The digits and their place are another decimal of the same value.
    have inside := contains_shortest .even .double (Binary.magnitude_pos nonzero)
    rw [halves, value_eq_placed] at inside
    exact (ofDecimal_eq_iff finite nonzero x.negative ⟨_, _⟩).mpr ⟨rfl, inside⟩
  fewest other exponent all reads := by
    -- Whatever reads as the number lies in its basin, where no decimal is shorter.
    have inside := ((ofDecimal_eq_iff finite nonzero x.negative ⟨_, exponent⟩).mp reads).2
    exact length_shortest_le .even (Binary.magnitude_pos nonzero) (by decide +kernel) inside (ofDigitChars_lt all)

/-- The compact layout writes an exponent as an integer. -/
theorem exponentText_compact (order : Int) : Layout.compact.exponentText order = integerText order := by
  -- One digit is always there, so that no zero is filled in.
  have unpadded : 1 - (Nat.toDigits 10 order.natAbs).length = 0 := by
    have := Nat.length_toDigits_pos (b := 10) (n := order.natAbs)
    omega
  simp [exponentText, Layout.compact, integerText, unpadded]

/-- A text with digits around a point has no mark of an exponent. -/
theorem IsPointed.unmarked {text : List Char} (pointed : IsPointed text) : 'e' ∉ text := by
  -- The mark is neither a digit nor the point.
  obtain ⟨whole, fraction, rfl, around⟩ := pointed
  intro member
  rcases List.mem_append.mp member with before | behind
  · cases List.all_eq_true.mp around.all_whole _ before
  · rcases List.mem_cons.mp behind with point | after
    · cases point
    · cases List.all_eq_true.mp around.all_fraction _ after

/-- The number nearest to one hundred-thousandth is written as that. -/
theorem shortest_hundredThousandth : shortest .even .double hundredThousandth.magnitude = ⟨1, -5⟩ := by
  -- The search for the shortest decimal is carried out.
  decide +kernel

/-- The compact layout writes the shortest digits. -/
theorem compactForm (finite : x.isFinite = true) (nonzero : x.isZero = false) :
    CompactForm x (shortest .even .double x.magnitude).digitsOf
      (shortest .even .double x.magnitude).leadingExponent where
  positional inside := by
    rw [text_of_finite Layout.compact rfl rfl rfl finite, if_pos inside]
    exact ⟨_, rfl, isPointed_positionalText (shortestDigits finite nonzero).significant _⟩
  scientific outside := by
    rw [text_of_finite Layout.compact rfl rfl rfl finite, if_neg outside,
      scientificText_eq _ (shortestDigits finite nonzero).significant.nonempty, exponentText_compact]
  decade := by
    -- Both ends of the decade are powers of ten, below which the leading exponent is smaller.
    have above := magnitude_lt_iff shortest_hundredThousandth (Binary.magnitude_pos nonzero)
    have below := magnitude_lt_iff shortest_tenThousandth (Binary.magnitude_pos nonzero)
    rw [← not_lt, above, below]
    omega
  exact := by
    rw [exactValue?_text _ finite, value_eq_placed]
    rfl

/-- The characters of the literal of a float are its text in the literal layout. -/
theorem toList_literal (x : Binary64) : (Value.float x).literal.toList = Layout.literal.text x := by
  -- The literal is made of these characters.
  rw [literal, String.toList_ofList, literalText_float]

/-- Literals show the shortest digits in the notation that their exponent asks for. -/
theorem literalForm (finite : x.isFinite = true) (nonzero : x.isZero = false) :
    LiteralForm x (shortest .even .double x.magnitude).digitsOf
      (shortest .even .double x.magnitude).leadingExponent := by
  have written := (shortestDigits finite nonzero).significant
  have scientific (outside : ¬(-4 ≤ (shortest .even .double x.magnitude).leadingExponent ∧
      (shortest .even .double x.magnitude).leadingExponent ≤ 15)) : Layout.literal.text x = signText x.negative ++
        (mantissaText (shortest .even .double x.magnitude).digitsOf ++
          'e' :: Layout.literal.exponentText (shortest .even .double x.magnitude).leadingExponent) := by
    rw [text_of_finite Layout.literal rfl rfl rfl finite, if_neg outside, scientificText_eq _ written.nonempty]
  constructor <;> rw [toList_literal]
  · constructor
    · -- A mark tells the scientific notation.
      rintro ⟨size, same, pointed⟩
      by_contra outside
      rw [scientific outside, List.append_cancel_left_eq] at same
      exact pointed.unmarked (same ▸ by simp)
    · intro inside
      rw [text_of_finite Layout.literal rfl rfl rfl finite, if_pos inside]
      exact ⟨_, rfl, isPointed_positionalText written _⟩
  · intro outside
    exact ⟨_, isExponent_exponentText _, scientific outside⟩
  · rw [text_of_number _ (Binary.isNan_of_isFinite finite)]
    split
    · rename_i negative
      exact iff_of_true rfl negative
    · -- The size itself starts with no sign.
      rename_i positive
      refine iff_of_false (fun head => ?_) positive
      obtain ⟨rest, size⟩ := List.head?_eq_some_iff.mp head
      exact sizeText_ne_minus _ x rest size
  · rw [exactValue?_text _ finite, exactValue?_text _ finite]
    rfl
  · exact readBinary?_text _ finite nonzero

/--
The literal of a finite number other than zero shows the shortest digits that read as the number.

It is positional exactly when the leading digit counts a power of ten between the fourth place behind the point and the
sixteenth before it, and otherwise scientific. It has a minus exactly for negative numbers, stands for the same decimal as
the compact text, and reads back as the number.
-/
theorem float_literal_layout (x : Binary64) (finite : x.isFinite = true) (nonzero : x.isZero = false) :
    ∃ digits order, ShortestDigits x digits order ∧ CompactForm x digits order ∧ LiteralForm x digits order :=
  ⟨_, _, shortestDigits finite nonzero, compactForm finite nonzero, literalForm finite nonzero⟩

/-- In the decade in which the notations differ, zeros behind the point become an exponent. -/
theorem float_literal_layout_small :
    (Layout.compact.text (Binary.ofDecimal .double true 12 (-6)) = "-0.000012".toList ∧
      (Value.float (Binary.ofDecimal .double true 12 (-6))).literal.toList = "-1.2e-05".toList) ∧
    ∃ digits order, ShortestDigits (Binary.ofDecimal .double true 12 (-6)) digits order ∧
      CompactForm (Binary.ofDecimal .double true 12 (-6)) digits order ∧
      LiteralForm (Binary.ofDecimal .double true 12 (-6)) digits order :=
  ⟨⟨by decide +kernel, by decide +kernel⟩,
    float_literal_layout (Binary.ofDecimal .double true 12 (-6)) (by decide +kernel) (by decide +kernel)⟩

end DynValue.Value
