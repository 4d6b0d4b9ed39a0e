import DynValue.Proofs.Decimal.Reader
import DynValue.Proofs.Text.Trim
import DynValue.Proofs.Word.Range
import DynValue.Value.Coerce
import DynValue.Value.Methods
import DynValue.Value.Render

/-!
Integers read back from their texts, whatever zeros are filled in and whatever white space stands around them.

Zeros go behind a sign, white space comes off in front of it, and zeros add nothing to the digits that follow them. Hence
filling up a text never changes the integer it is taken as, also where it is no integer at all.
-/

namespace DynValue

namespace Text

open Decimal

/-- The text with a number of zeros behind its sign, or in front if it has no sign. -/
def insertZeros (zeros : Nat) : List Char → List Char
  | [] => List.replicate zeros '0'
  | c :: rest =>
    if c = '+' ∨ c = '-' then c :: (List.replicate zeros '0' ++ rest) else List.replicate zeros '0' ++ c :: rest

/-- Filling up with zeros inserts as many of them as the margin of the width. -/
theorem zeroFill_eq (width : Nat) (text : List Char) :
    zeroFill width text = insertZeros (margin width text) text := by
  -- Both look at the first character in the same way.
  cases text <;> rfl

/-- A text starts with a sign or it does not. -/
theorem signed_or_unsigned (text : List Char) :
    (∃ sign rest, text = sign :: rest ∧ (sign = '+' ∨ sign = '-')) ∨ ∀ c ∈ text.head?, ¬(c = '+' ∨ c = '-') := by
  -- Only the first character decides, and the empty text has none.
  cases text with
  | nil => exact .inr (by simp)
  | cons c rest =>
    by_cases signed : c = '+' ∨ c = '-'
    · exact .inl ⟨c, rest, rfl, signed⟩
    · exact .inr (by simpa using signed)

/-- A text that starts with no sign gets zeros in front. -/
theorem insertZeros_of_unsigned {text : List Char} (unsigned : ∀ c ∈ text.head?, ¬(c = '+' ∨ c = '-'))
    (zeros : Nat) : insertZeros zeros text = List.replicate zeros '0' ++ text := by
  -- Of the two branches, the one for a sign is excluded by the first character, if there is any.
  cases text with
  | nil => simp [insertZeros]
  | cons c rest => rw [insertZeros, if_neg (unsigned c rfl)]

/-- A text that starts with a sign gets zeros behind the sign. -/
theorem insertZeros_of_signed {sign : Char} (signed : sign = '+' ∨ sign = '-') (rest : List Char) (zeros : Nat) :
    insertZeros zeros (sign :: rest) = sign :: (List.replicate zeros '0' ++ rest) := by
  -- The sign is kept apart, and the zeros go between it and the rest.
  rw [insertZeros, if_pos signed]

/-- Zeros in front of a text that starts with no sign do not make it start with one. -/
theorem unsigned_zeros {text : List Char} (unsigned : ∀ c ∈ text.head?, ¬(c = '+' ∨ c = '-')) (zeros : Nat) :
    ∀ c ∈ (List.replicate zeros '0' ++ text).head?, ¬(c = '+' ∨ c = '-') := by
  -- The first character is a zero as soon as there is one, and otherwise that of the text.
  cases zeros with
  | zero => simpa using unsigned
  | succ zeros => simp [List.replicate_succ]

/-- A text that starts with neither sign has none. -/
theorem splitSign_of_unsigned {text : List Char} (first : ∀ c ∈ text.head?, ¬(c = '+' ∨ c = '-')) :
    splitSign text = (false, text) := by
  -- Neither of the two cases for a sign applies.
  unfold splitSign
  split <;> simp_all

/-- Zeros are put between the sign and the rest. -/
theorem splitSign_insertZeros (zeros : Nat) (text : List Char) :
    splitSign (insertZeros zeros text) = ((splitSign text).1, List.replicate zeros '0' ++ (splitSign text).2) := by
  rcases signed_or_unsigned text with ⟨sign, rest, rfl, signed⟩ | unsigned
  · -- The sign is split off before the zeros are looked at.
    rw [insertZeros_of_signed signed]
    rcases signed with rfl | rfl <;> rfl
  · -- A zero in front is not taken for a sign.
    rw [insertZeros_of_unsigned unsigned, splitSign_of_unsigned unsigned,
      splitSign_of_unsigned (unsigned_zeros unsigned zeros)]

/-- No digit is white space. -/
theorem isBlank_of_isDigit {c : Char} (digit : c.isDigit = true) : isBlank c = false := by
  have bounds := Decimal.toNat_of_isDigit digit
  -- The runs of white space end before the digits or start behind them.
  simp only [isBlank, Run.any, blankRuns, Run.holds, List.any_cons, List.any_nil, Bool.or_false, Bool.or_eq_false_iff,
    Bool.and_eq_false_iff, decide_eq_false_iff_not]
  omega

/-- Zeros are no white space. -/
theorem isBlank_zeros (zeros : Nat) : ∀ c ∈ List.replicate zeros '0', isBlank c = false := by
  -- Each of them is the digit zero.
  intro c member
  rw [List.eq_of_mem_replicate member]
  rfl

/-- White space comes off around the zeros as it comes off without them. -/
theorem trim_insertZeros (zeros : Nat) {text : List Char} (solid : ∀ c ∈ text.head?, isBlank c = false) :
    trim (insertZeros zeros text) = insertZeros zeros (trim text) := by
  cases text with
  | nil => exact trim_of_solid (isBlank_zeros zeros)
  | cons c rest =>
    have first := solid c rfl
    -- Nothing comes off in front, since the text still starts with a zero, a sign or its own first character.
    have started : trimStart (insertZeros zeros (c :: rest)) = insertZeros zeros (c :: rest) := by
      apply trimStart_of_solid
      intro d head
      rw [insertZeros] at head
      split at head
      · cases head
        exact first
      · cases zeros with
        | zero => exact solid d head
        | succ zeros => exact isBlank_zeros (zeros + 1) d (List.mem_of_mem_head? head)
    -- Trimming the text itself only works on its end.
    have whole : trim (c :: rest) = c :: trimEnd rest := by
      rw [trim, trimStart_of_solid solid, trimEnd_cons first]
    rw [trim, started, whole, insertZeros, insertZeros]
    split
    · rw [trimEnd_cons first, trimEnd_append (isBlank_zeros zeros)]
    · rw [trimEnd_append (isBlank_zeros zeros), trimEnd_cons first]

end Text

namespace Decimal

/-- The word that a text is taken as, zero where it is no integer or none in the range. -/
def readWord (text : List Char) : Word64 := ((readInteger? text).bind (Word.ofInt? .int64)).getD 0

/-- A text that reads as the integer of a word is taken as the word. -/
theorem readWord_of_readInteger? {text : List Char} {n : Word64} (reads : readInteger? text = some n.toInt) :
    readWord text = n := by
  -- The integer is in the range of words, so that the default for other texts is not taken.
  simp [readWord, reads, Word.ofInt?, n.toInt_inRange, Word.ofInt_toInt]

/-- Zeros in front of digits add nothing, and in front of anything else they leave it no number. -/
theorem readNatural?_zeros (zeros : Nat) {text : List Char} (nonempty : text ≠ []) :
    readNatural? (List.replicate zeros '0' ++ text) = readNatural? text := by
  -- All characters are digits exactly if those behind the zeros are, and the zeros are worth nothing.
  have digits : (List.replicate zeros '0' ++ text).all Char.isDigit = text.all Char.isDigit := by simp
  simp only [readNatural?, digits, nonempty, List.append_eq_nil_iff, and_false, not_false_eq_true, ne_eq, true_and,
    Nat.ofDigitChars_append, Nat.ofDigitChars_replicate_zero, Nat.mul_zero]

/-- Zeros behind a sign do not change the word. -/
theorem readWord_insertZeros (zeros : Nat) (text : List Char) :
    readWord (Text.insertZeros zeros text) = readWord text := by
  rw [readWord, readWord, readInteger?, readInteger?, Text.splitSign_insertZeros]
  dsimp only
  by_cases empty : (splitSign text).2 = []
  · -- A sign by itself is no integer, and with zeros behind it it is zero, which stands for none as well.
    rw [empty, List.append_nil]
    cases zeros with
    | zero => rfl
    | succ zeros =>
      have zero : readNatural? (List.replicate (zeros + 1) '0') = some 0 := by
        have reads := readNatural?_zeros zeros (show ['0'] ≠ [] by simp)
        rwa [← List.replicate_succ'] at reads
      rw [zero]
      cases (splitSign text).1 <;> rfl
  · rw [readNatural?_zeros zeros empty]

/-- A text is the decimal form of an integer: digits that do not start with a zero needlessly, behind a minus if negative. -/
def IsDecimalOf (text : List Char) (n : Int) : Prop :=
  ∃ digits : List Char, text = (if n < 0 then '-' :: digits else digits) ∧ digits ≠ [] ∧
    digits.all Char.isDigit = true ∧ (digits.head? = some '0' → digits = ['0']) ∧
    Nat.ofDigitChars 10 digits 0 = n.natAbs

/-- The text of an integer is its decimal form. -/
theorem isDecimalOf_integerText (n : Int) : IsDecimalOf (integerText n) n := by
  refine ⟨Nat.toDigits 10 n.natAbs, rfl, Nat.toDigits_ne_nil, all_isDigit_toDigits _, ?_,
    Nat.ofDigitChars_ten_toDigits⟩
  intro leading
  -- Only zero itself starts with a zero.
  cases size : n.natAbs with
  | zero => exact Nat.toDigits_zero 10
  | succ size' => exact absurd leading (head?_toDigits (by omega))

/-- No character of a decimal form is white space. -/
theorem isBlank_integerText (n : Int) : ∀ c ∈ integerText n, Text.isBlank c = false := by
  -- Neither a digit nor the minus is white space.
  have digits : ∀ c ∈ Nat.toDigits 10 n.natAbs, Text.isBlank c = false := fun c member =>
    Text.isBlank_of_isDigit (Nat.isDigit_of_mem_toDigits (by decide) (by decide) member)
  intro c member
  unfold integerText at member
  dsimp only at member
  split at member
  · rcases List.mem_cons.mp member with rfl | member
    · rfl
    · exact digits c member
  · exact digits c member

end Decimal

namespace Value

open Decimal

/-- A text is taken as the integer that it is without white space around it. -/
theorem toInt_str (text : String) : (Value.str text).toInt = readWord (Text.trim text.toList) := rfl

/-- Filling a text up with zeros does not change the integer that it is taken as. -/
theorem toInt_zeroFill {text : String} (solid : ∀ c ∈ text.toList.head?, Text.isBlank c = false) (width : Nat) :
    (Value.str ((Value.str text).zeroFill width)).toInt = (Value.str text).toInt := by
  -- The zeros go where they are not white space at the start and where the reader passes over them.
  have filled : ((Value.str text).zeroFill width).toList =
      Text.insertZeros (Text.margin width text.toList) text.toList := by
    rw [← Text.zeroFill_eq]
    exact String.toList_ofList
  rw [toInt_str, toInt_str, filled, Text.trim_insertZeros _ solid, readWord_insertZeros]

/-- The decimal form of an integer is taken as the integer. -/
theorem toInt_integerText (n : Word64) : (Value.str (String.ofList (integerText n.toInt))).toInt = n := by
  -- Without white space nothing is taken off, and the digits read back.
  rw [toInt_str, String.toList_ofList, Text.trim_of_solid (isBlank_integerText n.toInt)]
  exact readWord_of_readInteger? (readInteger?_integerText n.toInt)

/-- White space around a text does not change the integer that it is taken as. -/
theorem toInt_between {before after : String} (blankBefore : ∀ c ∈ before.toList, Text.isBlank c = true)
    (blankAfter : ∀ c ∈ after.toList, Text.isBlank c = true) (text : String) :
    (Value.str (before ++ text ++ after)).toInt = (Value.str text).toInt := by
  -- The white space comes off at both ends.
  rw [toInt_str, toInt_str, String.toList_append, String.toList_append, Text.trim_between blankBefore blankAfter]

/--
Integers read back from their texts.

The display form, the literal form and the printed form of an integer are its decimal form, which is taken as the integer
again when it is filled up with zeros and put between white space. Of any other text that does not start with white space,
filling it up with zeros changes nothing about the integer it is taken as.
-/
theorem integer_text_roundTrip :
    (∀ n : Word64, ∃ decimal : String, IsDecimalOf decimal.toList n.toInt ∧
      (Value.int n).display = decimal ∧ (Value.int n).literal = decimal ∧ (Value.int n).print = decimal ∧
      ∀ (width : Nat) (before after : String), (∀ c ∈ before.toList, Text.isBlank c = true) →
        (∀ c ∈ after.toList, Text.isBlank c = true) →
        (Value.str (before ++ (Value.str decimal).zeroFill width ++ after)).toInt = n) ∧
      ∀ (text : String) (width : Nat), (∀ c ∈ text.toList.head?, Text.isBlank c = false) →
        (Value.str ((Value.str text).zeroFill width)).toInt = (Value.str text).toInt := by
  constructor
  · intro n
    -- All three texts of an integer are its decimal form.
    have written : (Value.int n).literal = String.ofList (integerText n.toInt) := by rw [literal, literalText]
    refine ⟨String.ofList (integerText n.toInt), ?_, rfl, written, written, ?_⟩
    · rw [String.toList_ofList]
      exact isDecimalOf_integerText n.toInt
    · intro width before after blankBefore blankAfter
      rw [toInt_between blankBefore blankAfter, toInt_zeroFill _ width, toInt_integerText]
      -- The decimal form starts with a digit or a minus.
      intro c head
      rw [String.toList_ofList] at head
      exact isBlank_integerText n.toInt c (List.mem_of_mem_head? head)
  · intro text width solid
    exact toInt_zeroFill solid width

/-- The least integer reads back between white space, and zeros behind a doubled sign leave it no integer. -/
theorem integer_text_roundTrip_least :
    (Value.str "-9223372036854775808").zeroFill 22 = "-009223372036854775808" ∧
      (Value.str ("\u3000\t" ++ (Value.str "-9223372036854775808").zeroFill 22 ++ " \n")).toInt =
        Word.ofInt _ (-9223372036854775808) ∧
      (Value.str ((Value.str "+-7 ").zeroFill 6)).toInt = 0 := by
  -- The text is the decimal form of the least integer, to which the general law applies.
  obtain ⟨integers, texts⟩ := integer_text_roundTrip
  obtain ⟨decimal, _, shown, _, _, reads⟩ := integers (Word.ofInt _ (-9223372036854775808))
  have least : "-9223372036854775808" = decimal := by rw [← shown]; decide
  refine ⟨by decide, ?_, ?_⟩
  · rw [least]
    exact reads 22 "\u3000\t" " \n" (List.all_eq_true.mp (by decide)) (List.all_eq_true.mp (by decide))
  · have solid : ∀ c ∈ "+-7 ".toList.head?, Text.isBlank c = false := by
      intro c head
      obtain rfl : '+' = c := Option.some.inj head
      decide
    rw [texts "+-7 " 6 solid]
    decide

end Value

end DynValue
