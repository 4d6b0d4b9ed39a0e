import DynValue.Proofs.Value.IntegerText
import DynValue.Proofs.Value.Stream

/-!
Texts filled up to a width: how long they are, where the filling stands, and what filling up twice does.

Spaces at the end, spaces in front and zeros behind a sign all put a number of characters in one place, and a second filling
goes to the place of the first. Around a text the place depends on the width, so that there only the same width adds nothing.
-/

namespace DynValue

namespace Text

/-! ## Characters put in one place -/

/--
A way to put a number of characters into a text.

What is put in later joins what is there already.
-/
structure Inserts (insert : Nat → List Char → List Char) : Prop where
  /-- The text grows by the number of characters. -/
  length : ∀ count text, (insert count text).length = text.length + count
  /-- Without characters to put in, the text stays as it is. -/
  zero : ∀ text, insert 0 text = text
  /-- Characters put in twice are put in at once. -/
  twice : ∀ first second text, insert second (insert first text) = insert (first + second) text

namespace Inserts

variable {insert : Nat → List Char → List Char}

/-- Filled up to a width, a text has that width, unless it was longer. -/
theorem length_filled (inserts : Inserts insert) (width : Nat) (text : List Char) :
    (insert (margin width text) text).length = max text.length width := by
  -- The margin is what the width leaves over, and nothing if the text is longer.
  rw [inserts.length, margin]
  omega

/-- Filling up to two widths, one after the other, fills up to the greater one. -/
theorem filled_twice (inserts : Inserts insert) (v w : Nat) (text : List Char) :
    insert (margin w (insert (margin v text) text)) (insert (margin v text) text) =
      insert (margin (max v w) text) text := by
  -- The second filling adds what is missing behind the first one.
  have missing : margin v text + margin w (insert (margin v text) text) = margin (max v w) text := by
    simp only [margin, inserts.length]
    omega
  rw [inserts.twice, missing]

end Inserts

/-- Spaces at the end are put in one place, behind all there is. -/
theorem inserts_end : Inserts fun count text => text ++ List.replicate count ' ' where
  length := by simp
  zero := by simp
  -- The second spaces come behind the first, which makes one run of spaces.
  twice := by
    intro first second text
    rw [List.append_assoc, List.replicate_append_replicate]

/-- Spaces in front are put in one place, before all there is. -/
theorem inserts_start : Inserts fun count text => List.replicate count ' ' ++ text where
  length := by
    intro count text
    rw [List.length_append, List.length_replicate, Nat.add_comm]
  zero := by simp
  -- The second spaces come before the first, so that their numbers are added in the other order.
  twice := by
    intro first second text
    rw [← List.append_assoc, List.replicate_append_replicate, Nat.add_comm]

/-- Zeros are put in one place, behind the sign or before all there is. -/
theorem inserts_zeros : Inserts insertZeros where
  -- With a sign the zeros stand one place further to the right; their number is the same.
  length := by
    intro zeros text
    rcases signed_or_unsigned text with ⟨sign, rest, rfl, signed⟩ | unsigned
    · simp [insertZeros_of_signed signed]
      omega
    · simp [insertZeros_of_unsigned unsigned]
      omega
  zero := by
    intro text
    rcases signed_or_unsigned text with ⟨sign, rest, rfl, signed⟩ | unsigned
    · simp [insertZeros_of_signed signed]
    · simp [insertZeros_of_unsigned unsigned]
  twice := by
    intro first second text
    -- The sign stays in front, or a zero comes there, which is no sign.
    rcases signed_or_unsigned text with ⟨sign, rest, rfl, signed⟩ | unsigned
    · rw [insertZeros_of_signed signed, insertZeros_of_signed signed, insertZeros_of_signed signed,
        ← List.append_assoc, List.replicate_append_replicate, Nat.add_comm]
    · rw [insertZeros_of_unsigned unsigned, insertZeros_of_unsigned (unsigned_zeros unsigned first),
        insertZeros_of_unsigned unsigned, ← List.append_assoc, List.replicate_append_replicate, Nat.add_comm]

/-! ## Spaces around a text -/

/-- The numbers of spaces on the two sides differ by one at most, and the left one is greater for odd widths only. -/
structure Balanced (width left right : Nat) : Prop where
  /-- On the left there is one more at most. -/
  leftBound : left ≤ right + 1
  /-- On the right there is one more at most. -/
  rightBound : right ≤ left + 1
  /-- The one more is on the left exactly for an odd width. -/
  uneven : left ≠ right → (right < left ↔ width % 2 = 1)

/-- The width and the number of all spaces settle how many go to each side. -/
theorem Balanced.unique {width left right left' right' : Nat} (balanced : Balanced width left right)
    (balanced' : Balanced width left' right') (total : left + right = left' + right') : left = left' ∧ right = right' := by
  -- The sides differ by at most one, and the parity of the width says which of them is larger.
  obtain ⟨leftBound, rightBound, uneven⟩ := balanced
  obtain ⟨leftBound', rightBound', uneven'⟩ := balanced'
  omega

/-- The bit that is added on the left is set when both the number of spaces and the width are odd. -/
theorem and_and_one (missing width : Nat) :
    missing &&& width &&& 1 = if missing % 2 = 1 ∧ width % 2 = 1 then 1 else 0 := by
  -- The lowest bit of a number is its remainder by two.
  have lowest : (missing &&& width) % 2 = missing % 2 &&& width % 2 := Nat.and_mod_two_pow (n := 1)
  rw [Nat.and_one_is_mod, lowest]
  rcases Nat.mod_two_eq_zero_or_one missing with even | odd
  · simp [even]
  · rcases Nat.mod_two_eq_zero_or_one width with even' | odd'
    · simp [even']
    · simp [odd, odd']

/-- Spaces go to both sides of a centered text, as evenly as their number allows. -/
theorem center_eq (width : Nat) (text : List Char) : ∃ left right, left + right = margin width text ∧
    Balanced width left right ∧ center width text = List.replicate left ' ' ++ text ++ List.replicate right ' ' := by
  -- Half of the spaces go to each side, and the bit says whether the left side gets one more.
  have bit := and_and_one (margin width text) width
  refine ⟨margin width text / 2 + (margin width text &&& width &&& 1), _, ?_, ?_, rfl⟩
  · rw [bit]
    split <;> omega
  · -- An odd space goes to the left when the bit is set, and to the right otherwise.
    rw [bit]
    constructor <;> split <;> omega

/-- Centered in a width, a text has that width, unless it was longer. -/
theorem length_center (width : Nat) (text : List Char) : (center width text).length = max text.length width := by
  -- The two sides share the margin without remainder.
  obtain ⟨left, right, total, -, shape⟩ := center_eq width text
  rw [shape]
  simp only [List.length_append, List.length_replicate, margin] at total ⊢
  omega

/-- A text that is as wide already is not changed. -/
theorem center_of_le {width : Nat} {text : List Char} (wide : width ≤ text.length) : center width text = text := by
  obtain ⟨left, right, total, -, shape⟩ := center_eq width text
  -- Nothing is missing, so that neither side gets a space.
  have none : left = 0 ∧ right = 0 := by
    rw [margin] at total
    omega
  rw [shape, none.1, none.2, List.replicate_zero, List.nil_append, List.append_nil]

end Text

/-! ## The four ways to fill up a text -/

/-- The ways to fill up a text. -/
inductive Filling where
  /-- Spaces behind the text. -/
  | atEnd
  /-- Spaces in front of the text. -/
  | atStart
  /-- Spaces on both sides. -/
  | around
  /-- Zeros in front of the text, behind its sign. -/
  | zeros
deriving DecidableEq

namespace Filling

open Text

/-- The text of a value filled up to a width. -/
def ofValue : Filling → Value → Nat → String
  | .atEnd => Value.padEnd
  | .atStart => Value.padStart
  | .around => Value.center
  | .zeros => Value.zeroFill

/-- A text filled up to a width. -/
def fill : Filling → Nat → List Char → List Char
  | .atEnd => padEnd
  | .atStart => padStart
  | .around => center
  | .zeros => zeroFill

/-- Where the characters stand that a text is filled up with. -/
def Shape (width : Nat) (text filled : List Char) : Filling → Prop
  | .atEnd => ∃ count, filled = text ++ List.replicate count ' '
  | .atStart => ∃ count, filled = List.replicate count ' ' ++ text
  | .around => ∃ left right, Balanced width left right ∧
      filled = List.replicate left ' ' ++ text ++ List.replicate right ' '
  | .zeros =>
    (∃ sign rest count, (sign = '+' ∨ sign = '-') ∧ text = sign :: rest ∧
      filled = sign :: (List.replicate count '0' ++ rest)) ∨
    ∃ count, (∀ c ∈ text.head?, ¬(c = '+' ∨ c = '-')) ∧ filled = List.replicate count '0' ++ text

/-- The characters that a filling other than that around a text puts in, by their number. -/
def insert : Filling → Nat → List Char → List Char
  | .atEnd, count, text => text ++ List.replicate count ' '
  | .atStart, count, text => List.replicate count ' ' ++ text
  | .around, _, text => text
  | .zeros, count, text => insertZeros count text

variable {filling : Filling}

/-- Every filling but the one around a text puts its characters in one place. -/
theorem inserts (oneSided : filling ≠ .around) : Inserts filling.insert := by
  -- The way on both sides is the one that is left out.
  cases filling with
  | atEnd => exact inserts_end
  | atStart => exact inserts_start
  | around => exact absurd rfl oneSided
  | zeros => exact inserts_zeros

/-- A filling on one side inserts as many characters as the margin of the width. -/
theorem fill_eq_insert (oneSided : filling ≠ .around) (width : Nat) (text : List Char) :
    filling.fill width text = filling.insert (margin width text) text := by
  -- Spaces go to an end whatever the text is, and only the zeros look at its first character.
  cases filling with
  | atEnd => rfl
  | atStart => rfl
  | around => exact absurd rfl oneSided
  | zeros => exact zeroFill_eq width text

/-- The characters of a filling other than that around a text stand where it puts them in. -/
theorem shape_iff_insert (oneSided : filling ≠ .around) {width : Nat} {text filled : List Char} :
    filling.Shape width text filled ↔ ∃ count, filled = filling.insert count text := by
  cases filling with
  | atEnd => rfl
  | atStart => rfl
  | around => exact absurd rfl oneSided
  | zeros =>
    -- The two forms are those of a text with a sign and of one without.
    constructor
    · rintro (⟨sign, rest, count, signed, rfl, rfl⟩ | ⟨count, unsigned, rfl⟩)
      · exact ⟨count, (insertZeros_of_signed signed rest count).symm⟩
      · exact ⟨count, (insertZeros_of_unsigned unsigned count).symm⟩
    · rintro ⟨count, rfl⟩
      rcases signed_or_unsigned text with ⟨sign, rest, rfl, signed⟩ | unsigned
      · exact .inl ⟨sign, rest, count, signed, rfl, insertZeros_of_signed signed rest count⟩
      · exact .inr ⟨count, unsigned, insertZeros_of_unsigned unsigned count⟩

/-- Filled up to a width, a text has that width, unless it was longer. -/
theorem length_fill (filling : Filling) (width : Nat) (text : List Char) :
    (filling.fill width text).length = max text.length width := by
  -- Around a text the length is counted on both sides, and otherwise at the one place.
  by_cases centered : filling = .around
  · rw [centered]
    exact length_center width text
  · rw [fill_eq_insert centered]
    exact (inserts centered).length_filled width text

/-- A text that is wide enough stays as it is. -/
theorem fill_of_le (filling : Filling) {width : Nat} {text : List Char} (wide : width ≤ text.length) :
    filling.fill width text = text := by
  -- No margin is left, and inserting no characters changes nothing.
  by_cases centered : filling = .around
  · rw [centered]
    exact center_of_le wide
  · rw [fill_eq_insert centered, margin, Nat.sub_eq_zero_of_le wide]
    exact (inserts centered).zero text

/-- Filling up twice on one side is filling up to the greater width. -/
theorem fill_fill (oneSided : filling ≠ .around) (v w : Nat) (text : List Char) :
    filling.fill w (filling.fill v text) = filling.fill (max v w) text := by
  -- Both fillings insert at the same place, where the two margins add up to the greater one.
  rw [fill_eq_insert oneSided, fill_eq_insert oneSided, fill_eq_insert oneSided]
  exact (inserts oneSided).filled_twice v w text

/-- A filled text has its missing characters where the filling puts them. -/
theorem shape_fill (filling : Filling) (width : Nat) (text : List Char) :
    filling.Shape width text (filling.fill width text) := by
  -- For the way around a text the two sides come from centering; elsewhere the margin itself is the number inserted.
  by_cases centered : filling = .around
  · obtain ⟨left, right, -, balanced, shape⟩ := center_eq width text
    rw [centered]
    exact ⟨left, right, balanced, shape⟩
  · exact (shape_iff_insert centered).mpr ⟨_, fill_eq_insert centered width text⟩

/-- Of one length there is one text only in which the characters stand where they should. -/
theorem eq_of_shape {width : Nat} {text a b : List Char} (first : filling.Shape width text a)
    (second : filling.Shape width text b) (length : a.length = b.length) : a = b := by
  by_cases centered : filling = .around
  · subst centered
    obtain ⟨left, right, balanced, rfl⟩ := first
    obtain ⟨left', right', balanced', rfl⟩ := second
    -- The length tells how many spaces there are, and the width how they are shared out.
    have total : left + right = left' + right' := by
      simp only [List.length_append, List.length_replicate] at length
      omega
    obtain ⟨rfl, rfl⟩ := balanced.unique balanced' total
    rfl
  · obtain ⟨count, rfl⟩ := (shape_iff_insert centered).mp first
    obtain ⟨count', rfl⟩ := (shape_iff_insert centered).mp second
    -- The length tells how many characters were put in.
    rw [(inserts centered).length, (inserts centered).length] at length
    obtain rfl : count = count' := by omega
    rfl

/-- The characters of a filled value are those of its text, filled up. -/
theorem toList_ofValue (filling : Filling) (text : String) (width : Nat) :
    (filling.ofValue (.str text) width).toList = filling.fill width text.toList := by
  -- Every method works on the list of characters and makes a text of the result.
  cases filling <;> exact String.toList_ofList

/-- What filling up does to a text, to whatever widths. -/
structure FillsUp (filling : Filling) (text : String) : Prop where
  /-- The result has the width, counted in characters, unless the text was longer. -/
  length : ∀ width, (filling.ofValue (.str text) width).length = max text.length width
  /-- A text that is as wide already stays as it is. -/
  unchanged : ∀ width ≤ text.length, filling.ofValue (.str text) width = text
  /-- The characters that were missing stand where the filling puts them. -/
  shape : ∀ width, filling.Shape width text.toList (filling.ofValue (.str text) width).toList
  /-- No other text of that length has them there. -/
  unique : ∀ (width : Nat) (filled : String), filled.length = max text.length width →
    filling.Shape width text.toList filled.toList → filled = filling.ofValue (.str text) width
  /-- Filling up again, except around a text, fills up to the greater width. -/
  composes : filling ≠ .around → ∀ v w : Nat,
    filling.ofValue (.str (filling.ofValue (.str text) v)) w = filling.ofValue (.str text) (max v w)
  /-- Filling up to the same width again changes nothing. -/
  again : ∀ width, filling.ofValue (.str (filling.ofValue (.str text) width)) width = filling.ofValue (.str text) width

/-- Every filling has the laws of filling up. -/
theorem fillsUp (filling : Filling) (text : String) : filling.FillsUp text := by
  have length (width : Nat) : (filling.ofValue (.str text) width).length = max text.length width := by
    rw [← String.length_toList, toList_ofValue, length_fill, String.length_toList]
  have unchanged (text : String) (width : Nat) (wide : width ≤ text.length) :
      filling.ofValue (.str text) width = text := by
    apply String.toList_inj.mp
    rw [toList_ofValue, fill_of_le filling (by rwa [String.length_toList])]
  have shape (width : Nat) : filling.Shape width text.toList (filling.ofValue (.str text) width).toList := by
    rw [toList_ofValue]
    exact shape_fill filling width text.toList
  refine {
    length := length
    unchanged := unchanged text
    shape := shape
    unique := ?unique
    composes := ?composes
    again := ?again }
  case unique =>
    -- The result is of that length too and has the characters where they should stand.
    intro width filled size placed
    apply String.toList_inj.mp
    refine eq_of_shape placed (shape width) ?_
    rw [String.length_toList, String.length_toList, size, length]
  case composes =>
    -- The two fillings go to one place, so that the greater width remains.
    intro oneSided v w
    apply String.toList_inj.mp
    rw [toList_ofValue, toList_ofValue, toList_ofValue, fill_fill oneSided]
  case again =>
    -- After the first time the text is as wide as it should be.
    intro width
    apply unchanged
    rw [length]
    exact Nat.le_max_right _ _

/-- The number of bytes of the sign that a text starts with, none if it starts with no sign. -/
def signSize (text : String) : Nat :=
  match text.toList with
  | [] => 0
  | c :: _ => if c = '+' ∨ c = '-' then 1 else 0

/-- A sign is the first byte of a text, and the zeros are put behind that byte. -/
theorem bytes_zeroFill (text : String) (width : Nat) :
    ((Value.str text).zeroFill width).toUTF8.toList = text.toUTF8.toList.take (signSize text) ++
      List.replicate (width - text.length) 48 ++ text.toUTF8.toList.drop (signSize text) := by
  have filled : ((Value.str text).zeroFill width).toList = insertZeros (width - text.length) text.toList := by
    rw [← String.length_toList, ← margin, ← zeroFill_eq]
    exact String.toList_ofList
  -- A zero is one byte, so that zeros become as many bytes.
  have zeros (count : Nat) : (List.replicate count '0').flatMap String.utf8EncodeChar = List.replicate count 48 := by
    induction count with
    | zero => rfl
    | succ count ih => rw [List.replicate_succ, List.flatMap_cons, ih, List.replicate_succ]; rfl
  rw [Value.utf8_toList, Value.utf8_toList, filled, signSize]
  generalize width - text.length = count
  rcases signed_or_unsigned text.toList with ⟨sign, rest, parts, signed⟩ | unsigned
  · rw [parts, insertZeros_of_signed signed, List.flatMap_cons, List.flatMap_append, zeros, List.flatMap_cons]
    simp only [if_pos signed]
    -- Both signs are written in one byte.
    rcases signed with rfl | rfl
    · rfl
    · rfl
  · -- Without a sign nothing goes before the zeros.
    rw [insertZeros_of_unsigned unsigned, List.flatMap_append, zeros]
    cases parts : text.toList with
    | nil => simp
    | cons c rest =>
      have plain : ¬(c = '+' ∨ c = '-') := unsigned c (by rw [parts]; rfl)
      simp only [if_neg plain, List.take_zero, List.drop_zero, List.nil_append]

/--
A text is filled up to a width in characters, and neither cut nor changed otherwise.

The characters that are missing stand at the end, in front, on both sides or behind the sign. Filling up twice is filling up
to the greater width, except around a text, where the same width changes nothing. In bytes, zeros go behind the first one of a
text that starts with a sign.
-/
theorem padding_laws (text : String) :
    (∀ filling : Filling, filling.FillsUp text) ∧
      ∀ width : Nat, ((Value.str text).zeroFill width).toUTF8.toList = text.toUTF8.toList.take (signSize text) ++
        List.replicate (width - text.length) 48 ++ text.toUTF8.toList.drop (signSize text) := by
  -- The laws hold for each filling separately, and the bytes are those of the filled characters.
  exact ⟨fun filling => fillsUp filling text, bytes_zeroFill text⟩

/-- The odd space goes to the left for an odd width and to the right for an even one. -/
example : (Value.str "ab").center 5 = "  ab " ∧ (Value.str "a").center 4 = " a  " := by decide

end Filling

end DynValue
