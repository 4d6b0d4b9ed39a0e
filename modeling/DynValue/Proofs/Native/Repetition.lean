import DynValue.Proofs.Native.Homomorphism
import DynValue.Proofs.Value.Repetition

/-!
The product of a sequence and a word is the sequence put behind itself that often.

This holds for texts and lists and for the values that are texts, lists or tuples, with the word on either side. From it
follow laws like those of numbers: a sum of words gives a concatenation, and a product of words a product of a product.
-/

namespace DynValue

/-- The copies of a text are those of its characters. -/
theorem repeatedText_ofList (chars : List Char) (times : Int) :
    repeatedText (String.ofList chars) times = String.ofList (copies chars times.toNat) := by
  rw [repeatedText]
  split
  case isTrue empty =>
    -- A text without characters is not copied at all, which leaves it as it is.
    have none : chars = [] := by simpa [String.isEmpty_iff] using empty
    rw [none, copies_nil]
  case isFalse =>
    -- Texts are compared by their characters, which are joined as lists are.
    rw [← String.toList_inj, String.toList_join, String.toList_ofList, List.flatMap_replicate, String.toList_ofList]
    rfl

/-- The forms in which data are sequences that can be repeated. -/
inductive SequenceForm where
  /-- Native texts. -/
  | text
  /-- Native lists. -/
  | list (element : Ty)
  /-- Values that are texts. -/
  | textValue
  /-- Values that are lists. -/
  | listValue
  /-- Values that are tuples. -/
  | tupleValue

namespace SequenceForm

/-- The type of the elements, which are characters in texts. -/
@[reducible] def Element : SequenceForm → Type
  | .text => Char
  | .list element => element.Carrier
  | .textValue => Char
  | .listValue => Value
  | .tupleValue => Value

/-- Whether the sequences are texts, whose copies are not counted. -/
def isText : SequenceForm → Bool
  | .text => true
  | .textValue => true
  | _ => false

/-- The sequence of this form with the given elements. -/
def make : (form : SequenceForm) → List form.Element → Native
  | .text, chars => ⟨.text, String.ofList chars⟩
  | .list element, items => ⟨.list element, items⟩
  | .textValue, chars => ⟨.value, .str (String.ofList chars)⟩
  | .listValue, items => ⟨.value, .list items⟩
  | .tupleValue, items => ⟨.value, .tuple items⟩

/-- A word that multiplies a sequence of this form from the left: a value in front of values. -/
def multiplier : SequenceForm → Word64 → Native
  | .text, n => ⟨.int .int64, n⟩
  | .list _, n => ⟨.int .int64, n⟩
  | _, n => ⟨.value, .int n⟩

/-- The elements of a repeated sequence of this form. -/
def repetition (form : SequenceForm) (items : List form.Element) (times : Int) : List form.Element :=
  if form.isText then copies items times.toNat else repeated items times

/-- A sequence whose copies can be counted is copied in full. -/
theorem repetition_of_counted (form : SequenceForm) {items : List form.Element} {times : Int}
    (counted : items.length * times ≤ IntType.uint64.greatest) :
    form.repetition items times = copies items times.toNat := by
  rw [repetition]
  split
  · rfl
  · -- The cut comes behind the last copy.
    have short : (copies items times.toNat).length ≤ IntType.uint64.greatest.toNat := by
      rw [length_copies]
      obtain nonneg | negative := Int.le_total 0 times
      · rw [← Int.toNat_of_nonneg nonneg, ← Int.natCast_mul] at counted
        omega
      · rw [Int.toNat_of_nonpos negative]
        exact Nat.zero_le _
    rw [repeated_eq_take, List.take_of_length_le short]

/-- A counted sequence repeated once more is repeated as often as both numbers say together. -/
theorem repetition_copies (form : SequenceForm) (items : List form.Element) (m n : Nat) :
    form.repetition (copies items m) n = form.repetition items ((m * n : Nat) : Int) := by
  -- Copies of copies are copies, and as many elements are taken from them either way.
  rw [repetition, repetition, repeated_eq_take, repeated_eq_take]
  simp only [Int.toNat_natCast, copies_mul]

end SequenceForm

namespace Native

/-- An operator is defined on two data, and gives the result without a record. -/
def Gives (operator : Operator) (a b result : Native) : Prop :=
  a.combine? operator b = some (pure result)

/-- Two values give what the operator gives without a record. -/
theorem gives_values {operator : Operator} {v w result : Value} (outcome : v.apply operator w = pure result) :
    Gives operator ⟨.value, v⟩ ⟨.value, w⟩ ⟨.value, result⟩ := by
  -- Between two values nothing is converted.
  simp only [Gives, combine?, outcome]
  rfl

/-- A word to the right of a value stands for an integer. -/
theorem gives_value_word {operator : Operator} {v result : Value} {n : Word64}
    (outcome : v.apply operator (.int n) = pure result) :
    Gives operator ⟨.value, v⟩ ⟨.int .int64, n⟩ ⟨.value, result⟩ := by
  -- The word is taken as a number, whose value is the integer.
  simp only [Gives, combine?, Number.ofNative?_int64, Option.map_some, Number.toValue, outcome]
  rfl

/-- A sum joins sequences of one form. -/
theorem gives_add (form : SequenceForm) (xs ys : List form.Element) :
    Gives .add (form.make xs) (form.make ys) (form.make (xs ++ ys)) := by
  -- Native texts and lists are joined directly, and values by the operator on values.
  cases form with
  | text => simp [Gives, SequenceForm.make, combine?, applyData?, String.ofList_append]
  | list element => simp [Gives, SequenceForm.make, combine?, applyData?, onLists?]
  | textValue =>
    apply gives_values
    rw [String.ofList_append]
    rfl
  | listValue => exact gives_values rfl
  | tupleValue => exact gives_values rfl

/-- The value of a sequence is repeated by an integer on either side. -/
theorem apply_mul_toValue (form : SequenceForm) (xs : List form.Element) (n : Word64) :
    (form.make xs).toValue.apply .mul (.int n) = pure (form.make (form.repetition xs n.toInt)).toValue ∧
      (Value.int n).apply .mul (form.make xs).toValue = pure (form.make (form.repetition xs n.toInt)).toValue := by
  have characters (chars : List Char) := congrArg (pure (f := Traced) <| Value.str ·) (repeatedText_ofList chars n.toInt)
  cases form with
  | text => exact ⟨characters xs, characters xs⟩
  | list element =>
    -- The elements become values before they are repeated, not after it.
    have values := congrArg (pure (f := Traced) <| Value.list ·) (Value.map_repeated element.toValue xs n.toInt).symm
    exact ⟨values, values⟩
  | textValue => exact ⟨characters xs, characters xs⟩
  | listValue => exact ⟨rfl, rfl⟩
  | tupleValue => exact ⟨rfl, rfl⟩

/-- A word to the right of a sequence repeats it. -/
theorem gives_mul_word (form : SequenceForm) (xs : List form.Element) (n : Word64) :
    Gives .mul (form.make xs) ⟨.int .int64, n⟩ (form.make (form.repetition xs n.toInt)) := by
  have values := (apply_mul_toValue form xs n).1
  cases form with
  | text =>
    simp [Gives, SequenceForm.make, combine?, applyData?, repetitions?_int64, repeatedText_ofList,
      SequenceForm.repetition, SequenceForm.isText]
  | list element =>
    -- Only a float would be combined with each element instead, and a word is none.
    cases element <;>
      simp [Gives, SequenceForm.make, combine?, applyData?, onListAndScalar?, repetitions?_int64,
        SequenceForm.repetition, SequenceForm.isText]
  | textValue => exact gives_value_word values
  | listValue => exact gives_value_word values
  | tupleValue => exact gives_value_word values

/-- A multiplier on either side of a sequence repeats it. -/
theorem gives_mul_multiplier (form : SequenceForm) (xs : List form.Element) (n : Word64) :
    Gives .mul (form.make xs) (form.multiplier n) (form.make (form.repetition xs n.toInt)) ∧
      Gives .mul (form.multiplier n) (form.make xs) (form.make (form.repetition xs n.toInt)) := by
  obtain ⟨right, left⟩ := apply_mul_toValue form xs n
  cases form with
  | text =>
    refine ⟨gives_mul_word .text xs n, ?_⟩
    simp [Gives, SequenceForm.make, SequenceForm.multiplier, combine?, applyData?, repetitions?_int64,
      repeatedText_ofList, SequenceForm.repetition, SequenceForm.isText]
  | list element =>
    -- Next to native data a multiplier is the word itself.
    refine ⟨gives_mul_word (.list element) xs n, ?_⟩
    cases element <;>
      simp [Gives, SequenceForm.make, SequenceForm.multiplier, combine?, applyData?, onListAndScalar?,
        repetitions?_int64, SequenceForm.repetition, SequenceForm.isText]
  | textValue => exact ⟨gives_values right, gives_values left⟩
  | listValue => exact ⟨gives_values right, gives_values left⟩
  | tupleValue => exact ⟨gives_values right, gives_values left⟩

/-- All ways of multiplying a sequence and a word give the sequence with some elements. -/
structure Multiplies (form : SequenceForm) (xs : List form.Element) (n : Word64) (ys : List form.Element) : Prop where
  /-- The word stands to the right. -/
  word_right : Gives .mul (form.make xs) ⟨.int .int64, n⟩ (form.make ys)
  /-- The word stands to the right, as a value next to a value. -/
  multiplier_right : Gives .mul (form.make xs) (form.multiplier n) (form.make ys)
  /-- The word stands to the left, as a value next to a value. -/
  multiplier_left : Gives .mul (form.multiplier n) (form.make xs) (form.make ys)
  /-- The word stands to the right, and both operands are turned into values. -/
  operate_right : operate .mul (form.make xs) ⟨.int .int64, n⟩ = pure (form.make ys).toValue
  /-- The word stands to the left, and both operands are turned into values. -/
  operate_left : operate .mul ⟨.int .int64, n⟩ (form.make xs) = pure (form.make ys).toValue

/-- A sequence of any form and a word multiply to the repetition, on every way there is. -/
theorem multiplies_repetition (form : SequenceForm) (xs : List form.Element) (n : Word64) :
    Multiplies form xs n (form.repetition xs n.toInt) where
  word_right := gives_mul_word form xs n
  multiplier_right := (gives_mul_multiplier form xs n).1
  multiplier_left := (gives_mul_multiplier form xs n).2
  -- With both operands made values, the product is the one of values.
  operate_right := by rw [operate_eq, toValue_int64, (apply_mul_toValue form xs n).1]
  operate_left := by rw [operate_eq, toValue_int64, (apply_mul_toValue form xs n).2]

/-- A sequence whose copies can be counted is multiplied to copies one behind the other. -/
theorem multiplies_copies {form : SequenceForm} {xs : List form.Element} {n : Word64}
    (counted : xs.length * n.toInt ≤ IntType.uint64.greatest) : Multiplies form xs n (copies xs n.toInt.toNat) := by
  -- If the elements can be counted, the repetition is the copies one behind the other.
  rw [← form.repetition_of_counted counted]
  exact multiplies_repetition form xs n

/--
Repetition is iterated concatenation, for sequences of every form.

As long as the elements of the copies can be counted by an unsigned word, a word on either side of a sequence gives its
copies one behind the other, as many as the word says and none if it is negative, so that every element is the one at
the remainder of its place by the length. A sum of words then gives a concatenation and a product of words a product of
a product. Nothing repeated is nothing, whatever the word, and the walk that repeats it ends at once.
-/
theorem repetition_laws (form : SequenceForm) (xs : List form.Element) :
    (∀ n : Word64, xs.length * n.toInt ≤ IntType.uint64.greatest →
      ∃ ys, Multiplies form xs n ys ∧ ys = (List.replicate n.toInt.toNat xs).flatten ∧
        ys.length = xs.length * n.toInt.toNat ∧ ∀ place < ys.length, ys[place]? = xs[place % xs.length]?) ∧
      (∀ m n : Word64, 0 ≤ m.toInt → 0 ≤ n.toInt → m.toInt + n.toInt ≤ IntType.int64.greatest →
        xs.length * (m.toInt + n.toInt) ≤ IntType.uint64.greatest →
        ∃ first second both, Multiplies form xs m first ∧ Multiplies form xs n second ∧
          Multiplies form xs (m + n) both ∧ Gives .add (form.make first) (form.make second) (form.make both)) ∧
      (∀ m n : Word64, 0 ≤ m.toInt → 0 ≤ n.toInt → m.toInt * n.toInt ≤ IntType.int64.greatest →
        xs.length * m.toInt ≤ IntType.uint64.greatest →
        ∃ once twice, Multiplies form xs m once ∧ Multiplies form once n twice ∧ Multiplies form xs (m * n) twice) ∧
      (∀ count : Nat, (Cycle.start ([] : List form.Element)).take count = []) ∧
      ∀ n : Word64, Multiplies form [] n [] := by
  have least : IntType.int64.least ≤ 0 := by decide
  refine ⟨?_, ?_, ?_, Cycle.take_start_nil, ?_⟩
  · -- The copies are what all products give, and their places are known.
    intro n counted
    refine ⟨_, multiplies_copies counted, rfl, length_copies xs _, ?_⟩
    intro place inside
    rw [length_copies] at inside
    exact getElem?_copies xs inside
  · intro m n first second inRange counted
    have sum : (m + n).toInt = m.toInt + n.toInt := Word.toInt_add_of_inRange (by decide) ⟨by omega, inRange⟩
    -- Neither part has more copies than both together, and those can be counted.
    have length : (0 : Int) ≤ xs.length := Int.natCast_nonneg _
    have partM := Int.mul_le_mul_of_nonneg_left (show m.toInt ≤ m.toInt + n.toInt by omega) length
    have partN := Int.mul_le_mul_of_nonneg_left (show n.toInt ≤ m.toInt + n.toInt by omega) length
    refine ⟨_, _, _, multiplies_copies (Int.le_trans partM counted), multiplies_copies (Int.le_trans partN counted),
      multiplies_copies (sum ▸ counted), ?_⟩
    rw [sum, Int.toNat_add first second, copies_add]
    exact gives_add form _ _
  · intro m n first second inRange counted
    have nonneg := Int.mul_nonneg first second
    have product : (m * n).toInt = m.toInt * n.toInt := Word.toInt_mul_of_inRange (by decide) ⟨by omega, inRange⟩
    refine ⟨_, _, multiplies_copies counted, multiplies_repetition form _ n, ?_⟩
    -- The second product is that of both words even where its elements are cut.
    have same : form.repetition (copies xs m.toInt.toNat) n.toInt = form.repetition xs (m * n).toInt := by
      rw [product, ← Int.toNat_of_nonneg second, form.repetition_copies, Int.natCast_mul, Int.toNat_of_nonneg first,
        Int.toNat_of_nonneg second]
    rw [same]
    exact multiplies_repetition form xs (m * n)
  · intro n
    have counted : ([] : List form.Element).length * n.toInt ≤ IntType.uint64.greatest := by
      rw [List.length_nil, Int.natCast_zero, Int.zero_mul]
      decide
    have nothing := multiplies_copies counted
    rwa [copies_nil] at nothing

/-- A pair is repeated three times, not at all by the least word, and twice two times as four times. -/
theorem repetition_laws_pair :
    (∃ ys, Multiplies .tupleValue [.int 1, .str "a"] 3 ys ∧ ys.length = 6 ∧ ys[5]? = some (.str "a")) ∧
      (∃ ys, Multiplies .tupleValue [.int 1, .str "a"] (Word.ofInt _ (-9223372036854775808)) ys ∧ ys.length = 0) ∧
      (∃ first second both : List Value, Multiplies .tupleValue [.int 1, .str "a"] 1 first ∧
        Multiplies .tupleValue [.int 1, .str "a"] 2 second ∧ Multiplies .tupleValue [.int 1, .str "a"] (1 + 2) both ∧
        Gives .add ⟨.value, .tuple first⟩ ⟨.value, .tuple second⟩ ⟨.value, .tuple both⟩) ∧
      ∃ once twice : List Value, Multiplies .tupleValue [.int 1, .str "a"] 2 once ∧
        Multiplies .tupleValue once 2 twice ∧ Multiplies .tupleValue [.int 1, .str "a"] (2 * 2) twice := by
  -- The laws are applied at three, at the least word, which is negative, and at small sums and products.
  obtain ⟨products, sums, nested, _⟩ := repetition_laws .tupleValue [.int 1, .str "a"]
  obtain ⟨ys, multiplied, _, length, places⟩ := products 3 (by decide)
  obtain ⟨zs, dropped, _, none, _⟩ := products (Word.ofInt _ (-9223372036854775808)) (by decide)
  refine ⟨⟨ys, multiplied, length, (places 5 (by rw [length]; decide)).trans rfl⟩, ⟨zs, dropped, none⟩, ?_, ?_⟩
  · exact sums 1 2 (by decide) (by decide) (by decide) (by decide)
  · exact nested 2 2 (by decide) (by decide) (by decide) (by decide)

end Native

end DynValue
