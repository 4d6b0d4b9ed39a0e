import DynValue.Native.Arithmetic
import DynValue.Proofs.Value.Congruence
import DynValue.Proofs.Word.Range
import DynValue.Session

/-!
Turning native data into values turns native arithmetic into the arithmetic of values.

A zero divisor is the one point where they part: no number on the native side, the absent value on the other.
-/

namespace DynValue

/-- Whether an operator is one of arithmetic. -/
def Operator.isArithmetic : Operator → Bool
  | .and | .or | .xor => false
  | _ => true

/-- Whether an operator divides by its second operand. -/
def Operator.divides : Operator → Bool
  | .div | .mod => true
  | _ => false

namespace Number

/-- The number as a datum. -/
def toNative : Number → Native
  | .int32 n => ⟨.int .int32, n⟩
  | .int64 n => ⟨.int .int64, n⟩
  | .double x => ⟨.double, x⟩

/-- Whether the number is a word of 32 bits. -/
def isShort : Number → Bool
  | .int32 _ => true
  | _ => false

/-- The word of 64 bits of a number that is a word. -/
def word? : Number → Option Word64
  | .int32 n => some (n.convert .int64)
  | .int64 n => some n
  | .double _ => none

/-- Whether the number is zero, of either sign. -/
def isZero : Number → Bool
  | .int32 n => n.toInt = 0
  | .int64 n => n.toInt = 0
  | .double x => x.isZero

/-- What native arithmetic gives for a zero divisor: zero for the remainder of words, and no number otherwise. -/
def undefined (operator : Operator) (a b : Number) : Native :=
  if operator = .mod ∧ a.word?.isSome ∧ b.word?.isSome then ⟨.int .int64, 0⟩ else ⟨.double, Binary.nan⟩

end Number

namespace Native

/-- A word of 64 bits becomes the integer that it is. -/
theorem toValue_int64 (n : Word64) : toValue ⟨.int .int64, n⟩ = .int n :=
  congrArg Value.int n.clamp_toInt

/-- The operator is defined on two data, and turning its result into a value is the same as turning the operands. -/
def Commutes (operator : Operator) (a b : Native) : Prop :=
  ∃ result, a.combine? operator b = some (pure result) ∧
    a.toValue.apply operator b.toValue = pure result.toValue

end Native

namespace Number

variable {operator : Operator} {a b : Number}

/-- Two numbers as native data are combined as the numbers are. -/
theorem combine?_toNative (operator : Operator) (a b : Number) :
    a.toNative.combine? operator b.toNative = (a.combine? operator b).map pure := by
  -- The types of words are told apart before two data are taken as numbers.
  have types : IntType.int64 ≠ IntType.int32 := by decide
  cases a <;> cases b <;>
    simp [toNative, Native.combine?, Native.applyData?, ofNative?, Word.convert_self, types]

/-- A word of 64 bits is taken as a number. -/
theorem ofNative?_int64 (n : Word64) : ofNative? ⟨.int .int64, n⟩ = some (.int64 n) :=
  congrArg (some <| Number.int64 ·) n.convert_self

/-- A number that is a word has an integer as its value. -/
theorem toValue_of_word {n : Word64} (word : a.word? = some n) : a.toNative.toValue = .int n := by
  -- Words of both widths are in the range of the integers of values.
  cases a with
  | int32 m =>
    obtain rfl := Option.some.inj word
    exact congrArg Value.int m.clamp_int32
  | int64 m =>
    obtain rfl := Option.some.inj word
    exact congrArg Value.int m.clamp_toInt
  | double x => contradiction

/-- The float of a number is that of its value. -/
theorem asFloat?_toValue (a : Number) : a.toNative.toValue.asFloat? = some a.toDouble := by
  -- The float is rounded from the integer, which both widths have in common.
  cases a with
  | int32 n =>
    rw [toValue_of_word rfl, Value.asFloat?, Word.toInt_convert_int32]
    rfl
  | int64 n => rw [toValue_of_word rfl]; rfl
  | double x => rfl

/-- A number is zero when its float is. -/
theorem isZero_toDouble (a : Number) : a.toDouble.isZero = a.isZero := by
  -- No integer other than zero is rounded to zero.
  cases a with
  | int32 n => exact Binary.isZero_ofInt .double n.toInt
  | int64 n => exact Binary.isZero_ofInt .double n.toInt
  | double x => rfl

/-- A number that is a word is zero when the word is. -/
theorem isZero_of_word {n : Word64} (word : a.word? = some n) : a.isZero = decide (n.toInt = 0) := by
  -- The longer word has the same integer.
  cases a with
  | int32 m =>
    obtain rfl := Option.some.inj word
    rw [isZero, Word.toInt_convert_int32]
  | int64 m =>
    obtain rfl := Option.some.inj word
    rfl
  | double x => contradiction

/-- A number that is no word has no integer as its value. -/
theorem asInt?_of_float (float : a.word? = none) : a.toNative.toValue.asInt? = none := by
  -- The only such number is a float.
  cases a with
  | int32 n => contradiction
  | int64 n => contradiction
  | double x => rfl

/-- Two words, not both of 32 bits, are combined as words of 64 bits. -/
theorem combine?_words {m n : Word64} (wide : ¬(a.isShort = true ∧ b.isShort = true)) (first : a.word? = some m)
    (second : b.word? = some n) : a.combine? operator b = onWords operator m n := by
  -- A short word next to a long one is made long, and two short ones are excluded.
  cases a <;> cases b <;> simp [word?] at first second <;> subst first second <;> simp [isShort] at wide <;> rfl

/-- As soon as one of two numbers is a float, they are combined as floats. -/
theorem combine?_doubles (float : a.word? = none ∨ b.word? = none) :
    a.combine? operator b = onDoubles operator a.toDouble b.toDouble := by
  -- Two words are excluded, and in the other cases both numbers are made floats.
  cases a <;> cases b <;> simp [word?] at float <;> rfl

/--
A native result goes with a result of values.

The value of the one is the other, unless a zero divisor leaves the one undefined and the other absent with a record.
-/
def Agrees (operator : Operator) (zero : Bool) (undefined : Native) (left : Value) (native : Option Native)
    (outcome : Traced Value) : Prop :=
  ∃ result, native = some result ∧
    if operator.divides && zero then result = undefined ∧ outcome = Value.dividedByZero operator left
    else outcome = pure result.toValue

/-- The arithmetic of words of 64 bits is that of the integers of values. -/
theorem agrees_words (arithmetic : operator.isArithmetic = true) (m n : Word64) :
    Agrees operator (n.toInt = 0) (if operator = .mod then ⟨.int .int64, 0⟩ else ⟨.double, Binary.nan⟩) (.int m)
      (onWords operator m n) ((Value.int m).apply operator (.int n)) := by
  cases operator with
  -- Sums, differences and products wrap in the same way on both sides.
  | add => exact ⟨_, rfl, congrArg pure (Native.toValue_int64 _).symm⟩
  | sub => exact ⟨_, rfl, congrArg pure (Native.toValue_int64 _).symm⟩
  | mul => exact ⟨_, rfl, congrArg pure (Native.toValue_int64 _).symm⟩
  | div =>
    refine ⟨_, rfl, ?_⟩
    -- The integer divisor is tested as the float it is rounded to.
    have tested := Binary.isZero_ofInt .double n.toInt
    simp only [Value.apply, Value.div, Value.onFloats, Value.asFloat?, Binary.safeDiv, tested]
    by_cases zero : n.toInt = 0 <;> simp [zero, Operator.divides, Native.toValue, Ty.toValue]
  | mod =>
    refine ⟨_, rfl, ?_⟩
    -- The remainder of words tests the divisor as an integer.
    by_cases zero : n.toInt = 0
    · simp [zero, Operator.divides, Word.floorMod, Value.apply, Value.mod]
    · simp [zero, Operator.divides, Value.apply, Value.mod, Native.toValue_int64]
  | and => contradiction
  | or => contradiction
  | xor => contradiction

/-- Two numbers of which one is a float: the other is a float as well, or an integer that is rounded to one. -/
theorem cases_of_float {v w : Value} {x y : Binary64} (first : v.asFloat? = some x) (second : w.asFloat? = some y)
    (float : v.asInt? = none ∨ w.asInt? = none) :
    v = .float x ∧ w = .float y ∨ (∃ n : Word64, v = .int n ∧ x = .ofInt _ n.toInt ∧ w = .float y) ∨
      ∃ n : Word64, v = .float x ∧ w = .int n ∧ y = .ofInt _ n.toInt := by
  -- The kinds that have a float are gone through, and truth values have none.
  cases v <;> cases w <;> simp_all [Value.asFloat?, Value.asInt?]

/-- The arithmetic of floats is that of the floats of values, integers among them being taken as floats. -/
theorem agrees_doubles (arithmetic : operator.isArithmetic = true) {v w : Value} {x y : Binary64}
    (first : v.asFloat? = some x) (second : w.asFloat? = some y) (float : v.asInt? = none ∨ w.asInt? = none) :
    Agrees operator y.isZero ⟨.double, Binary.nan⟩ v (onDoubles operator x y) (v.apply operator w) := by
  -- In all three shapes the operands are passed on as the same two floats.
  have shapes := cases_of_float first second float
  cases operator with
  | add | sub | mul =>
    refine ⟨_, rfl, ?_⟩
    obtain ⟨rfl, rfl⟩ | ⟨n, rfl, rfl, rfl⟩ | ⟨n, rfl, rfl, rfl⟩ := shapes <;> rfl
  | div =>
    -- The divisor is tested as a float on both sides, and by one test.
    have quotient : v.apply .div w =
        if y.isZero then Value.dividedByZero .div v else pure (.float (x / y)) := by
      obtain ⟨rfl, rfl⟩ | ⟨n, rfl, rfl, rfl⟩ | ⟨n, rfl, rfl, rfl⟩ := shapes <;> rfl
    refine ⟨_, rfl, ?_⟩
    cases zero : y.isZero <;>
      simp [quotient, zero, Operator.divides, Binary.safeDiv, Native.toValue, Ty.toValue]
  | mod =>
    have rest : v.apply .mod w =
        if y.isZero then Value.dividedByZero .mod v else pure (.float (x.floorMod y)) := by
      obtain ⟨rfl, rfl⟩ | ⟨n, rfl, rfl, rfl⟩ | ⟨n, rfl, rfl, rfl⟩ := shapes <;> rfl
    refine ⟨_, rfl, ?_⟩
    cases zero : y.isZero
    · simp [rest, zero, Operator.divides, Native.toValue, Ty.toValue]
    · simp [rest, zero, Operator.divides, Binary.floorMod]
  | and | or | xor => contradiction

/-- Native arithmetic goes with the arithmetic of values on all numbers, as long as not both are words of 32 bits. -/
theorem agrees_numbers (arithmetic : operator.isArithmetic = true) (wide : ¬(a.isShort = true ∧ b.isShort = true)) :
    Agrees operator b.isZero (undefined operator a b) a.toNative.toValue (a.combine? operator b)
      (a.toNative.toValue.apply operator b.toNative.toValue) := by
  -- Two words stay words, and one float makes both of them floats.
  cases first : a.word? with
  | none =>
    have agree := agrees_doubles arithmetic (asFloat?_toValue a) (asFloat?_toValue b) (.inl (asInt?_of_float first))
    rw [isZero_toDouble] at agree
    simpa [combine?_doubles (.inl first), undefined, first] using agree
  | some m =>
    cases second : b.word? with
    | none =>
      have agree := agrees_doubles arithmetic (asFloat?_toValue a) (asFloat?_toValue b) (.inr (asInt?_of_float second))
      rw [isZero_toDouble] at agree
      simpa [combine?_doubles (.inr second), undefined, second] using agree
    | some n =>
      have agree := agrees_words arithmetic m n
      rw [← isZero_of_word second] at agree
      simpa [combine?_words wide first second, toValue_of_word first, toValue_of_word second, undefined, first, second]
        using agree

end Number

namespace Native

/-- A word of 64 bits repeats as often as its integer says. -/
theorem repetitions?_int64 (n : Word64) : repetitions? ⟨.int .int64, n⟩ = some n.toInt := by
  -- The word is in its own range.
  simp [repetitions?, Word.clamp_toInt]

/-- A text is repeated as its value is, whichever operand it is. -/
theorem commutes_text_mul (s : String) (n : Word64) :
    Commutes .mul ⟨.text, s⟩ ⟨.int .int64, n⟩ ∧ Commutes .mul ⟨.int .int64, n⟩ ⟨.text, s⟩ := by
  -- Both sides repeat the same text as often as the same integer says.
  constructor
  all_goals
    refine ⟨⟨.text, repeatedText s n.toInt⟩, ?_, ?_⟩
    · simp [combine?, applyData?, repetitions?_int64]
    · rw [toValue_int64]
      rfl

/-- Lists of one type are joined as their values are. -/
theorem commutes_list_add (t : Ty) (xs ys : List t.Carrier) : Commutes .add ⟨.list t, xs⟩ ⟨.list t, ys⟩ := by
  -- The values of joined lists are the joined values.
  refine ⟨⟨.list t, xs ++ ys⟩, ?_, ?_⟩
  · simp [combine?, applyData?, onLists?]
  · simp [toValue, Ty.toValue, Value.apply, Value.add]

/-- A list is repeated as its value is, whichever operand it is. -/
theorem commutes_list_mul (t : Ty) (xs : List t.Carrier) (n : Word64) :
    Commutes .mul ⟨.list t, xs⟩ ⟨.int .int64, n⟩ ∧ Commutes .mul ⟨.int .int64, n⟩ ⟨.list t, xs⟩ := by
  constructor
  all_goals
    refine ⟨⟨.list t, repeated xs n.toInt⟩, ?_, ?_⟩
    -- Only a float would be combined with each element instead, and a word is none.
    · cases t <;> simp [combine?, applyData?, onListAndScalar?, repetitions?_int64]
    · rw [toValue_int64]
      simp [toValue, Ty.toValue, Value.apply, Value.mul, Value.map_repeated]

/-- Arithmetic on numbers commutes with taking their values, except for a zero divisor. -/
theorem commutes_numbers {operator : Operator} {a b : Number} (arithmetic : operator.isArithmetic = true)
    (wide : ¬(a.isShort = true ∧ b.isShort = true)) (defined : ¬(operator.divides = true ∧ b.isZero = true)) :
    Commutes operator a.toNative b.toNative := by
  -- The divisor is not zero, so that the two sides agree.
  obtain ⟨result, found, agree⟩ := Number.agrees_numbers arithmetic wide
  rw [if_neg (by simpa using defined)] at agree
  exact ⟨result, by rw [Number.combine?_toNative, found]; rfl, agree⟩

/-- For a zero divisor the native result is undefined, and the result of the values is absent. -/
theorem parts_numbers {operator : Operator} {a b : Number} (arithmetic : operator.isArithmetic = true)
    (wide : ¬(a.isShort = true ∧ b.isShort = true)) (divides : operator.divides = true) (zero : b.isZero = true) :
    a.toNative.combine? operator b.toNative = some (pure (Number.undefined operator a b)) ∧
      (a.toNative.toValue.apply operator b.toNative.toValue).value = .null := by
  -- With a zero divisor the two sides are known separately.
  obtain ⟨result, found, agree⟩ := Number.agrees_numbers arithmetic wide
  rw [if_pos (by simp [divides, zero])] at agree
  obtain ⟨rfl, absent⟩ := agree
  exact ⟨by rw [Number.combine?_toNative, found]; rfl, by rw [absent]; rfl⟩

/-- What native arithmetic gives for a zero divisor has a value. -/
theorem toValue_undefined_ne_null (operator : Operator) (a b : Number) :
    (Number.undefined operator a b).toValue ≠ .null := by
  -- It is a word or a float in every case.
  unfold Number.undefined
  split <;> simp [toValue, Ty.toValue]

/-- A datum that is a number has the value that its type gives the number. -/
theorem toValue_of_number {datum : Native} {number : Number} (found : Number.ofNative? datum = some number) :
    datum.toValue = number.toValue := by
  obtain ⟨type, data⟩ := datum
  cases type with
  | int t =>
    rw [Number.ofNative?] at found
    -- The two types of words are in range, so that nothing is cut to the nearest integer.
    split at found
    case isTrue short =>
      subst short
      obtain rfl := Option.some.inj found
      rw [Word.convert_self]
      exact congrArg Value.int data.clamp_int32
    case isFalse =>
      split at found
      case isTrue long =>
        subst long
        obtain rfl := Option.some.inj found
        rw [Word.convert_self]
        exact toValue_int64 data
      case isFalse => contradiction
  | double =>
    obtain rfl := Option.some.inj found
    rfl
  | _ => contradiction

/-- An operator at two operands of which one is a value is the operator at their values. -/
theorem operate_eq (operator : Operator) (a b : Native) :
    a.operate operator b = a.toValue.apply operator b.toValue := by
  -- Only a number behind a value is not converted like every other datum.
  unfold operate
  split
  · rfl
  · split
    case h_1 number found => rw [toValue_of_number found]; rfl
    case h_2 => rfl
  · rfl

/-- The forms of an operator at the values of two data: both values, one value and one datum, and an assignment. -/
def standardForms (operator : Operator) (a b : Native) : List (Traced Value) :=
  [operate operator ⟨.value, a.toValue⟩ ⟨.value, b.toValue⟩, operate operator ⟨.value, a.toValue⟩ b,
    operate operator a ⟨.value, b.toValue⟩, Prod.fst <$> (Step.operate operator b.toValue).run a.toValue]

/-- All forms of an operator give the result of the operator at the values. -/
theorem standardForms_eq {operator : Operator} {a b : Native} {form : Traced Value}
    (member : form ∈ standardForms operator a b) : form = a.toValue.apply operator b.toValue := by
  simp only [standardForms, List.mem_cons, List.not_mem_nil, or_false] at member
  obtain rfl | rfl | rfl | rfl := member
  · exact operate_eq operator _ _
  · exact operate_eq operator _ _
  · exact operate_eq operator _ _
  · -- The assignment takes the value out of its place and puts the result back, with no record of its own.
    simp [Step.run, Step.silent, Value.operateInPlace_run]

/--
Taking values is a homomorphism from native arithmetic to the arithmetic of values.

It commutes with every operator on numbers that are not both words of 32 bits, except exactly for a zero divisor, where the
native result is no number, or zero for the remainder of words, and the value is absent. It commutes with joining and
repeating texts and lists. All forms of an operator on values give the same result.
-/
theorem toValue_homomorphism :
    (∀ (operator : Operator) (a b : Number), operator.isArithmetic = true → ¬(a.isShort = true ∧ b.isShort = true) →
      (Commutes operator a.toNative b.toNative ↔ ¬(operator.divides = true ∧ b.isZero = true)) ∧
        (operator.divides = true → b.isZero = true →
          a.toNative.combine? operator b.toNative = some (pure (Number.undefined operator a b)) ∧
            (a.toNative.toValue.apply operator b.toNative.toValue).value = .null)) ∧
      (∀ s t : String, Commutes .add ⟨.text, s⟩ ⟨.text, t⟩) ∧
      (∀ (s : String) (n : Word64),
        Commutes .mul ⟨.text, s⟩ ⟨.int .int64, n⟩ ∧ Commutes .mul ⟨.int .int64, n⟩ ⟨.text, s⟩) ∧
      (∀ (t : Ty) (xs ys : List t.Carrier), Commutes .add ⟨.list t, xs⟩ ⟨.list t, ys⟩) ∧
      (∀ (t : Ty) (xs : List t.Carrier) (n : Word64),
        Commutes .mul ⟨.list t, xs⟩ ⟨.int .int64, n⟩ ∧ Commutes .mul ⟨.int .int64, n⟩ ⟨.list t, xs⟩) ∧
      ∀ (operator : Operator) (a b : Native), ∀ form ∈ standardForms operator a b,
        form = a.toValue.apply operator b.toValue := by
  refine ⟨?_, fun s t => ⟨_, rfl, rfl⟩, commutes_text_mul, commutes_list_add, commutes_list_mul,
    fun operator a b form => standardForms_eq⟩
  intro operator a b arithmetic wide
  refine ⟨⟨?_, commutes_numbers arithmetic wide⟩, parts_numbers arithmetic wide⟩
  -- If the two sides met at a zero divisor, the absent value would be a number.
  rintro ⟨result, found, same⟩ ⟨divides, zero⟩
  obtain ⟨native, absent⟩ := parts_numbers arithmetic wide divides zero
  -- The native result is the one that stands for an undefined quotient.
  have results : result = Number.undefined operator a b := by
    have traces := Option.some.inj (found.symm.trans native)
    exact congrArg Traced.value traces
  have value : result.toValue = .null := by
    rw [same] at absent
    exact absent
  exact toValue_undefined_ne_null operator a b (results ▸ value)

/-- The greatest word wraps on both sides, and the remainder by zero is zero on one side and absent on the other. -/
theorem toValue_homomorphism_limits :
    Commutes .add (Number.int64 (Word.ofInt _ 9223372036854775807)).toNative (Number.int64 1).toNative ∧
      ¬Commutes .mod (Number.int64 7).toNative (Number.int64 0).toNative ∧
      ((Number.int64 7).toNative.toValue.apply .div (Number.double (Binary.zero true)).toNative.toValue).value = .null := by
  -- The sum has no divisor, and the remainder and the quotient have a zero one.
  obtain ⟨numbers, _⟩ := toValue_homomorphism
  refine ⟨(numbers .add _ _ rfl (by decide)).1.mpr (by decide), ?_, ?_⟩
  · exact fun commutes => (numbers .mod _ _ rfl (by decide)).1.mp commutes (by decide)
  · exact ((numbers .div _ _ rfl (by decide)).2 rfl rfl).2

end Native

end DynValue
