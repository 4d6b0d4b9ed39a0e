import DynValue.Native.Subscript
import DynValue.Proofs.Value.Place
import DynValue.Proofs.Word.Range

/-!
All ways of reading by position read the same elements.

A position is given by words of either width, by unsigned words or by values, and what it selects is handed out strictly,
leniently, by unpacking or from native sequences.
-/

namespace DynValue

/-- A length counted down by a negative index stays in the range of words. -/
theorem Word.toInt_add_length {index length : Word64} (negative : index.toInt < 0) (counted : 0 ≤ length.toInt) :
    (index + length).toInt = index.toInt + length.toInt := by
  -- The two have different signs, so that their sum lies between them.
  have low := index.toInt_inRange.1
  have high := length.toInt_inRange.2
  exact toInt_add_of_inRange (by decide) (by omega)

/-- The place of an index that counts from the start, or from the end if it is negative. -/
def placeOf (index : Int) (length : Nat) : Nat :=
  (if index < 0 then length + index else index).toNat

/-- An index selects its place from minus the length up to the length. -/
theorem position?_of_inside {index : Int} {length : Nat} (inside : -(length : Int) ≤ index ∧ index < length) :
    position? index length = some (placeOf index length) ∧ placeOf index length < length := by
  unfold position? placeOf
  dsimp only
  -- The two ways of counting add the length on different sides.
  rw [Int.add_comm index]
  split
  · rw [if_pos (by omega)]
    exact ⟨rfl, by omega⟩
  · rw [if_pos (by omega)]
    exact ⟨rfl, by omega⟩

/-- Any other index selects nothing. -/
theorem position?_of_outside {index : Int} {length : Nat} (outside : ¬(-(length : Int) ≤ index ∧ index < length)) :
    position? index length = none := by
  -- Counted from the end or from the start, the place falls outside.
  unfold position?
  dsimp only
  split <;> rw [if_neg (by omega)]

/-- An index inside of the range selects the element at its place. -/
theorem elementAt?_of_inside {α : Type} {items : List α} {index : Int}
    (inside : -(items.length : Int) ≤ index ∧ index < items.length) :
    ∃ element, items[placeOf index items.length]? = some element ∧ elementAt? items index = some element := by
  -- The index has a place, and at that place there is an element.
  obtain ⟨placed, within⟩ := position?_of_inside inside
  exact ⟨_, List.getElem?_eq_getElem within, by simp [elementAt?, placed, within]⟩

/-- An index outside of the range selects nothing. -/
theorem elementAt?_of_outside {α : Type} {items : List α} {index : Int}
    (outside : ¬(-(items.length : Int) ≤ index ∧ index < items.length)) : elementAt? items index = none := by
  -- Such an index has no place.
  simp [elementAt?, position?_of_outside outside]

/-- An index that is not negative selects the element at the place it gives. -/
theorem elementAt?_of_nonneg {α : Type} (items : List α) {index : Int} (nonneg : 0 ≤ index) :
    elementAt? items index = items[index.toNat]? := by
  by_cases within : index < items.length
  · have inside : -(items.length : Int) ≤ index ∧ index < items.length := ⟨by omega, within⟩
    have place : placeOf index items.length = index.toNat := by simp [placeOf, Int.not_lt.mpr nonneg]
    simp [elementAt?, (position?_of_inside inside).1, place]
  · -- Past the end there is no element on either side.
    rw [elementAt?_of_outside (by omega), List.getElem?_eq_none (by omega)]

namespace Value

/-- What a sequence answers to positions. -/
structure SequenceReads (value : Value) (items : List Value) : Prop where
  /-- An index from minus the length up to the length selects the element at its place. -/
  item_inside : ∀ index : Word64, -(items.length : Int) ≤ index.toInt ∧ index.toInt < items.length →
    ∃ element, items[placeOf index.toInt items.length]? = some element ∧ value.item index = .ok element
  /-- Any other index is a fault that names the kind, the index and the length. -/
  item_outside : ∀ index : Word64, ¬(-(items.length : Int) ≤ index.toInt ∧ index.toInt < items.length) →
    value.item index = .error (.noPosition value.kind index.toInt items.length)
  /-- An unsigned position selects an element below the length. -/
  element_ok_iff : ∀ position : Nat,
    (∃ element, value.elementOrAbort position = .ok element) ↔ position < items.length
  /-- The element at an unsigned position is the one at the index that is the position. -/
  element_eq_item : ∀ (index : Word64) (element : Value), 0 ≤ index.toInt →
    (value.elementOrAbort index.toInt.toNat = .ok element ↔ value.item index = .ok element)
  /-- Unpacking succeeds for the length. -/
  unpack_ok_iff : ∀ expected : Nat, (∃ elements, value.unpack expected = .ok elements) ↔ expected = items.length
  /-- What is unpacked are the elements at all indices from zero, in order. -/
  unpack_eq_items : ∀ (expected : Nat) (elements : List Value), value.unpack expected = .ok elements →
    elements.length = items.length ∧
      ∀ index : Word64, 0 ≤ index.toInt → elements[index.toInt.toNat]? = (value.item index).toOption

/-- What any value answers to an index, next to the strict reading that hands its fault back. -/
structure IndexReads (value : Value) (index : Word64) : Prop where
  /-- Where the strict reading succeeds, both subscripts give the same element. -/
  selected : ∀ element, value.item index = .ok element →
    value.selectOrAbort (.int64 index) = pure (.ok element) ∧ value.pickBy (.int64 index) = element
  /-- A fault is about a position, and its words end the call after one record. -/
  aborted : ∀ fault, value.item index = .error fault → fault.category = .indexOutOfRange ∧
    ∃ record : Record, record.channel = .subscripts ∧
      value.selectOrAbort (.int64 index) = .report record (.error ⟨fault.display⟩)
  /-- The lenient subscript gives the absent value for a fault, except that texts have characters. -/
  absent : ∀ fault, value.item index = .error fault → value.kind ≠ .str → value.pickBy (.int64 index) = .null

/-- A subscript reads what an index reads, strictly and leniently. -/
def ReadsAsIndex (value : Value) (subscript : Subscript) (index : Word64) : Prop :=
  value.selectOrAbort subscript = value.selectOrAbort (.int64 index) ∧
    value.pickBy subscript = value.pickBy (.int64 index)

/-- What a dict holds under a truth value, found among the truth values of its keys alone. -/
def heldUnderTruth (entries : Entries) (truth : Bool) : Value :=
  ((List.find? (fun entry => entry.1.asBool? == some truth) entries).map Prod.snd).getD .null

/-- What any value answers to subscripts that are no index of 64 bits themselves. -/
structure SubscriptReads (value : Value) : Prop where
  /-- An index of 32 bits is read as the same index of 64 bits. -/
  short : ∀ (short : Word .int32) (index : Word64), index.toInt = short.toInt →
    value.ReadsAsIndex (.int32 short) index
  /-- An unsigned position is read as an index, the greatest one if it is larger than all. -/
  position : ∀ (position : Word .uint64) (index : Word64),
    index.toInt = min position.toInt IntType.int64.greatest → value.ReadsAsIndex (.size position) index
  /-- Outside of dicts an integer is read as an index. -/
  integer : value.kind ≠ .dict → ∀ index : Word64, value.ReadsAsIndex (.value (.int index)) index
  /-- Outside of dicts a truth value is read as the index zero or one. -/
  truth : value.kind ≠ .dict → ∀ (truth : Bool) (index : Word64), index.toInt = (if truth then 1 else 0) →
    value.ReadsAsIndex (.value (.bool truth)) index
  /-- A dict looks a truth value up as itself, whatever integers it has for keys. -/
  keyed : ∀ (entries : Entries) (truth : Bool), value = .dict entries →
    value.selectOrAbort (.value (.bool truth)) = pure (.ok (heldUnderTruth entries truth)) ∧
      value.pickBy (.value (.bool truth)) = heldUnderTruth entries truth

/-- What a native sequence of values answers to an index, next to the list of the same values. -/
structure NativeReads (items : List Value) (index : Word64) : Prop where
  /-- The native sequence has an element where the strict reading of the list succeeds. -/
  found : Native.pick? ⟨.list .value, items⟩ ⟨.int .int64, index⟩ =
    some (.datum .value ((Value.list items).item index).toOption)
  /-- The lenient reading of the list fills in the absent value. -/
  filled : (Value.list items).pickBy (.int64 index) = ((Value.list items).item index).toOption.getD .null
  /-- An index of 32 bits selects the same. -/
  short : ∀ short : Word .int32, index.toInt = short.toInt →
    Native.pick? ⟨.list .value, items⟩ ⟨.int .int32, short⟩ = Native.pick? ⟨.list .value, items⟩ ⟨.int .int64, index⟩

variable {value : Value} {items : List Value}

/-- Reading a sequence strictly gives the element that the index selects, and otherwise a fault. -/
theorem item_of_sequence (sequence : value.asSequence? = some items) (index : Word64) :
    value.item index = (elementAt? items index.toInt).elim
      (.error (.noPosition value.kind index.toInt items.length)) .ok := by
  -- Lists and tuples are read in the same way.
  cases value <;> simp only [asSequence?, Option.some.injEq, reduceCtorEq] at sequence <;> subst sequence <;>
    rw [item] <;> cases elementAt? _ index.toInt <;> rfl

/-- The strict reading of a sequence succeeds with the element that the index selects. -/
theorem item_eq_ok_iff (sequence : value.asSequence? = some items) {index : Word64} {element : Value} :
    value.item index = .ok element ↔ elementAt? items index.toInt = some element := by
  -- Where nothing is selected the reading fails.
  rw [item_of_sequence sequence]
  cases elementAt? items index.toInt <;> simp

/-- Reading at a position succeeds with the element there. -/
theorem elementOrAbort_eq_ok_iff (sequence : value.asSequence? = some items) {position : Nat} {element : Value} :
    value.elementOrAbort position = .ok element ↔ items[position]? = some element := by
  -- Where there is none the reading fails, whatever its fault is called.
  simp only [elementOrAbort, Value.element, sequence]
  cases items[position]? <;> simp [Except.mapError]

/-- Unpacking succeeds with all elements, and only if their number is the expected one. -/
theorem unpack_eq_ok_iff (sequence : value.asSequence? = some items) {expected : Nat} {elements : List Value} :
    value.unpack expected = .ok elements ↔ expected = items.length ∧ elements = items := by
  -- The length is compared before anything is handed out.
  rw [unpack, sequence]
  by_cases fits : items.length = expected
  · simp [fits, eq_comm]
  · simp [fits, Ne.symm fits]

/-- Sequences are read by position in the same way everywhere. -/
theorem sequenceReads (sequence : value.asSequence? = some items) : SequenceReads value items where
  -- Every clause is about the element that the position selects among the items.
  item_inside := by
    intro index inside
    obtain ⟨element, held, found⟩ := elementAt?_of_inside inside
    exact ⟨element, held, (item_eq_ok_iff sequence).mpr found⟩
  item_outside := by
    intro index outside
    rw [item_of_sequence sequence, elementAt?_of_outside outside]
    rfl
  element_ok_iff := by
    intro position
    simp only [elementOrAbort_eq_ok_iff sequence]
    rw [← Option.isSome_iff_exists]
    simp
  element_eq_item := by
    intro index element nonneg
    rw [elementOrAbort_eq_ok_iff sequence, item_eq_ok_iff sequence, elementAt?_of_nonneg items nonneg]
  unpack_ok_iff := by
    intro expected
    simp [unpack_eq_ok_iff sequence]
  -- What is unpacked are the items, which the indices from zero on read.
  unpack_eq_items := by
    intro expected elements unpacked
    obtain ⟨rfl, rfl⟩ := (unpack_eq_ok_iff sequence).mp unpacked
    refine ⟨rfl, ?_⟩
    intro index nonneg
    rw [item_of_sequence sequence, ← elementAt?_of_nonneg elements nonneg]
    cases elementAt? elements index.toInt <;> rfl

/--
Strict and lenient reading by an index, side by side.

Either both give the same element, or the strict one fails for want of a position and the lenient one gives the absent value,
unless there are characters to give.
-/
theorem item_cases (value : Value) (index : Word64) :
    (∃ element, value.item index = .ok element ∧ value.pick index = element) ∨
      ∃ fault, value.item index = .error fault ∧ fault.category = .indexOutOfRange ∧
        (value.kind ≠ .str → value.pick index = .null) := by
  -- Both readings of a sequence select the same element, and only what they do without one differs.
  cases value with
  | list items =>
    cases found : elementAt? items index.toInt with
    | some element => exact .inl ⟨element, by simp [item, found], by simp [pick, found]⟩
    | none =>
      exact .inr ⟨.noPosition .list index.toInt items.length, by simp [item, found, kind], rfl,
        by simp [pick, found]⟩
  | tuple items =>
    cases found : elementAt? items index.toInt with
    | some element => exact .inl ⟨element, by simp [item, found], by simp [pick, found]⟩
    | none =>
      exact .inr ⟨.noPosition .tuple index.toInt items.length, by simp [item, found, kind], rfl,
        by simp [pick, found]⟩
  -- A dict is read without a fault, and a missing key is absent both times.
  | dict entries => exact .inl ⟨_, rfl, rfl⟩
  | str text => exact .inr ⟨_, rfl, rfl, fun noText => absurd rfl noText⟩
  | _ => exact .inr ⟨_, rfl, rfl, fun _ => rfl⟩

/-- The lenient reading by the subscript of a word is the one by the word. -/
theorem pickBy_int64 (value : Value) (index : Word64) : value.pickBy (.int64 index) = value.pick index := by
  -- The subscript of a word has the word as its key.
  cases value <;> rfl

/-- The strict reading by the subscript of a word is the one by the word. -/
theorem itemBy_int64 (value : Value) (index : Word64) : value.itemBy (.int64 index) = value.item index := by
  -- The subscript of a word has the word as its key.
  cases value <;> rfl

/-- Strict, lenient and aborting access agree at every index. -/
theorem indexReads (value : Value) (index : Word64) : IndexReads value index := by
  -- The strict reading succeeds or fails, and the others follow it in either case.
  obtain ⟨element, read, picked⟩ | ⟨fault, read, category, absent⟩ := item_cases value index
  · refine ⟨?_, ?_, ?_⟩ <;> simp only [read, reduceCtorEq, false_implies, implies_true, Except.ok.injEq]
    rintro _ rfl
    rw [selectOrAbort, select, itemBy_int64, read, pickBy_int64]
    exact ⟨rfl, picked⟩
  · refine ⟨?_, ?_, ?_⟩ <;> simp only [read, reduceCtorEq, false_implies, implies_true, Except.error.injEq]
    · rintro _ rfl
      refine ⟨category, .subscriptFailed fault, rfl, ?_⟩
      rw [selectOrAbort, select, itemBy_int64, read]
      rfl
    · rintro _ rfl noText
      rw [pickBy_int64]
      exact absent noText

/-- Outside of dicts, a subscript that stands for an index is read as the index. -/
theorem readsAsIndex_of_index {subscript : Subscript} {index : Word64} (unkeyed : value.kind ≠ .dict)
    (stands : subscript.index? = some index) : value.ReadsAsIndex subscript index := by
  -- All readings of other values than dicts start from the index.
  have items : value.itemBy subscript = value.itemBy (.int64 index) := by
    rw [itemBy_eq_item unkeyed, stands, itemBy_int64]
  have picks : value.pickBy subscript = value.pickBy (.int64 index) := by
    rw [pickBy_eq_pick unkeyed, stands, pickBy_int64]
  exact ⟨by simp only [selectOrAbort, select, items], picks⟩

/-- A subscript whose key is an integer is read as the integer everywhere. -/
theorem readsAsIndex_of_key {subscript : Subscript} {index : Word64} (value : Value)
    (keys : subscript.key = .int index) : value.ReadsAsIndex subscript index := by
  -- A dict looks the key up, and every other value takes it as an index.
  by_cases keyed : value.kind = .dict
  · cases value <;> simp only [kind, reduceCtorEq] at keyed
    have same : (Subscript.int64 index).key = subscript.key := keys.symm
    simp only [ReadsAsIndex, selectOrAbort, select, itemBy_dict, pickBy_dict, same, and_self]
  · exact readsAsIndex_of_index keyed (by rw [Subscript.index?, keys])

/-- An unsigned position past the range of indices stands for the greatest of them. -/
theorem toInt_clamp_position (position : Word .uint64) :
    (Word.clamp .int64 position.toInt).toInt = min position.toInt IntType.int64.greatest := by
  -- An unsigned word is not negative, so that only the upper bound can take effect.
  have nonneg : 0 ≤ position.toInt := position.toInt_inRange.1
  have limits : IntType.int64.least ≤ 0 ∧ 0 ≤ IntType.int64.greatest := by decide
  rw [Word.toInt_clamp (by decide)]
  omega

/-- A truth value as a key of a dict is looked for among truth values alone. -/
theorem find?_bool (entries : Entries) (truth : Bool) :
    Entries.find? entries (.bool truth) =
      (List.find? (fun entry => entry.1.asBool? == some truth) entries).map Prod.snd := by
  induction entries with
  | nil => rfl
  | cons entry rest ih =>
    -- An integer is never equal to a truth value, and a truth value only to itself.
    have same : (Value.bool truth == entry.1) = (entry.1.asBool? == some truth) := by
      cases entry.1 with
      | bool other => cases truth <;> cases other <;> rfl
      | _ => rfl
    rw [Entries.find?_cons, same, List.find?_cons, ih]
    cases entry.1.asBool? == some truth <;> rfl

/-- Subscripts of all types read as the index that they stand for. -/
theorem subscriptReads (value : Value) : SubscriptReads value where
  -- A word of either width is a key with the integer that it has.
  short := by
    intro short index same
    refine readsAsIndex_of_key value (congrArg Value.int (Word.toInt_inj ?_))
    rw [Word.toInt_convert_int32, same]
  position := by
    intro position index cut
    refine readsAsIndex_of_key value (congrArg Value.int (Word.toInt_inj ?_))
    rw [toInt_clamp_position, cut]
  integer := by
    intro _ index
    exact readsAsIndex_of_key value rfl
  -- Outside of dicts a truth value counts as one or zero.
  truth := by
    intro unkeyed truth index same
    refine readsAsIndex_of_index unkeyed (congrArg some (Word.toInt_inj ?_))
    rw [same]
    cases truth <;> rfl
  -- A dict has the truth value itself for a key.
  keyed := by
    rintro entries truth rfl
    rw [selectOrAbort, select, itemBy_dict, pickBy_dict, Subscript.key, find?_bool]
    exact ⟨rfl, rfl⟩

/-- Native sequences are read as lists are. -/
theorem nativeReads (items : List Value) (index : Word64) : NativeReads items index := by
  -- Both are searches by the same position, one of which ends in a fault instead.
  have found : ((Value.list items).item index).toOption = elementAt? items index.toInt := by
    rw [item_of_sequence rfl]
    cases elementAt? items index.toInt <;> rfl
  refine ⟨?_, ?_, ?_⟩
  · simp [Native.pick?, Native.index?, found]
  · rw [pickBy_int64, found]
    rfl
  · intro short same
    simp [Native.pick?, Native.index?, same]

/--
All ways of reading by position agree, on every value and for every index.

Sequences are read from minus their length up to their length, with a fault elsewhere, and no sum of an index and a length
leaves the range of words. Strict, lenient and unpacking access give the same elements. Words of both widths, unsigned
positions and values as positions select what the index they stand for selects, while a dict looks a truth value up as itself.
Lists are read as native sequences are.
-/
theorem positional_reads_agree :
    (∀ (value : Value) (items : List Value), value.asSequence? = some items → SequenceReads value items) ∧
      (∀ index length : Word64, index.toInt < 0 → 0 ≤ length.toInt →
        (index + length).toInt = index.toInt + length.toInt) ∧
      (∀ (value : Value) (index : Word64), IndexReads value index) ∧
      (∀ value : Value, SubscriptReads value) ∧
      ∀ (items : List Value) (index : Word64), NativeReads items index := by
  -- Each kind of reading has been compared with the selection of an element by itself.
  refine ⟨?_, ?_, indexReads, subscriptReads, nativeReads⟩
  · intro value items sequence
    exact sequenceReads sequence
  · intro index length negative counted
    exact Word.toInt_add_length negative counted

/-- The least index misses a list of two, the index before its end hits it, and true misses the integer one of a dict. -/
theorem positional_reads_agree_edges :
    (Value.list [.str "a", .str "b"]).item (Word.ofInt _ (-9223372036854775808)) =
        .error (.noPosition .list (-9223372036854775808) 2) ∧
      (Value.list [.str "a", .str "b"]).elementOrAbort 1 = .ok (.str "b") ∧
      (Value.dict [(.int 1, .str "c")]).pickBy (.value (.bool true)) = .null := by
  -- The least index cannot be counted from the end, and the truth value is not the integer.
  obtain ⟨sequences, _, _, subscripts, _⟩ := positional_reads_agree
  have reads := sequences (.list [.str "a", .str "b"]) _ rfl
  refine ⟨reads.item_outside (Word.ofInt _ (-9223372036854775808)) (by decide), ?_, ?_⟩
  · exact (reads.element_eq_item 1 (.str "b") (by decide)).mpr rfl
  · exact ((subscripts _).keyed [(.int 1, .str "c")] true rfl).2

end Value

end DynValue
