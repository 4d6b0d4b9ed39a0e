import DynValue.Value.Entries

/-! Values in which no dict has two equal keys, and a test for them. -/

namespace DynValue.Value

/-- Every dict of the value, at any depth and in keys as well, has pairwise different keys. -/
inductive WellFormed : Value → Prop where
  /-- The absent value contains no dict. -/
  | null : WellFormed .null
  /-- A truth value contains no dict. -/
  | bool (truth : Bool) : WellFormed (.bool truth)
  /-- An integer contains no dict. -/
  | int (number : Word64) : WellFormed (.int number)
  /-- A float contains no dict. -/
  | float (number : Binary64) : WellFormed (.float number)
  /-- A text contains no dict. -/
  | str (text : String) : WellFormed (.str text)
  /-- The elements of a list are well formed. -/
  | list {items : List Value} (members : ∀ item ∈ items, WellFormed item) : WellFormed (.list items)
  /-- The elements of a tuple are well formed. -/
  | tuple {items : List Value} (members : ∀ item ∈ items, WellFormed item) : WellFormed (.tuple items)
  /-- The keys of a dict are pairwise different, and its keys and values are well formed. -/
  | dict {entries : List (Value × Value)} (unique : Entries.Unique entries)
      (keys : ∀ entry ∈ entries, WellFormed entry.1) (values : ∀ entry ∈ entries, WellFormed entry.2) :
      WellFormed (.dict entries)

/-- A list is well formed when its elements are. -/
theorem wellFormed_list_iff {items : List Value} :
    (Value.list items).WellFormed ↔ ∀ item ∈ items, item.WellFormed :=
  ⟨fun | .list members => members, .list⟩

/-- A tuple is well formed when its elements are. -/
theorem wellFormed_tuple_iff {items : List Value} :
    (Value.tuple items).WellFormed ↔ ∀ item ∈ items, item.WellFormed :=
  ⟨fun | .tuple members => members, .tuple⟩

/-- A dict is well formed when its keys are pairwise different and its keys and values are well formed. -/
theorem wellFormed_dict_iff {entries : List (Value × Value)} :
    (Value.dict entries).WellFormed ↔
      Entries.Unique entries ∧ ∀ entry ∈ entries, entry.1.WellFormed ∧ entry.2.WellFormed := by
  -- Keys and values are kept apart in the definition and are paired here.
  constructor
  · rintro (_ | _ | _ | _ | _ | _ | _ | ⟨unique, keys, values⟩)
    exact ⟨unique, fun entry member => ⟨keys entry member, values entry member⟩⟩
  · rintro ⟨unique, both⟩
    exact .dict unique (fun entry member => (both entry member).1) fun entry member => (both entry member).2

/-- The keys of entries can be compared in pairs. -/
instance (entries : Entries) : Decidable (Entries.Unique entries) :=
  inferInstanceAs (Decidable (entries.Pairwise fun a b => (a.1 == b.1) = false))

mutual

/-- Whether no dict of the value, at any depth and in keys as well, has two equal keys. -/
def isWellFormed : Value → Bool
  | .list items => areWellFormed items
  | .tuple items => areWellFormed items
  | .dict entries => decide (Entries.Unique entries) && haveWellFormed entries
  | _ => true

/-- Whether all elements pass the test. -/
def areWellFormed : List Value → Bool
  | [] => true
  | item :: rest => isWellFormed item && areWellFormed rest

/-- Whether all keys and values pass the test. -/
def haveWellFormed : List (Value × Value) → Bool
  | [] => true
  | (key, value) :: rest => isWellFormed key && isWellFormed value && haveWellFormed rest

end

mutual

/-- A value that passes the test is well formed. -/
theorem wellFormed_of_test {value : Value} (passed : isWellFormed value = true) : value.WellFormed := by
  -- The test goes through the value in the same way as the constructors do.
  cases value with
  | null => exact .null
  | bool truth => exact .bool truth
  | int number => exact .int number
  | float number => exact .float number
  | str text => exact .str text
  | list items => exact .list (wellFormed_of_tests (by simpa only [isWellFormed] using passed))
  | tuple items => exact .tuple (wellFormed_of_tests (by simpa only [isWellFormed] using passed))
  | dict entries =>
    simp only [isWellFormed, Bool.and_eq_true, decide_eq_true_eq] at passed
    have inner := wellFormed_of_entry_tests passed.2
    exact .dict passed.1 (fun entry member => (inner entry member).1) fun entry member =>
      (inner entry member).2

/-- Elements that pass the test are well formed. -/
theorem wellFormed_of_tests {items : List Value} (passed : areWellFormed items = true) :
    ∀ item ∈ items, item.WellFormed := by
  -- The test of a sequence tests the first element and then the others.
  cases items with
  | nil => simp
  | cons item rest =>
    simp only [areWellFormed, Bool.and_eq_true] at passed
    exact List.forall_mem_cons.mpr ⟨wellFormed_of_test passed.1, wellFormed_of_tests passed.2⟩

/-- Keys and values that pass the test are well formed. -/
theorem wellFormed_of_entry_tests {entries : List (Value × Value)} (passed : haveWellFormed entries = true) :
    ∀ entry ∈ entries, entry.1.WellFormed ∧ entry.2.WellFormed := by
  -- The test of entries tests the key, the value and then the other entries.
  match entries with
  | [] => simp
  | (key, value) :: rest =>
    simp only [haveWellFormed, Bool.and_eq_true] at passed
    exact List.forall_mem_cons.mpr
      ⟨⟨wellFormed_of_test passed.1.1, wellFormed_of_test passed.1.2⟩, wellFormed_of_entry_tests passed.2⟩

end

/-- The test passes for every well-formed value. -/
theorem isWellFormed_of {value : Value} (wellFormed : value.WellFormed) : isWellFormed value = true := by
  -- A sequence passes when each of its elements does.
  have sequence (items : List Value) (passed : ∀ item ∈ items, isWellFormed item = true) :
      areWellFormed items = true := by
    induction items with
    | nil => rfl
    | cons item rest ih =>
      obtain ⟨head, tail⟩ := List.forall_mem_cons.mp passed
      simp [areWellFormed, head, ih tail]
  induction wellFormed with
  | null => rfl
  | bool truth => rfl
  | int number => rfl
  | float number => rfl
  | str text => rfl
  | list members ih => simpa only [isWellFormed] using sequence _ ih
  | tuple members ih => simpa only [isWellFormed] using sequence _ ih
  | @dict entries unique keys values keysIH valuesIH =>
    simp only [isWellFormed, unique, decide_true, Bool.true_and]
    -- What is left are the keys and values, for which it does not matter that the keys differ.
    clear unique keys values
    induction entries with
    | nil => rfl
    | cons entry rest ih =>
      obtain ⟨key, keysIH⟩ := List.forall_mem_cons.mp keysIH
      obtain ⟨value, valuesIH⟩ := List.forall_mem_cons.mp valuesIH
      simp [haveWellFormed, key, value, ih keysIH valuesIH]

/-- The test decides whether a value is well formed. -/
instance (value : Value) : Decidable value.WellFormed :=
  decidable_of_iff (isWellFormed value = true) ⟨wellFormed_of_test, isWellFormed_of⟩

end DynValue.Value
