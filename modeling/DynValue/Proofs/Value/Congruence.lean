import DynValue.Proofs.Model.Alike
import DynValue.Proofs.Value.Order
import DynValue.Proofs.Value.Repetition
import DynValue.Proofs.Value.Stream

/-!
Equality is a congruence: no operation tells equal values apart.

The order in which a dict lists its entries is the only thing in which equal values differ. Whatever is read from them,
computed from them or made of them is again equal, with the same faults and the same records.
-/

namespace DynValue

/-- Outcomes that are related results, or one and the same fault. -/
inductive OutcomeRel {α : Type} (relation : α → α → Prop) : Except Fault α → Except Fault α → Prop where
  /-- Both succeed. -/
  | ok {a b : α} (related : relation a b) : OutcomeRel relation (.ok a) (.ok b)
  /-- Both fail. -/
  | error (fault : Fault) : OutcomeRel relation (.error fault) (.error fault)

/-- Computations with related results and the same records. -/
structure Traced.Rel {α : Type} (relation : α → α → Prop) (a b : Traced α) : Prop where
  /-- The results are related. -/
  value : relation a.value b.value
  /-- The records are the same. -/
  records : a.records = b.records

namespace Value

/-- Two well-formed values that are equal. -/
structure Same (a b : Value) : Prop where
  /-- The first value is well formed. -/
  wellFormed : a.WellFormed
  /-- The values are equal. -/
  equal : (a == b) = true

namespace Same

variable {a b c : Value}

/-- Equal values have the same canonical form. -/
theorem form (same : Same a b) : canonical a = canonical b :=
  (beq_iff_canonical same.wellFormed b).mp same.equal

/-- A value with the canonical form of a well-formed one equals it. -/
theorem of_form (whole : a.WellFormed) (form : canonical a = canonical b) : Same a b :=
  ⟨whole, (beq_iff_canonical whole b).mpr form⟩

/-- What equals a well-formed value is well formed. -/
theorem other (same : Same a b) : b.WellFormed :=
  wellFormed_of_canonical same.wellFormed same.form

/-- A well-formed value equals itself. -/
theorem refl (whole : a.WellFormed) : Same a a := of_form whole rfl

/-- Equality goes both ways. -/
theorem symm (same : Same a b) : Same b a := of_form same.other same.form.symm

/-- What equals the second of two equal values equals the first. -/
theorem trans (first : Same a b) (second : Same b c) : Same a c :=
  of_form first.wellFormed (first.form.trans second.form)

/-- Equal values have the same kind. -/
theorem kind (same : Same a b) : a.kind = b.kind := by
  -- The canonical form keeps the kind.
  rw [← kind_canonical a, same.form, kind_canonical]

/-- Of two equal values both are dicts, or neither is. -/
theorem dict_cases (same : Same a b) :
    (∃ xs ys : Entries, a = .dict xs ∧ b = .dict ys ∧ (xs.map canonicalEntry).Perm (ys.map canonicalEntry)) ∨
      a.kind ≠ .dict ∧ b.kind ≠ .dict := by
  cases a with
  | dict xs =>
    obtain ⟨ys, rfl, moved⟩ := exists_of_canonical_dict same.form
    exact .inl ⟨xs, ys, rfl, rfl, moved⟩
  | _ =>
    -- The kind of the first value is that of the second.
    rw [← same.kind]
    exact .inr (by simp [Value.kind])

/-- Optional values are related when they have the same canonical form. -/
theorem option {first second : Option Value} (whole : ∀ value ∈ first, value.WellFormed)
    (forms : first.map canonical = second.map canonical) : Option.Rel Same first second := by
  cases first with
  | none =>
    rw [Option.map_none, eq_comm, Option.map_eq_none_iff] at forms
    rw [forms]
    exact .none
  | some value =>
    rw [Option.map_some, eq_comm, Option.map_eq_some_iff] at forms
    -- The other side has a value as well, and it has the same form.
    obtain ⟨other, rfl, form⟩ := forms
    exact .some (of_form (whole value rfl) form.symm)

/-- Where nothing is found on either side, the absent value is read on both. -/
theorem getD {first second : Option Value} (found : Option.Rel Same first second) :
    Same (first.getD .null) (second.getD .null) := by
  -- Both sides find something or neither does.
  cases found with
  | none => exact refl .null
  | some same => exact same

end Same

/-- Equal keys of equal dicts hold equal values. -/
theorem find?_same {xs ys : Entries} {key key' : Value} (dicts : Same (.dict xs) (.dict ys)) (keys : Same key key') :
    Option.Rel Same (Entries.find? xs key) (Entries.find? ys key') := by
  -- The forms of what is found are the same, and what is found in a well-formed dict is well formed.
  have forms := map_find?_congr dicts.wellFormed keys.wellFormed
    ((canonical_dict_eq_iff xs ys).mp dicts.form) keys.form
  exact Same.option (fun value found => wellFormed_of_find? dicts.wellFormed found) forms

/-- The element at an index has its canonical form at the same index of the canonical forms. -/
theorem map_elementAt? {α β : Type} (form : α → β) (items : List α) (index : Int) :
    (elementAt? items index).map form = elementAt? (items.map form) index := by
  -- The place depends on the length alone, which the canonical forms have in common.
  unfold elementAt?
  rw [List.length_map, Option.map_bind]
  congr 1
  funext place
  exact (List.getElem?_map ..).symm

/-- What an index selects is an element. -/
theorem mem_of_elementAt? {α : Type} {items : List α} {index : Int} {item : α}
    (found : elementAt? items index = some item) : item ∈ items := by
  -- The index has a place, and the element is the one there.
  obtain ⟨place, _, held⟩ := Option.bind_eq_some_iff.mp found
  exact List.mem_of_getElem? held

section Elements

variable {xs ys : List Value} (members : ∀ x ∈ xs, x.WellFormed) (forms : xs.map canonical = ys.map canonical)

include members forms

/-- Equal sequences have equal elements at every index. -/
theorem elementAt?_same (index : Int) : Option.Rel Same (elementAt? xs index) (elementAt? ys index) := by
  -- Selection looks at the place alone, so that it passes to the forms of the elements.
  refine Same.option (fun value found => members value (mem_of_elementAt? found)) ?_
  rw [map_elementAt?, map_elementAt?, forms]

/-- Equal sequences fail for the same positions, and with the same fault. -/
theorem elementOutcome_same (kind : Kind) (index : Int) :
    OutcomeRel Same
      (match elementAt? xs index with
        | some element => .ok element
        | none => .error (.noPosition kind index xs.length))
      (match elementAt? ys index with
        | some element => .ok element
        | none => .error (.noPosition kind index ys.length)) := by
  -- A fault names the length, which is the same as well.
  have lengths : xs.length = ys.length := by simpa using congrArg List.length forms
  have found := elementAt?_same members forms index
  rw [lengths]
  generalize elementAt? xs index = first at found ⊢
  generalize elementAt? ys index = second at found ⊢
  cases found with
  | none => exact .error _
  | some same => exact .ok same

end Elements

section Subscripts

variable {a b : Value} (same : Same a b)

include same

/-- Equal values have equal items at every index. -/
theorem item_same (index : Word64) : OutcomeRel Same (a.item index) (b.item index) := by
  cases a with
  | list xs =>
    obtain ⟨ys, rfl, forms⟩ := exists_of_canonical_list same.form
    exact elementOutcome_same (wellFormed_list_iff.mp same.wellFormed) forms .list index.toInt
  | tuple xs =>
    obtain ⟨ys, rfl, forms⟩ := exists_of_canonical_tuple same.form
    exact elementOutcome_same (wellFormed_tuple_iff.mp same.wellFormed) forms .tuple index.toInt
  | dict xs =>
    obtain ⟨ys, rfl, _⟩ := exists_of_canonical_dict same.form
    exact .ok (Same.getD (find?_same same (.refl (.int index))))
  | _ =>
    -- Scalars have no items, and equal no other value.
    rw [← eq_of_canonical_scalar rfl same.form]
    exact .error _

/-- Equal values give equal values at every index where a missing one is absent. -/
theorem pick_same (index : Word64) : Same (a.pick index) (b.pick index) := by
  cases a with
  | list xs =>
    -- An index selects at the same place among elements with the same forms.
    obtain ⟨ys, rfl, forms⟩ := exists_of_canonical_list same.form
    exact Same.getD (elementAt?_same (wellFormed_list_iff.mp same.wellFormed) forms index.toInt)
  | tuple xs =>
    obtain ⟨ys, rfl, forms⟩ := exists_of_canonical_tuple same.form
    exact Same.getD (elementAt?_same (wellFormed_tuple_iff.mp same.wellFormed) forms index.toInt)
  | dict xs =>
    obtain ⟨ys, rfl, _⟩ := exists_of_canonical_dict same.form
    exact Same.getD (find?_same same (.refl (.int index)))
  | str text =>
    -- Texts have characters, which are texts themselves.
    rw [← eq_of_canonical_scalar rfl same.form]
    refine .refl ?_
    show (((charAt? text index.toInt).map ofChar).getD .null).WellFormed
    cases charAt? text index.toInt with
    | none => exact .null
    | some c => exact .str _
  | _ =>
    rw [← eq_of_canonical_scalar rfl same.form]
    exact .refl .null

section Keys

variable {subscript subscript' : Subscript} (keys : Same subscript.key subscript'.key)

include keys

omit same in
/-- Subscripts with equal keys are the same index. -/
theorem index?_same : subscript.index? = subscript'.index? := by
  unfold Subscript.index?
  generalize subscript.key = key at keys ⊢
  generalize subscript'.key = key' at keys ⊢
  -- Containers are no index, and scalars equal no other value.
  cases key with
  | list xs => obtain ⟨ys, rfl, _⟩ := exists_of_canonical_list keys.form; rfl
  | tuple xs => obtain ⟨ys, rfl, _⟩ := exists_of_canonical_tuple keys.form; rfl
  | dict xs => obtain ⟨ys, rfl, _⟩ := exists_of_canonical_dict keys.form; rfl
  | _ => rw [← eq_of_canonical_scalar rfl keys.form]

/-- Equal values have equal items under equal subscripts. -/
theorem itemBy_same : OutcomeRel Same (a.itemBy subscript) (b.itemBy subscript') := by
  -- Dicts take the key as it is, other values take it as an index.
  rcases same.dict_cases with ⟨xs, ys, rfl, rfl, _⟩ | ⟨first, second⟩
  · rw [itemBy_dict, itemBy_dict]
    exact .ok (Same.getD (find?_same same keys))
  · rw [itemBy_eq_item first, itemBy_eq_item second, index?_same keys, same.kind]
    cases subscript'.index? with
    | some index => exact item_same same index
    | none => exact .error _

/-- Equal values give equal values under equal subscripts where a missing one is absent. -/
theorem pickBy_same : Same (a.pickBy subscript) (b.pickBy subscript') := by
  -- Equal values are both dicts, which are searched, or neither is, and then the subscripts are equal indices.
  rcases same.dict_cases with ⟨xs, ys, rfl, rfl, _⟩ | ⟨first, second⟩
  · rw [pickBy_dict, pickBy_dict]
    exact Same.getD (find?_same same keys)
  · rw [pickBy_eq_pick first, pickBy_eq_pick second, index?_same keys]
    cases subscript'.index? with
    | some index => exact pick_same same index
    | none => exact .refl .null

/-- Equal values give equal values under equal subscripts, or fail and are recorded in the same way. -/
theorem select_same : Traced.Rel (OutcomeRel Same) (a.select subscript) (b.select subscript') := by
  -- The two readings succeed or fail together, and the record is made from the fault.
  unfold select
  have items := itemBy_same same keys
  generalize a.itemBy subscript = first at items ⊢
  generalize b.itemBy subscript' = second at items ⊢
  cases items with
  | ok related => exact ⟨.ok related, rfl⟩
  | error fault => exact ⟨.error fault, rfl⟩

end Keys

end Subscripts

/-- Other values than dicts have no entries, and are not changed where a dict would be. -/
theorem entryless {value : Value} (sequence : value.kind ≠ .dict) (key content : Value) :
    value.get? key = none ∧ value.insert key content = value ∧ value.erase key = value := by
  -- Every other constructor is left alone.
  cases value with
  | dict entries => contradiction
  | _ => exact ⟨rfl, rfl, rfl⟩

section Keys

variable {a b key key' content content' : Value} (same : Same a b) (keys : Same key key')

include same keys

/-- Equal keys of equal values hold equal values. -/
theorem get?_same : Option.Rel Same (a.get? key) (b.get? key') := by
  -- Both values are dicts, or neither has anything under a key.
  rcases same.dict_cases with ⟨xs, ys, rfl, rfl, _⟩ | ⟨first, second⟩
  · exact find?_same same keys
  · rw [(entryless first key .null).1, (entryless second key' .null).1]
    exact .none

/-- Equal keys are present in equal values together. -/
theorem containsKey_same : a.containsKey key = b.containsKey key' := by
  -- A key is present if something is found under it.
  unfold containsKey
  have found := get?_same same keys
  generalize a.get? key = first at found ⊢
  generalize b.get? key' = second at found ⊢
  cases found <;> rfl

/-- Putting equal values under equal keys of equal values gives equal values. -/
theorem insert_same (contents : Same content content') : Same (a.insert key content) (b.insert key' content') := by
  -- Both values are dicts with one map of canonical forms, or neither is changed.
  rcases same.dict_cases with ⟨xs, ys, rfl, rfl, moved⟩ | ⟨first, second⟩
  · refine .of_form (Entries.wellFormed_insert same.wellFormed keys.wellFormed contents.wellFormed) ?_
    exact (canonical_dict_eq_iff _ _).mpr
      (map_insert_congr same.wellFormed keys.wellFormed moved keys.form contents.form)
  · rw [(entryless first key content).2.1, (entryless second key' content').2.1]
    exact same

/-- Removing equal keys from equal values leaves equal values. -/
theorem erase_same : Same (a.erase key) (b.erase key') := by
  -- Both values are dicts with one map of canonical forms, or neither is changed.
  rcases same.dict_cases with ⟨xs, ys, rfl, rfl, moved⟩ | ⟨first, second⟩
  · refine .of_form (Entries.wellFormed_erase same.wellFormed key) ?_
    exact (canonical_dict_eq_iff _ _).mpr (map_erase_congr keys.wellFormed moved keys.form)
  · rw [(entryless first key .null).2.2, (entryless second key' .null).2.2]
    exact same

end Keys

/-- A sequence repeated has the forms of its elements repeated. -/
theorem map_repeated {α β : Type} (form : α → β) (items : List α) (times : Int) :
    (repeated items times).map form = repeated (items.map form) times := by
  -- The elements are taken from copies, and a change of them passes through both.
  rw [repeated_eq_take, repeated_eq_take, List.map_take, map_copies]

/-- A computation with the canonical form of its result. -/
def tracedForm (computation : Traced Value) : Traced Value :=
  ⟨computation.value.canonical, computation.records⟩

/-- A list made of canonical forms has the form of the list made of the elements. -/
theorem tracedForm_list {items forms : List Value} (same : items.map canonical = forms) :
    tracedForm (pure (.list forms)) = tracedForm (pure (.list items)) := by
  -- The canonical form of a canonical form is the same again.
  rw [← same, ← canonical_list]
  exact congrArg (Traced.mk · []) (canonical_canonical _)

/-- A tuple made of canonical forms has the form of the tuple made of the elements. -/
theorem tracedForm_tuple {items forms : List Value} (same : items.map canonical = forms) :
    tracedForm (pure (.tuple forms)) = tracedForm (pure (.tuple items)) := by
  -- The canonical form of a canonical form is the same again.
  rw [← same, ← canonical_tuple]
  exact congrArg (Traced.mk · []) (canonical_canonical _)

/-- The sum of canonical forms has the form of the sum. -/
theorem tracedForm_add (a b : Value) : tracedForm (add a.canonical b.canonical) = tracedForm (add a b) := by
  -- Only sequences have elements with canonical forms of their own.
  cases a <;> cases b
  case list.list xs ys =>
    rw [canonical_list, canonical_list]
    exact tracedForm_list List.map_append
  case tuple.tuple xs ys =>
    rw [canonical_tuple, canonical_tuple]
    exact tracedForm_tuple List.map_append
  all_goals rfl

/-- The product of canonical forms has the form of the product. -/
theorem tracedForm_mul (a b : Value) : tracedForm (mul a.canonical b.canonical) = tracedForm (mul a b) := by
  -- A sequence may stand on either side of the number of repetitions.
  cases a <;> cases b
  case list.int items times =>
    rw [canonical_list]
    exact tracedForm_list (map_repeated _ _ _)
  case int.list times items =>
    rw [canonical_list]
    exact tracedForm_list (map_repeated _ _ _)
  case tuple.int items times =>
    rw [canonical_tuple]
    exact tracedForm_tuple (map_repeated _ _ _)
  case int.tuple times items =>
    rw [canonical_tuple]
    exact tracedForm_tuple (map_repeated _ _ _)
  all_goals rfl

/-- An operator gives canonical forms a result with the form of the one it gives the operands. -/
theorem tracedForm_apply (operator : Operator) (a b : Value) :
    tracedForm (apply operator a.canonical b.canonical) = tracedForm (apply operator a b) := by
  cases operator with
  | add => exact tracedForm_add a b
  | mul => exact tracedForm_mul a b
  -- The others take numbers and truth values alone, which are their own canonical forms.
  | _ => cases a <;> cases b <;> rfl

/-- A result depends on equal operands only up to equality, and its records not at all. -/
theorem apply_same {a a' b b' : Value} (operator : Operator) (first : Same a a') (second : Same b b') :
    Traced.Rel Same (apply operator a b) (apply operator a' b') := by
  -- Both results have the form of the result on the canonical forms, which the operands share.
  have forms : tracedForm (apply operator a b) = tracedForm (apply operator a' b') := by
    rw [← tracedForm_apply, first.form, second.form, tracedForm_apply]
  constructor
  · have whole := wellFormed_apply first.wellFormed second.wellFormed operator
    have results := congrArg Traced.value forms
    exact .of_form whole results
  · have records := congrArg Traced.records forms
    exact records

/-- The negatives of equal values are equal. -/
theorem negate_same {a b : Value} (same : Same a b) : Traced.Rel Same a.negate b.negate := by
  -- Only scalars have a negative, and the kind is all that is recorded of others.
  have negated (value : Value) : value.canonical.negate = value.negate := by cases value <;> rfl
  rw [← negated a, same.form, negated b]
  exact ⟨.refl (wellFormed_negate b), rfl⟩

/-- The hashes of equal values are the same. -/
theorem digest_same {a b : Value} (same : Same a b) : a.digest = b.digest := by
  -- Dicts are hashed without their entries.
  unfold digest
  rw [← stream_hollow a, hollow_eq_of_beq same.equal, stream_hollow]

/--
No operation tells one pair of values from another.

The second value of each pair serves as an operand and as a key.
-/
structure Congruent (a b a' b' : Value) : Prop where
  /-- The order is the same. -/
  order : compare a b = compare a' b'
  /-- The hash is the same. -/
  digest : a.digest = a'.digest
  /-- The size is the same. -/
  size : a.size = a'.size
  /-- The truth is the same. -/
  truth : a.truth = a'.truth
  /-- The integer is the same. -/
  toInt : a.toInt = a'.toInt
  /-- The float is the same, and not only an equal number. -/
  toFloat : a.toFloat = a'.toFloat
  /-- Equal values are found, or none. -/
  found : Option.Rel Same (a.get? b) (a'.get? b')
  /-- The key is present in both or in neither. -/
  present : a.containsKey b = a'.containsKey b'
  /-- Items are equal at every index. -/
  item : ∀ index, OutcomeRel Same (a.item index) (a'.item index)
  /-- What is read by the key is equal. -/
  picked : Same (a.pickBy (.value b)) (a'.pickBy (.value b'))
  /-- What is read by any other subscript is equal. -/
  pickedBy : ∀ subscript, subscript.WellFormed → Same (a.pickBy subscript) (a'.pickBy subscript)
  /-- What is selected by the key is equal, and a fault and its record are the same. -/
  selected : Traced.Rel (OutcomeRel Same) (a.select (.value b)) (a'.select (.value b'))
  /-- What is selected by any other subscript is equal, and a fault and its record are the same. -/
  selectedBy : ∀ subscript, subscript.WellFormed →
    Traced.Rel (OutcomeRel Same) (a.select subscript) (a'.select subscript)
  /-- Putting equal values under the key gives equal values. -/
  inserted : ∀ content content', Same content content' → Same (a.insert b content) (a'.insert b' content')
  /-- Removing the key leaves equal values. -/
  erased : Same (a.erase b) (a'.erase b')
  /-- Operators give equal results and the same records. -/
  applied : ∀ operator, Traced.Rel Same (apply operator a b) (apply operator a' b')
  /-- The negatives are equal, with the same record if there is none. -/
  negated : Traced.Rel Same a.negate a'.negate
  /-- The trees differ in the order of their map entries alone. -/
  tree : a.toTree.Alike a'.toTree

/--
Equality is an equivalence, and no operation tells equal values apart.

Equal values may list the entries of their dicts in different orders, at every depth and inside of keys.
-/
theorem beq_congruence :
    Equivalence (fun a b : { value : Value // value.WellFormed } => (a.1 == b.1) = true) ∧
      ∀ a a' b b' : Value, a.WellFormed → b.WellFormed → (a == a') = true → (b == b') = true →
        Congruent a b a' b' := by
  constructor
  · -- Equality of well-formed values is sameness of canonical forms.
    constructor
    · intro a
      exact (Same.refl a.2).equal
    · intro a b equal
      exact (Same.symm ⟨a.2, equal⟩).equal
    · intro a b c first second
      exact (Same.trans ⟨a.2, first⟩ ⟨b.2, second⟩).equal
  · -- Each reading and each operation is a congruence by a lemma of its own.
    intro a a' b b' wholeA wholeB equalA equalB
    have first : Same a a' := ⟨wholeA, equalA⟩
    have second : Same b b' := ⟨wholeB, equalB⟩
    have byKey : Same (Subscript.value b).key (Subscript.value b').key := second
    exact {
      order := by rw [compare, first.form, second.form, compare]
      digest := digest_same first
      size := by rw [← size_canonical a, first.form, size_canonical]
      truth := by rw [← truth_canonical a, first.form, truth_canonical]
      toInt := by rw [← toInt_canonical a, first.form, toInt_canonical]
      toFloat := by rw [← toFloat_canonical a, first.form, toFloat_canonical]
      found := get?_same first second
      present := containsKey_same first second
      item := item_same first
      picked := pickBy_same first byKey
      pickedBy := fun subscript keyed => pickBy_same first (.refl keyed)
      selected := select_same first byKey
      selectedBy := fun subscript keyed => select_same first (.refl keyed)
      inserted := fun content content' contents => insert_same first second contents
      erased := erase_same first second
      applied := fun operator => apply_same operator first second
      negated := negate_same first
      tree := alike_of_canonical first.form }

/-- Two dicts with a dict among their keys, all of them listed in two orders, are not told apart by that key. -/
theorem beq_congruence_reordered :
    Congruent
      (.dict [(.dict [(.int 1, .null), (.bool true, .null)], .str "a"), (.float Binary.nan, .list [])])
      (.dict [(.bool true, .null), (.int 1, .null)])
      (.dict [(.float Binary.nan, .list []), (.dict [(.bool true, .null), (.int 1, .null)], .str "a")])
      (.dict [(.int 1, .null), (.bool true, .null)]) :=
  beq_congruence.2 _ _ _ _ (by decide) (by decide) (by decide) (by decide)

end Value

end DynValue
