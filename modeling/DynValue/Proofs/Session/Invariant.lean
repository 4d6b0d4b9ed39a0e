import DynValue.Proofs.Value.Parts
import DynValue.Proofs.Value.Preservation
import DynValue.Session

/-!
No run of steps gives a dict two equal keys.

Every step keeps the state well formed, whether it succeeds or fails, if the values it brings in are. So every dict inside
of the state has as many entries as it has different keys, after any number of steps.
-/

namespace DynValue

namespace Value

/-- Elements that differ from those seen and from each other are all taken up. -/
theorem foldl_distinct {items seen : List Value}
    (apart : ∀ item ∈ items, ∀ other ∈ seen, (item == other) = false)
    (different : items.Pairwise fun a b => (b == a) = false) :
    items.foldl (fun seen item => if seen.contains item then seen else seen ++ [item]) seen = seen ++ items := by
  induction items generalizing seen with
  | nil => simp
  | cons item rest ih =>
    obtain ⟨head, tail⟩ := List.forall_mem_cons.mp apart
    obtain ⟨later, different⟩ := List.pairwise_cons.mp different
    -- The element equals none of those seen, so that it is added.
    have unseen : seen.contains item = false := by
      rw [List.contains_eq_any_beq, List.any_eq_false]
      intro other member
      simp [head other member]
    rw [List.foldl_cons, unseen]
    -- The element joins those seen, from which the later ones differ as well.
    have grown : ∀ next ∈ rest, ∀ other ∈ seen ++ [item], (next == other) = false := by
      intro next member other among
      rcases List.mem_append.mp among with old | new
      · exact tail next member other old
      · rw [List.mem_singleton.mp new]
        exact later next member
    simp [ih grown different]

/-- A well-formed dict has as many entries as different keys. -/
theorem size_eq_length_distinct {entries : Entries} (dict : (Value.dict entries).WellFormed) :
    (Value.dict entries).size = (distinct (Value.dict entries).keys).length := by
  obtain ⟨unique, members⟩ := wellFormed_dict_iff.mp dict
  -- The later of two keys differs from the earlier one as well.
  have different : (entries.map Prod.fst).Pairwise fun a b => (b == a) = false := by
    rw [List.pairwise_map]
    apply List.Pairwise.imp_of_mem _ unique
    intro a b memberA memberB apart
    rwa [beq_comm_of_wellFormed (members b memberB).1 (members a memberA).1]
  show entries.length = (distinct (entries.map Prod.fst)).length
  rw [distinct, foldl_distinct (by simp) different, sort, List.length_mergeSort, List.nil_append, List.length_map]

/-- Elements that are left by dropping repeats after another element were there before. -/
theorem mem_of_mem_dropRepeatsAfter {last item : Value} {items : List Value}
    (member : item ∈ dropRepeats.dropRepeatsAfter last items) : item ∈ items := by
  -- The element to compare with changes on the way.
  induction items generalizing last with
  | nil => exact member
  | cons next rest ih =>
    rw [dropRepeats.dropRepeatsAfter] at member
    split at member
    · exact List.mem_cons_of_mem _ (ih member)
    · rcases List.mem_cons.mp member with rfl | later
      · exact List.mem_cons_self
      · exact List.mem_cons_of_mem _ (ih later)

/-- Elements that are left by dropping repeats were there before. -/
theorem mem_of_mem_dropRepeats {items : List Value} {item : Value} (member : item ∈ dropRepeats items) :
    item ∈ items := by
  -- The first element stays, and the others were there after it.
  cases items with
  | nil => exact member
  | cons first rest =>
    rcases List.mem_cons.mp member with rfl | later
    · exact List.mem_cons_self
    · exact List.mem_cons_of_mem _ (mem_of_mem_dropRepeatsAfter later)

end Value

/-- A change of a list as a whole brings in no new elements. -/
theorem ListEdit.mem_of_mem_apply {edit : ListEdit} {items : List Value} {item : Value}
    (member : item ∈ edit.apply items) : item ∈ items := by
  -- A list is moved, shortened or emptied.
  cases edit with
  | sort => exact List.mem_mergeSort.mp member
  | reverse => exact List.mem_reverse.mp member
  | dropRepeats => exact Value.mem_of_mem_dropRepeats member
  | clear => cases member
  | dropLast => exact List.dropLast_subset items member

/-- The values that a change of a dict brings in. -/
def DictEdit.arguments : DictEdit → List Value
  | .clear => []
  | .insertIfMissing key value => [key, value]

/-- A change of a dict as a whole keeps it well formed. -/
theorem DictEdit.wellFormed_apply {edit : DictEdit} {entries : Entries}
    (dict : (Value.dict entries).WellFormed) (arguments : ∀ argument ∈ edit.arguments, argument.WellFormed) :
    (Value.dict (edit.apply entries)).WellFormed := by
  -- A dict is emptied or gets one entry under a new key.
  cases edit with
  | clear => exact .dict .nil (by simp [apply]) (by simp [apply])
  | insertIfMissing key value =>
    exact Entries.wellFormed_insertIfMissing dict (arguments key (by simp [DictEdit.arguments]))
      (arguments value (by simp [DictEdit.arguments]))

namespace Step

/-- The values that a step brings in, the keys on its path included. -/
def arguments : Step → List Value
  | .set value => [value]
  | .push item => [item]
  | .insert key value => [key, value]
  | .remove key => [key]
  | .assignItem _ value => [value]
  | .assignPath path value => value :: path.map Subscript.key
  | .operatePath path _ operand => operand :: path.map Subscript.key
  | .selectPath path => path.map Subscript.key
  | .editList _ => []
  | .editDict edit => edit.arguments
  | .assignItems values => values
  | .operateItems _ operand => [operand]
  | .operate _ operand => [operand]
  | .negate => []
  | .collect => []
  | .within path step => path.map Subscript.key ++ step.arguments

/-- The keys on a path are well formed when all arguments of a step along it are. -/
theorem keyed_of_arguments {path : List Subscript}
    (arguments : ∀ argument ∈ path.map Subscript.key, argument.WellFormed) : Value.Keyed path :=
  fun _ member => arguments _ (List.mem_map_of_mem member)

/-- A step with well-formed arguments keeps the state well formed, whether it succeeds or fails. -/
theorem wellFormed_run {state : Value} {step : Step} (whole : state.WellFormed)
    (arguments : ∀ argument ∈ step.arguments, argument.WellFormed) : (step.run state).value.1.WellFormed := by
  -- The induction is on how deep a step goes, for every state that it may find there.
  induction step generalizing state with
  | set value => exact arguments value (by simp [Step.arguments])
  | push item =>
    have added := arguments item (by simp [Step.arguments])
    cases state with
    | list items =>
      exact .list (List.forall_mem_append.mpr
        ⟨Value.wellFormed_list_iff.mp whole, List.forall_mem_singleton.mpr added⟩)
    | _ => exact whole
  | insert key value =>
    obtain ⟨keyed, rest⟩ := List.forall_mem_cons.mp arguments
    cases state with
    | dict entries => exact Entries.wellFormed_insert whole keyed (List.forall_mem_singleton.mp rest)
    | _ => exact whole
  | remove key =>
    cases state with
    | dict entries => exact Entries.wellFormed_erase whole key
    | _ => exact whole
  | assignItem index value =>
    have assigned := arguments value (by simp [Step.arguments])
    -- An index is a subscript like any other, and integers are well-formed keys.
    have keyed : (Subscript.int64 index).WellFormed := .int index
    rw [run, Value.slot_eq_slotBy]
    cases found : state.slotBy (.int64 index) with
    | error fault => exact whole
    | ok slot => exact (Value.sound_of_slotBy whole keyed found).put value assigned
  | assignPath path value =>
    obtain ⟨assigned, keys⟩ := List.forall_mem_cons.mp arguments
    exact Value.wellFormed_assignPath whole (keyed_of_arguments keys) assigned
  | operatePath path operator operand =>
    obtain ⟨combined, keys⟩ := List.forall_mem_cons.mp arguments
    exact Value.wellFormed_operatePath whole (keyed_of_arguments keys) combined operator
  | selectPath path => exact whole
  | editList edit =>
    cases state with
    | list items =>
      exact .list fun item member =>
        Value.wellFormed_list_iff.mp whole item (ListEdit.mem_of_mem_apply member)
    | _ => exact whole
  | editDict edit =>
    cases state with
    | dict entries => exact DictEdit.wellFormed_apply whole arguments
    | _ => exact whole
  | assignItems values =>
    cases state with
    | list items =>
      -- Every element is one of the values or one that stays.
      refine .list (List.forall_mem_append.mpr ⟨?_, ?_⟩)
      · exact fun item member => arguments item (List.mem_of_mem_take member)
      · exact fun item member => Value.wellFormed_list_iff.mp whole item (List.mem_of_mem_drop member)
    | _ => exact whole
  | operateItems operator operand =>
    have combined := arguments operand (by simp [Step.arguments])
    cases state with
    | list items =>
      show (Value.list (items.mapM fun item => Value.apply operator item operand).value).WellFormed
      rw [Traced.value_mapM]
      refine .list (List.forall_mem_map.mpr fun item member => ?_)
      exact Value.wellFormed_apply (Value.wellFormed_list_iff.mp whole item member) combined operator
    | _ => exact whole
  | operate operator operand =>
    exact Value.wellFormed_apply whole (arguments operand (by simp [Step.arguments])) operator
  | negate => exact Value.wellFormed_negate state
  | collect =>
    show (Value.list (Cursor.start state).toList).WellFormed
    rw [Value.toList_start]
    exact .list fun item member => Value.wellFormed_of_mem_items whole member
  | within path step ih =>
    obtain ⟨keys, inner⟩ := List.forall_mem_append.mp arguments
    exact Value.wellFormed_changePath whole (keyed_of_arguments keys) fun old wellFormed => ih wellFormed inner

end Step

/-- A run of steps with well-formed arguments keeps the state well formed. -/
theorem wellFormed_finalState {state : Value} {steps : List Step} (start : state.WellFormed)
    (arguments : ∀ step ∈ steps, ∀ argument ∈ step.arguments, argument.WellFormed) :
    (finalState state steps).WellFormed := by
  -- Each step hands a well-formed state to the next.
  induction steps generalizing state with
  | nil => exact start
  | cons step rest ih =>
    obtain ⟨head, tail⟩ := List.forall_mem_cons.mp arguments
    exact ih (Step.wellFormed_run start head) tail

/--
No run of steps gives a dict two equal keys, at any depth.

The state stays well formed through every run whose steps bring in well-formed values, whether the steps succeed or fail,
and every dict inside of it has pairwise different keys and as many entries as it has different keys.
-/
theorem finalState_uniqueKeys (state : Value) (steps : List Step) (start : state.WellFormed)
    (arguments : ∀ step ∈ steps, ∀ argument ∈ step.arguments, argument.WellFormed) :
    (finalState state steps).WellFormed ∧
      ∀ part ∈ (finalState state steps).parts, part.kind = .dict →
        Entries.Unique part.entries ∧ part.size = (Value.distinct part.keys).length := by
  -- The final state is well formed, so that every dict inside of it is.
  have final := wellFormed_finalState start arguments
  refine ⟨final, ?_⟩
  intro part member isDict
  have whole := Value.wellFormed_of_mem_parts final part member
  refine ⟨(Value.wellFormed_iff_parts _).mp final part member, ?_⟩
  -- Different keys are distinct elements of the list of keys.
  cases part with
  | dict entries => exact Value.size_eq_length_distinct whole
  | _ => cases isDict

/-- A NaN that is inserted again and written to, a path that fails after adding a key, and keys that only look alike. -/
def lookalikeSteps : List Step :=
  [.insert (.float Binary.nan) (.dict [(.int 1, .null), (.bool true, .null)]),
    .within [.value (.float Binary.nan)] (.insert (.bool true) (.list [])),
    .within [.value (.float Binary.nan), .value (.bool true)] (.push (.dict [])),
    .assignPath [.text "a", .text "b"] .null, .insert (.bool true) .null, .insert (.int 1) .null,
    .editDict (.insertIfMissing (.int 1) (.int 3))]

/-- Keys that look alike are counted apart, and a key that is written again is counted once. -/
theorem finalState_uniqueKeys_lookalikes :
    Entries.Unique (finalState (.dict [(.float Binary.nan, .list [.dict []])]) lookalikeSteps).entries ∧
      (finalState (.dict [(.float Binary.nan, .list [.dict []])]) lookalikeSteps).size =
        (Value.distinct (finalState (.dict [(.float Binary.nan, .list [.dict []])]) lookalikeSteps).keys).length := by
  -- The state is a part of itself, and it is a dict.
  have dicts := (finalState_uniqueKeys (.dict [(.float Binary.nan, .list [.dict []])]) lookalikeSteps
    (by decide) (by decide)).2
  exact dicts _ (.head _) rfl

end DynValue
