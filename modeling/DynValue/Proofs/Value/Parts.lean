import DynValue.Proofs.Value.WellFormed

/-!
The values inside of a value, at any depth, with or without those inside of keys.

A value is well formed exactly when no dict among its parts has two equal keys.
-/

namespace DynValue.Value

/-- What holds of a container as soon as it holds of everything in it holds of every value. -/
@[elab_as_elim]
theorem nestedInduction {motive : Value → Prop} (null : motive .null)
    (bool : ∀ truth, motive (.bool truth)) (int : ∀ number, motive (.int number))
    (float : ∀ number, motive (.float number)) (str : ∀ text, motive (.str text))
    (list : ∀ items, (∀ item ∈ items, motive item) → motive (.list items))
    (tuple : ∀ items, (∀ item ∈ items, motive item) → motive (.tuple items))
    (dict : ∀ entries, (∀ entry ∈ entries, motive entry.1 ∧ motive entry.2) → motive (.dict entries))
    (value : Value) : motive value := by
  -- A sequence stands for the claim about all its elements, an entry for the claim about its key and value.
  apply @Value.rec motive (fun items => ∀ item ∈ items, motive item)
    (fun entries => ∀ entry ∈ entries, motive entry.1 ∧ motive entry.2)
    (fun entry => motive entry.1 ∧ motive entry.2) null bool int float str list tuple dict
  · simp
  · intro item rest head tail
    exact List.forall_mem_cons.mpr ⟨head, tail⟩
  · simp
  · intro entry rest head tail
    exact List.forall_mem_cons.mpr ⟨head, tail⟩
  · intro key value keyHolds valueHolds
    exact ⟨keyHolds, valueHolds⟩

mutual

/-- The value itself and all values inside of it, those inside of keys only if keys are asked for. -/
def inside (keys : Bool) : Value → List Value
  | .list items => .list items :: insideItems keys items
  | .tuple items => .tuple items :: insideItems keys items
  | .dict entries => .dict entries :: insideEntries keys entries
  | other => [other]

/-- All elements and the values inside of them. -/
def insideItems (keys : Bool) : List Value → List Value
  | [] => []
  | item :: rest => inside keys item ++ insideItems keys rest

/-- The values of all entries, their keys if these are asked for, and the values inside of them. -/
def insideEntries (keys : Bool) : List (Value × Value) → List Value
  | [] => []
  | (key, value) :: rest => (if keys then inside keys key else []) ++ (inside keys value ++ insideEntries keys rest)

end

/-- The value itself and all values inside of it. -/
def parts (value : Value) : List Value := value.inside true

/-- The value itself and all values inside of it, those inside of keys left aside. -/
def contents (value : Value) : List Value := value.inside false

/-- The value of an entry, behind its key if keys are asked for. -/
def entryChildren (keys : Bool) (entry : Value × Value) : List Value :=
  if keys then [entry.1, entry.2] else [entry.2]

/-- The values directly inside of a value: the elements of a sequence, and what is in the entries of a dict. -/
def children (keys : Bool) : Value → List Value
  | .list items => items
  | .tuple items => items
  | .dict entries => entries.flatMap (entryChildren keys)
  | _ => []

/-- Going through elements is going through each of them. -/
theorem insideItems_eq_flatMap (keys : Bool) (items : List Value) :
    insideItems keys items = items.flatMap (inside keys) := by
  -- The recursion on the list of elements joins what each of them gives.
  induction items with
  | nil => rfl
  | cons item rest ih => rw [insideItems, ih, List.flatMap_cons]

/-- Going through entries is going through what is in each of them. -/
theorem insideEntries_eq_flatMap (keys : Bool) (entries : List (Value × Value)) :
    insideEntries keys entries = (entries.flatMap (entryChildren keys)).flatMap (inside keys) := by
  induction entries with
  | nil => rfl
  | cons entry rest ih =>
    rw [insideEntries, ih, List.flatMap_cons, List.flatMap_append]
    -- The key comes first, or is left out on both sides.
    cases keys <;> simp [entryChildren]

/-- The parts of a value are the value and the parts of what is directly inside of it. -/
theorem inside_eq (keys : Bool) (value : Value) :
    value.inside keys = value :: (value.children keys).flatMap (inside keys) := by
  -- Lists and tuples go through their elements, dicts through their entries, and the other values have nothing
  -- inside.
  cases value with
  | list items | tuple items => rw [inside, children, insideItems_eq_flatMap]
  | dict entries => rw [inside, children, insideEntries_eq_flatMap]
  | null | bool | int | float | str => rfl

/-- What holds of all parts holds of the value and of all parts of what is directly inside of it. -/
theorem forall_inside {keys : Bool} {claim : Value → Prop} {value : Value} :
    (∀ part ∈ value.inside keys, claim part) ↔
      claim value ∧ ∀ child ∈ value.children keys, ∀ part ∈ child.inside keys, claim part := by
  -- The list of parts starts with the value and goes on with the parts of its children.
  rw [inside_eq, List.forall_mem_cons, List.forall_mem_flatMap]

/-- What holds of everything in a dict holds of the values of its entries, and of their keys if these are asked for. -/
theorem forall_children_dict {keys : Bool} {claim : Value → Prop} {entries : List (Value × Value)} :
    (∀ child ∈ (Value.dict entries).children keys, claim child) ↔
      ∀ entry ∈ entries, (keys = true → claim entry.1) ∧ claim entry.2 := by
  -- An entry gives its value, and its key before that if keys are asked for.
  rw [children, List.forall_mem_flatMap]
  cases keys <;> simp [entryChildren]

/-- What holds of a value as soon as it holds of everything directly inside of it holds of every value. -/
theorem childInduction {motive : Value → Prop}
    (step : ∀ value, (∀ child ∈ value.children true, motive child) → motive value) (value : Value) : motive value := by
  -- Only containers have anything inside of them.
  induction value using nestedInduction with
  | list items ih | tuple items ih => exact step _ ih
  | dict entries ih =>
    exact step _ (forall_children_dict.mpr fun entry member => ⟨fun _ => (ih entry member).1, (ih entry member).2⟩)
  | null | bool | int | float | str => exact step _ (List.forall_mem_nil _)

/-- Leaving keys aside leaves nothing else aside. -/
theorem children_subset {value : Value} : ∀ child ∈ value.children false, child ∈ value.children true := by
  -- Only in a dict there are keys to be left aside.
  cases value with
  | dict entries =>
    have all := forall_children_dict.mp fun child (member : child ∈ (Value.dict entries).children true) => member
    exact forall_children_dict.mpr fun entry member => ⟨nofun, (all entry member).2⟩
  | null | bool | int | float | str | list | tuple => exact fun _ member => member

/-- The contents of a value are among its parts. -/
theorem mem_parts_of_mem_contents {value : Value} : ∀ part ∈ value.contents, part ∈ value.parts := by
  -- The value is a part of itself, and its contents further down are parts of a child that is there both times.
  induction value using childInduction with
  | step value ih =>
    obtain ⟨self, deeper⟩ := forall_inside.mp fun part (member : part ∈ value.parts) => member
    refine forall_inside.mpr ⟨self, fun child member part inner => ?_⟩
    have direct := children_subset child member
    exact deeper child direct part (ih child direct part inner)

/-- A value is well formed when its keys are pairwise different and all that is directly inside of it is well formed. -/
theorem wellFormed_iff_children {value : Value} :
    value.WellFormed ↔ Entries.Unique value.entries ∧ ∀ child ∈ value.children true, child.WellFormed := by
  -- Only dicts have entries, so that nothing is asked of the keys of other values.
  have nothing : Entries.Unique [] := List.Pairwise.nil
  cases value with
  | list items => exact wellFormed_list_iff.trans ⟨fun members => ⟨nothing, members⟩, And.right⟩
  | tuple items => exact wellFormed_tuple_iff.trans ⟨fun members => ⟨nothing, members⟩, And.right⟩
  | dict entries =>
    rw [wellFormed_dict_iff, forall_children_dict]
    simp [Value.entries, asDict?]
  | null | bool | int | float | str => exact ⟨fun _ => ⟨nothing, List.forall_mem_nil _⟩, fun _ => by constructor⟩

/-- A value is well formed exactly when no dict among its parts has two equal keys. -/
theorem wellFormed_iff_parts (value : Value) :
    value.WellFormed ↔ ∀ part ∈ value.parts, Entries.Unique part.entries := by
  induction value using childInduction with
  | step value ih =>
    -- Both sides ask the same of the value itself, and of what is inside of it by induction.
    rw [wellFormed_iff_children, forall₂_congr ih, parts, forall_inside]
    rfl

/-- The parts of a well-formed value are well formed. -/
theorem wellFormed_of_mem_parts {value : Value} (whole : value.WellFormed) :
    ∀ part ∈ value.parts, part.WellFormed := by
  -- A well-formed value has well-formed children, whose parts are well formed in turn.
  induction value using childInduction with
  | step value ih =>
    obtain ⟨_, inner⟩ := wellFormed_iff_children.mp whole
    exact forall_inside.mpr ⟨whole, fun child member => ih child member (inner child member)⟩

end DynValue.Value
