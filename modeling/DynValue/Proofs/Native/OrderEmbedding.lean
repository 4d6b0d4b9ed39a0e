import DynValue.Native.Convert
import DynValue.Proofs.Value.Forms
import DynValue.Proofs.Value.Sorting
import DynValue.Proofs.Word.Range

/-!
The values of native data are ordered as the data are, however deeply their types are nested.

Sequences and tuples are compared by their first difference on both sides, and a missing datum becomes the value that comes
before all others. Sorting, ascending sets and equality carry over with the order.
-/

namespace DynValue

/-- The types of the components of a tuple. -/
def Row.types : Row → List Ty
  | .nil => []
  | .cons head tail => head :: tail.types

namespace Ty

/-- The types built from integers, truth values and texts by sequences, tuples and data that may be missing. -/
inductive Ordered : Ty → Prop where
  /-- Words of 64 bits. -/
  | int64 : Ordered (.int .int64)
  /-- Truth values. -/
  | bool : Ordered .bool
  /-- Texts. -/
  | text : Ordered .text
  /-- Sequences of data of one such type. -/
  | list {t : Ty} (element : Ordered t) : Ordered (.list t)
  /-- A datum that may be missing is not one that may be missing again. -/
  | option {t : Ty} (inner : Ordered t) (certain : ∀ u, t ≠ .option u) : Ordered (.option t)
  /-- Tuples have any number of components, each of a type of its own. -/
  | tuple {row : Row} (components : ∀ t ∈ row.types, Ordered t) : Ordered (.tuple row)

/-- Data in ascending order, equal ones keeping their places. -/
def sort (t : Ty) (items : List t.Carrier) : List t.Carrier :=
  items.mergeSort fun x y => (t.compare? x y).any Ordering.isLE

end Ty

/-! ## Sequences of values -/

namespace Value

/-- Sequences of values are compared by their first difference. -/
theorem compareItems_canonical (a b : List Value) :
    compareItems (a.map canonical) (b.map canonical) = List.compareLex compare a b := by
  -- Comparing the canonical forms of two elements is what comparing the elements means.
  induction a generalizing b with
  | nil => cases b <;> rfl
  | cons x xs ih =>
    cases b with
    | nil => rfl
    | cons y ys =>
      rw [List.compareLex_cons_cons, ← ih ys]
      rfl

/-- Lists are compared by their first difference. -/
theorem compare_list (a b : List Value) : compare (.list a) (.list b) = List.compareLex compare a b := by
  -- The canonical forms of the elements stand at the places of the elements.
  rw [compare, canonical_list, canonical_list, compareTree, compareItems_canonical]

/-- Tuples are compared by their first difference. -/
theorem compare_tuple (a b : List Value) : compare (.tuple a) (.tuple b) = List.compareLex compare a b := by
  -- The canonical forms of the elements stand at the places of the elements.
  rw [compare, canonical_tuple, canonical_tuple, compareTree, compareItems_canonical]

/-- The absent value comes before every other one. -/
theorem compare_null_of_present {value : Value} (present : value.kind ≠ .null) : compare .null value = .lt := by
  -- Every other kind has a place above that of the absent value.
  cases value with
  | null => exact absurd rfl present
  | _ => rfl

/-- Every other value comes after the absent one. -/
theorem compare_of_present_null {value : Value} (present : value.kind ≠ .null) : compare value .null = .gt := by
  -- Read from the other side, the absent value comes first.
  rw [Std.OrientedCmp.gt_iff_lt]
  exact compare_null_of_present present

end Value

/-! ## The order of data and the order of their values -/

/-- Sequences compare as the sequences of values do, when their elements compare as their values do. -/
theorem compareLists?_eq {α : Type} {compareData? : α → α → Option Ordering} {value : α → Value}
    (elements : ∀ x y, compareData? x y = some ((value x).compare (value y))) (xs ys : List α) :
    compareLists? compareData? xs ys = some (List.compareLex Value.compare (xs.map value) (ys.map value)) := by
  -- Both orders go on behind equal elements and stop at the first others.
  induction xs generalizing ys with
  | nil => cases ys <;> rfl
  | cons x xs ih =>
    cases ys with
    | nil => rfl
    | cons y ys =>
      rw [compareLists?, elements x y, List.map_cons, List.map_cons, List.compareLex_cons_cons, ih ys]
      cases (value x).compare (value y) <;> rfl

/-- Tuples compare as their values do, when each component does. -/
theorem Row.compare?_eq {row : Row}
    (components : ∀ t ∈ row.types, ∀ x y : t.Carrier, t.compare? x y = some ((t.toValue x).compare (t.toValue y)))
    (a b : row.Carrier) :
    row.compare? a b = some (List.compareLex Value.compare (row.toValues a) (row.toValues b)) := by
  -- Two tuples of one shape have equally many components, so that neither ends before the other.
  induction row using Row.types.induct with
  | case1 => rfl
  | case2 head tail ih =>
    obtain ⟨x, xs⟩ := a
    obtain ⟨y, ys⟩ := b
    obtain ⟨first, others⟩ := List.forall_mem_cons.mp components
    rw [Row.compare?, first x y, Row.toValues, Row.toValues, List.compareLex_cons_cons, ih others xs ys]
    cases (head.toValue x).compare (head.toValue y) <;> rfl

namespace Ty

variable {t : Ty}

/-- Only a missing datum has the absent value. -/
theorem present_of_certain (ordered : t.Ordered) (certain : ∀ u, t ≠ .option u) (x : t.Carrier) :
    (t.toValue x).kind ≠ .null := by
  cases ordered with
  | option inner _ => exact absurd rfl (certain _)
  -- Each of the other types has values of a kind of its own.
  | _ => simp [toValue, Value.kind]

/-- Data that may be missing compare as their values do, if those that are there do. -/
theorem compare?_option (inner : ∀ x y : t.Carrier, t.compare? x y = some ((t.toValue x).compare (t.toValue y)))
    (present : ∀ x : t.Carrier, (t.toValue x).kind ≠ .null) (a b : Option t.Carrier) :
    compare? (.option t) a b = some ((toValue (.option t) a).compare (toValue (.option t) b)) := by
  -- A missing datum stands below all others, as the absent value does.
  cases a with
  | none =>
    cases b with
    | none => rfl
    | some y => exact congrArg some (Value.compare_null_of_present (present y)).symm
  | some x =>
    cases b with
    | none => exact congrArg some (Value.compare_of_present_null (present x)).symm
    | some y => exact inner x y

/-- Data are ordered as their values are, by induction on the way their type is built. -/
theorem compare?_eq (ordered : t.Ordered) (x y : t.Carrier) :
    t.compare? x y = some ((t.toValue x).compare (t.toValue y)) := by
  induction ordered with
  | int64 =>
    -- The integers of values have the width of the data, so that none is cut off.
    rw [toValue, toValue, Word.clamp_toInt, Word.clamp_toInt]
    rfl
  | bool => rfl
  | text => rfl
  | list element ih =>
    rw [compare?, toValue, toValue, Value.compare_list]
    exact compareLists?_eq ih x y
  | option inner certain ih => exact compare?_option ih (present_of_certain inner certain) x y
  | tuple components ih =>
    rw [compare?, toValue, toValue, Value.compare_tuple]
    exact Row.compare?_eq ih x y

end Ty

/-! ## Equality, sorting and sets -/

/-- Sequences that compare as equal are the same, when elements that do are. -/
theorem eq_of_compareLists? {α : Type} {compareData? : α → α → Option Ordering}
    (elements : ∀ x y, compareData? x y = some .eq → x = y) {xs ys : List α}
    (equal : compareLists? compareData? xs ys = some .eq) : xs = ys := by
  induction xs generalizing ys with
  | nil =>
    cases ys with
    | nil => rfl
    | cons y ys => simp [compareLists?] at equal
  | cons x xs ih =>
    cases ys with
    | nil => simp [compareLists?] at equal
    | cons y ys =>
      rw [compareLists?] at equal
      -- The comparison goes on only behind elements that compare as equal.
      split at equal
      · rename_i first
        rw [elements x y first, ih equal]
      · contradiction

/-- Tuples that compare as equal are the same, when components that do are. -/
theorem Row.eq_of_compare? {row : Row}
    (components : ∀ t ∈ row.types, ∀ x y : t.Carrier, t.compare? x y = some .eq → x = y) {a b : row.Carrier}
    (equal : row.compare? a b = some .eq) : a = b := by
  induction row using Row.types.induct with
  | case1 => rfl
  | case2 head tail ih =>
    obtain ⟨x, xs⟩ := a
    obtain ⟨y, ys⟩ := b
    obtain ⟨first, others⟩ := List.forall_mem_cons.mp components
    rw [Row.compare?] at equal
    -- The other components are compared only behind first ones that compare as equal.
    split at equal
    · rename_i same
      rw [first x y same, ih others equal]
    · contradiction

/-- The values of the components of a tuple are well formed if those of each type are. -/
theorem Row.wellFormed_toValues {row : Row}
    (components : ∀ t ∈ row.types, ∀ x : t.Carrier, (t.toValue x).WellFormed) (a : row.Carrier) :
    ∀ value ∈ row.toValues a, value.WellFormed := by
  -- The row of types and the row of data are taken apart together.
  induction row using Row.types.induct with
  | case1 => simp [Row.toValues]
  | case2 head tail ih =>
    obtain ⟨x, xs⟩ := a
    obtain ⟨first, others⟩ := List.forall_mem_cons.mp components
    rw [Row.toValues, List.forall_mem_cons]
    exact ⟨first x, ih others xs⟩

/-- The type of data of which a key is one. -/
def KeyTy.type : KeyTy → Ty
  | .int t => .int t
  | .bool => .bool
  | .text => .text

namespace Ty

variable {t : Ty}

/-- Data that compare as equal are the same. -/
theorem eq_of_compare? (ordered : t.Ordered) {x y : t.Carrier} (equal : t.compare? x y = some .eq) : x = y := by
  induction ordered with
  | int64 => exact Std.LawfulEqOrd.eq_of_compare (Option.some.inj equal)
  | bool => exact Std.LawfulEqOrd.eq_of_compare (Option.some.inj equal)
  | text => exact Std.LawfulEqOrd.eq_of_compare (Option.some.inj equal)
  | list element ih => exact eq_of_compareLists? (fun _ _ same => ih same) equal
  | option inner certain ih =>
    -- A missing datum compares as equal only to a missing one.
    cases x with
    | none =>
      cases y with
      | none => rfl
      | some y => simp [compare?] at equal
    | some x =>
      cases y with
      | none => simp [compare?] at equal
      | some y => exact congrArg some (ih equal)
  | tuple components ih => exact Row.eq_of_compare? (fun t member _ _ same => ih t member same) equal

/-- The values of data hold no dict, and so nothing that could be out of form. -/
theorem wellFormed_of_ordered (ordered : t.Ordered) (x : t.Carrier) : (t.toValue x).WellFormed := by
  -- The types are gone through as they are built, and no map is among them.
  induction ordered with
  | int64 => exact .int _
  | bool => exact .bool _
  | text => exact .str _
  | list element ih =>
    rw [toValue, Value.wellFormed_list_iff, List.forall_mem_map]
    exact fun item _ => ih item
  | option inner certain ih =>
    cases x with
    | none => exact .null
    | some datum => exact ih datum
  | tuple components ih =>
    rw [toValue, Value.wellFormed_tuple_iff]
    exact Row.wellFormed_toValues ih x

/-- Data that ascend have values that ascend. -/
theorem increasing_of_ascending (ordered : t.Ordered) {items : List t.Carrier}
    (ascending : items.Pairwise fun a b => t.compare? a b = some .lt) : Value.Increasing (items.map t.toValue) := by
  -- The order of the data is the order of their values.
  rw [Value.Increasing, List.pairwise_map]
  refine ascending.imp ?_
  intro a b below
  rw [compare?_eq ordered] at below
  exact Option.some.inj below

/-- How data of a type and their values agree on the order. -/
structure OrderEmbeds (t : Ty) : Prop where
  /-- Data compare as their values do, and no two of them are left open. -/
  order : ∀ x y : t.Carrier, t.compare? x y = some ((t.toValue x).compare (t.toValue y))
  /-- Sorting data and taking their values can be done in either order. -/
  sorting : ∀ items : List t.Carrier, (t.sort items).map t.toValue = Value.sort (items.map t.toValue)
  /-- A set becomes the list of the values of its elements in the order of the set, and they ascend strictly. -/
  sets : ∀ set : t.SetOf, t.setValue set = .list ((t.elements set).map t.toValue) ∧
    Value.Increasing ((t.elements set).map t.toValue)
  /-- Data with equal values are the same. -/
  injective : ∀ x y : t.Carrier, (t.toValue x == t.toValue y) = true → x = y

/-- The values of data are ordered, sorted, collected and told apart as the data are. -/
theorem orderEmbeds (ordered : t.Ordered) : t.OrderEmbeds where
  order := compare?_eq ordered
  sorting := by
    intro items
    -- Two data and their values are put in order by the same answer.
    refine List.map_mergeSort ?_
    intro x _ y _
    rw [compare?_eq ordered, Option.any_some]
  sets := by
    intro set
    let := t.ord
    refine ⟨rfl, increasing_of_ascending ordered ?_⟩
    rw [elements, KeyMap.keys, List.pairwise_map]
    refine set.ascending.imp ?_
    intro a b below
    -- The order of the set leaves nothing open, and so it is the order of the data.
    have settled := compare?_eq ordered a.1 b.1
    have below : (t.compare? a.1 b.1).getD .eq = .lt := below
    rw [settled, Option.getD_some] at below
    rw [settled, below]
  injective := by
    intro x y equal
    -- Equal values compare as equal, and so do their data.
    rw [Value.beq_iff_compare (wellFormed_of_ordered ordered x)] at equal
    exact eq_of_compare? ordered (by rw [compare?_eq ordered, equal])

/--
The making of values keeps the order of data, for every type built from integers, truth values and texts.

Hence sorting can be done before or after, different data have different values, and sets become the lists of the values of
their elements, which ascend strictly, those of data of such a type as well as those of keys.
-/
theorem toValue_orderEmbedding :
    (∀ t : Ty, t.Ordered → t.OrderEmbeds) ∧
      ∀ k : KeyTy, k.type.Ordered → ∀ keys : (Ty.set k).Carrier,
        toValue (.set k) keys = .list (keys.keys.map k.toValue) ∧ Value.Increasing (keys.keys.map k.toValue) := by
  refine ⟨fun t ordered => orderEmbeds ordered, ?_⟩
  intro k ordered keys
  -- Keys are data of their type, ordered and made into values like those.
  cases k with
  | int t => exact (orderEmbeds ordered).sets keys
  | bool => exact (orderEmbeds ordered).sets keys
  | text => exact (orderEmbeds ordered).sets keys

/-- A missing component comes before one that is there, and keys that were put in twice or out of order ascend. -/
theorem toValue_orderEmbedding_nested :
    Value.compare (.tuple [.list [.int 2], .null, .str "b"]) (.tuple [.list [.int 2], .bool false, .str ""]) = .lt ∧
      Value.Increasing [.str "", .str "Z", .str "a", .str "\u00e9"] := by
  -- The type is a tuple that may be missing, and its second component decides.
  have components : ∀ t ∈ ([.list (.int .int64), .option .bool, .text] : List Ty), t.Ordered := by
    simp only [List.forall_mem_cons]
    exact ⟨.list .int64, .option .bool nofun, .text, nofun⟩
  have ordered : (Ty.option (.tuple (.cons (.list (.int .int64)) (.cons (.option .bool) (.cons .text .nil))))).Ordered :=
    .option (.tuple components) nofun
  obtain ⟨embeds, keySets⟩ := toValue_orderEmbedding
  constructor
  · have order := (embeds _ ordered).order (some ([2], none, "b", ())) (some ([2], some false, "", ()))
    exact (Option.some.inj order).symm
  · exact (keySets .text .text (KeyMap.ofList [("a", ()), ("\u00e9", ()), ("", ()), ("a", ()), ("Z", ())])).2

end Ty

end DynValue
