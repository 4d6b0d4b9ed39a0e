import DynValue.Proofs.Value.Parts
import DynValue.Proofs.Value.Preservation

/-!
What values answer depends on their canonical forms alone.

Scalars are their own canonical forms, sequences have those of their elements, and dicts with different keys are maps from
canonical keys to canonical values, which is all that a look-up, an insertion or a removal needs to know of them.
-/

namespace DynValue.Value

/-- The canonical form of a list is that of its elements. -/
theorem canonical_list (items : List Value) : canonical (.list items) = .list (items.map canonical) := by
  -- The elements are put into canonical form one by one.
  rw [canonical, canonicalItems_eq_map]

/-- The canonical form of a tuple is that of its elements. -/
theorem canonical_tuple (items : List Value) : canonical (.tuple items) = .tuple (items.map canonical) := by
  -- The elements are put into canonical form one by one.
  rw [canonical, canonicalItems_eq_map]

/-- A canonical form is its own canonical form. -/
theorem canonical_canonical (value : Value) : value.canonical.canonical = value.canonical := by
  induction value using nestedInduction with
  | list items ih =>
    rw [canonical_list, canonical_list, List.map_map]
    exact congrArg Value.list (List.map_congr_left ih)
  | tuple items ih =>
    rw [canonical_tuple, canonical_tuple, List.map_map]
    exact congrArg Value.tuple (List.map_congr_left ih)
  | dict entries ih =>
    -- The entries were put in order after they had been made canonical, and neither needs to be done again.
    have again : (entries.map canonicalEntry).map canonicalEntry = entries.map canonicalEntry := by
      rw [List.map_map]
      exact List.map_congr_left fun entry member => Prod.ext (ih entry member).1 (ih entry member).2
    have sorted := (List.mergeSort_perm (entries.map canonicalEntry) entryLE).map canonicalEntry
    rw [again] at sorted
    rw [← canonical_dict_eq_iff, ← canonicalEntries_eq_map] at sorted
    exact sorted
  | _ => rfl

/-- The kind of a value is that of its canonical form. -/
theorem kind_canonical (value : Value) : value.canonical.kind = value.kind := by
  -- Putting the entries of dicts in order changes no kind.
  cases value <;> rfl

/-- The size of a value is that of its canonical form. -/
theorem size_canonical (value : Value) : value.canonical.size = value.size := by
  -- Elements and entries are changed and moved, but none is added or lost.
  cases value with
  | list items => rw [canonical_list]; exact List.length_map _
  | tuple items => rw [canonical_tuple]; exact List.length_map _
  | dict entries =>
    rw [canonical, canonicalEntries_eq_map]
    exact (List.length_mergeSort _).trans (List.length_map _)
  | _ => rfl

/-- Whether a sequence is empty can be told from its length. -/
theorem isEmpty_congr {α β : Type} {xs : List α} {ys : List β} (same : xs.length = ys.length) :
    (!xs.isEmpty) = !ys.isEmpty := by
  -- A sequence of length zero is the empty one.
  cases xs <;> cases ys <;> simp at same ⊢

/-- The truth of a value is that of its canonical form. -/
theorem truth_canonical (value : Value) : value.canonical.truth = value.truth := by
  -- A container is true when its size is not zero.
  have sizes := size_canonical value
  cases value with
  | list items => exact isEmpty_congr sizes
  | tuple items => exact isEmpty_congr sizes
  | dict entries => exact isEmpty_congr sizes
  | _ => rfl

/-- The integer of a value is that of its canonical form. -/
theorem toInt_canonical (value : Value) : value.canonical.toInt = value.toInt := by
  -- Only scalars have an integer, and they are their own canonical forms.
  cases value <;> rfl

/-- The float of a value is that of its canonical form. -/
theorem toFloat_canonical (value : Value) : value.canonical.toFloat = value.toFloat := by
  -- Only scalars have a float, and they are their own canonical forms.
  cases value <;> rfl

/-- Keys are pairwise different exactly when their canonical forms are. -/
theorem unique_iff_nodup {entries : Entries} (keys : ∀ entry ∈ entries, entry.1.WellFormed) :
    Entries.Unique entries ↔ (entries.map fun entry => canonical entry.1).Nodup := by
  -- Two keys are equal exactly if their canonical forms are the same.
  rw [List.Nodup, List.pairwise_map, Entries.Unique]
  apply List.Pairwise.iff_of_mem
  intro a b memberA _
  rw [Bool.eq_false_iff, Ne, beq_iff_canonical (keys a memberA)]

/-- Whether a value has no values in it. -/
def isScalar : Value → Bool
  | .list _ => false
  | .tuple _ => false
  | .dict _ => false
  | _ => true

/-- A value with no values in it is the only one with its canonical form. -/
theorem eq_of_canonical_scalar {a b : Value} (scalar : a.isScalar = true)
    (same : canonical a = canonical b) : a = b := by
  -- A scalar is its own canonical form, and no container has the canonical form of a scalar.
  cases a with
  | list items => contradiction
  | tuple items => contradiction
  | dict entries => contradiction
  | _ => cases b <;> simp [canonical] at same ⊢ <;> exact same

/-- Only lists have the canonical form of a list. -/
theorem exists_of_canonical_list {xs : List Value} {b : Value} (same : canonical (.list xs) = canonical b) :
    ∃ ys, b = .list ys ∧ xs.map canonical = ys.map canonical := by
  -- The canonical form keeps the constructor, so that the other value is a list.
  cases b with
  | list ys =>
    rw [canonical_list, canonical_list, Value.list.injEq] at same
    exact ⟨ys, rfl, same⟩
  | _ => simp [canonical] at same

/-- Only tuples have the canonical form of a tuple. -/
theorem exists_of_canonical_tuple {xs : List Value} {b : Value} (same : canonical (.tuple xs) = canonical b) :
    ∃ ys, b = .tuple ys ∧ xs.map canonical = ys.map canonical := by
  -- The canonical form keeps the constructor, so that the other value is a tuple.
  cases b with
  | tuple ys =>
    rw [canonical_tuple, canonical_tuple, Value.tuple.injEq] at same
    exact ⟨ys, rfl, same⟩
  | _ => simp [canonical] at same

/-- Only dicts have the canonical form of a dict. -/
theorem exists_of_canonical_dict {xs : Entries} {b : Value} (same : canonical (.dict xs) = canonical b) :
    ∃ ys : Entries, b = .dict ys ∧ (xs.map canonicalEntry).Perm (ys.map canonicalEntry) := by
  -- The canonical form keeps the constructor, and it forgets the order of the entries.
  cases b with
  | dict ys => exact ⟨ys, rfl, (canonical_dict_eq_iff xs ys).mp same⟩
  | _ => simp [canonical] at same

/-- Sequences with the same forms in any order have elements with the same form. -/
theorem exists_twin {α β : Type} {form : α → β} {xs ys : List α} (moved : (xs.map form).Perm (ys.map form))
    {y : α} (member : y ∈ ys) : ∃ x ∈ xs, form x = form y :=
  List.mem_map.mp (moved.symm.subset (List.mem_map_of_mem member))

/-- Values with the canonical form of a well-formed value are well formed. -/
theorem wellFormed_of_canonical {a b : Value} (whole : a.WellFormed) (same : canonical a = canonical b) :
    b.WellFormed := by
  induction whole generalizing b with
  | null => exact eq_of_canonical_scalar rfl same ▸ .null
  | bool truth => exact eq_of_canonical_scalar rfl same ▸ .bool truth
  | int number => exact eq_of_canonical_scalar rfl same ▸ .int number
  | float number => exact eq_of_canonical_scalar rfl same ▸ .float number
  | str text => exact eq_of_canonical_scalar rfl same ▸ .str text
  | list members ih =>
    -- Each element has a twin with the same form that is well formed.
    obtain ⟨ys, rfl, forms⟩ := exists_of_canonical_list same
    refine .list fun y member => ?_
    obtain ⟨x, original, form⟩ := exists_twin (.of_eq forms) member
    exact ih x original form
  | tuple members ih =>
    obtain ⟨ys, rfl, forms⟩ := exists_of_canonical_tuple same
    refine .tuple fun y member => ?_
    obtain ⟨x, original, form⟩ := exists_twin (.of_eq forms) member
    exact ih x original form
  | @dict xs unique keys values keysIH valuesIH =>
    obtain ⟨ys, rfl, moved⟩ := exists_of_canonical_dict same
    have members : ∀ y ∈ ys, y.1.WellFormed ∧ y.2.WellFormed := by
      intro y member
      obtain ⟨x, original, form⟩ := exists_twin moved member
      exact ⟨keysIH x original (congrArg Prod.fst form), valuesIH x original (congrArg Prod.snd form)⟩
    -- The keys differ because their canonical forms are those of keys that differ.
    refine wellFormed_dict_iff.mpr ⟨?_, members⟩
    rw [unique_iff_nodup fun y member => (members y member).1]
    rw [unique_iff_nodup keys] at unique
    have forms := moved.map Prod.fst
    rw [List.map_map, List.map_map] at forms
    exact forms.nodup unique

/-- A key holds what the entry with its canonical form holds. -/
theorem map_find?_eq_some_iff {entries : Entries} {key form : Value} (dict : (Value.dict entries).WellFormed)
    (keyed : key.WellFormed) :
    (Entries.find? entries key).map canonical = some form ↔
      (canonical key, form) ∈ entries.map canonicalEntry := by
  obtain ⟨unique, members⟩ := wellFormed_dict_iff.mp dict
  constructor
  · intro held
    obtain ⟨value, found, rfl⟩ := Option.map_eq_some_iff.mp held
    obtain ⟨other, member, equal⟩ := Entries.mem_of_find? found
    rw [beq_iff_canonical keyed] at equal
    exact List.mem_map.mpr ⟨(other, value), member, Prod.ext equal.symm rfl⟩
  · intro member
    obtain ⟨entry, isEntry, forms⟩ := List.mem_map.mp member
    have equal : canonical key = canonical entry.1 := (congrArg Prod.fst forms).symm
    cases found : Entries.find? entries key with
    | none =>
      -- The search cannot have passed over an entry with an equal key.
      have passed := Entries.find?_eq_none_iff.mp found entry isEntry
      rw [(beq_iff_canonical keyed entry.1).mpr equal] at passed
      contradiction
    | some value =>
      -- The entry that was found has an equal key, and there is only one.
      obtain ⟨other, isOther, located⟩ := Entries.mem_of_find? found
      rw [beq_iff_canonical keyed] at located
      have keys : ∀ entry ∈ entries, EqualByForm entry.1 :=
        fun entry member => beq_iff_canonical (members entry member).1
      have same := eq_of_canonical_key unique keys isOther isEntry (located.symm.trans equal)
      have held : canonical entry.2 = form := congrArg Prod.snd forms
      rw [Option.map_some, ← held, ← same]

/-- Canonical forms are equal when the values are. -/
theorem canonical_beq_canonical {a : Value} (whole : a.WellFormed) (b : Value) :
    (a.canonical == b.canonical) = (a == b) := by
  -- Equality is the same as having one canonical form, and a canonical form is its own.
  have form := wellFormed_of_canonical whole (canonical_canonical a).symm
  rw [Bool.eq_iff_iff, beq_iff_canonical form, beq_iff_canonical whole, canonical_canonical, canonical_canonical]

/-- A removal leaves the canonical forms with other keys. -/
theorem map_erase {key : Value} (keyed : key.WellFormed) (entries : Entries) :
    (Entries.erase entries key).map canonicalEntry =
      Entries.erase (entries.map canonicalEntry) key.canonical := by
  -- An entry is removed exactly if its canonical key equals the canonical key.
  unfold Entries.erase
  rw [List.filter_map]
  congr 2
  funext entry
  exact congrArg (!·) (canonical_beq_canonical keyed entry.1).symm

/-- An insertion gives its key a new value, whether or not it had one, and leaves the others. -/
theorem map_insert {entries : Entries} {key : Value} (dict : (Value.dict entries).WellFormed)
    (keyed : key.WellFormed) (value : Value) :
    ((Entries.insert entries key value).map canonicalEntry).Perm
      (canonicalEntry (key, value) :: (Entries.erase entries key).map canonicalEntry) := by
  cases found : Entries.find? entries key with
  | none =>
    rw [Entries.insert_of_missing found, Entries.erase_of_missing found, List.map_append]
    exact List.perm_append_singleton _ _
  | some old =>
    obtain ⟨front, other, back, rfl, equal, passed, changed⟩ := Entries.exists_split_of_find? found
    -- Later entries differ from the one in the middle, and so from the key.
    have later : ∀ entry ∈ back, (key == entry.1) = false := by
      intro entry member
      have unique := (List.pairwise_append.mp (wellFormed_dict_iff.mp dict).1).2.1
      have different := (List.pairwise_cons.mp unique).1 entry member
      have otherKeyed := ((wellFormed_dict_iff.mp dict).2 (other, old) (by simp)).1
      rwa [beq_congr_of_wellFormed keyed otherKeyed equal]
    have erased : Entries.erase (front ++ (other, old) :: back) key = front ++ back := by
      have before := Entries.erase_of_missing (Entries.find?_eq_none_iff.mpr passed)
      have after := Entries.erase_of_missing (Entries.find?_eq_none_iff.mpr later)
      unfold Entries.erase at before after ⊢
      rw [List.filter_append, List.filter_cons_of_neg (by simp [equal]), before, after]
    -- The entry in the middle keeps its key, which has the form of the given one.
    have form : canonicalEntry (key, value) = canonicalEntry (other, value) :=
      congrArg (·, value.canonical) ((beq_iff_canonical keyed other).mp equal)
    rw [changed value, erased, form, List.map_append, List.map_append]
    exact List.perm_middle

section Congruence

variable {a b : Entries} {key key' : Value} (dict : (Value.dict a).WellFormed) (keyed : key.WellFormed)
  (moved : (a.map canonicalEntry).Perm (b.map canonicalEntry)) (sameKey : canonical key = canonical key')

include keyed moved sameKey

/-- The removal of equal keys from equal dicts leaves equal dicts. -/
theorem map_erase_congr :
    ((Entries.erase a key).map canonicalEntry).Perm ((Entries.erase b key').map canonicalEntry) := by
  -- The canonical entries are the same up to their order, and the removal looks at each by itself.
  rw [map_erase keyed, map_erase (wellFormed_of_canonical keyed sameKey), sameKey]
  exact moved.filter _

include dict

/-- Equal keys of equal dicts hold equal values. -/
theorem map_find?_congr :
    (Entries.find? a key).map canonical = (Entries.find? b key').map canonical := by
  -- What is found is the one canonical entry with the canonical key, wherever it stands.
  have other := wellFormed_of_canonical dict ((canonical_dict_eq_iff a b).mpr moved)
  have otherKeyed := wellFormed_of_canonical keyed sameKey
  apply Option.ext
  intro form
  rw [map_find?_eq_some_iff dict keyed, map_find?_eq_some_iff other otherKeyed, sameKey, moved.mem_iff]

/-- The insertion of equal values under equal keys of equal dicts gives equal dicts. -/
theorem map_insert_congr {value value' : Value} (sameValue : canonical value = canonical value') :
    ((Entries.insert a key value).map canonicalEntry).Perm
      ((Entries.insert b key' value').map canonicalEntry) := by
  have other := wellFormed_of_canonical dict ((canonical_dict_eq_iff a b).mpr moved)
  have otherKeyed := wellFormed_of_canonical keyed sameKey
  have inserted : canonicalEntry (key, value) = canonicalEntry (key', value') := Prod.ext sameKey sameValue
  -- The new entry is the same on both sides, and so is what the removal of the key leaves.
  have rests := (map_erase_congr keyed moved sameKey).cons (canonicalEntry (key, value))
  have first := map_insert dict keyed value
  have second := map_insert other otherKeyed value'
  rw [← inserted] at second
  exact first.trans (rests.trans second.symm)

end Congruence

end DynValue.Value
