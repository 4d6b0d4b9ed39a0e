import DynValue.Proofs.Value.Spelling
import DynValue.Proofs.Value.WellFormed
import Mathlib.Data.List.Perm.Subperm

/-!
Values are equal exactly when they have the same canonical form.

Equality looks for the entries of one dict in another, the canonical form puts the entries in order. They agree on
values whose dicts have no two equal keys, and equality of such values is an equivalence.
-/

namespace DynValue.Value

/-- The canonical forms of a sequence, element by element. -/
theorem canonicalItems_eq_map (items : List Value) : canonicalItems items = items.map canonical := by
  -- The recursion on the list of elements is a map.
  induction items with
  | nil => rfl
  | cons item rest ih => simp [canonicalItems, ih]

/-- The entry with the canonical forms of its key and value. -/
def canonicalEntry (entry : Value × Value) : Value × Value :=
  (canonical entry.1, canonical entry.2)

/-- The canonical forms of entries, entry by entry. -/
theorem canonicalEntries_eq_map (entries : List (Value × Value)) :
    canonicalEntries entries = entries.map canonicalEntry := by
  -- The recursion on the list of entries is a map.
  induction entries with
  | nil => rfl
  | cons entry rest ih => simp [canonicalEntries, canonicalEntry, ih]

/-- Sorted entries are in ascending order. -/
theorem sorted_entries (entries : List (Value × Value)) :
    (entries.mergeSort entryLE).Pairwise fun a b => entryLE a b = true := by
  -- The order of entries is transitive, and one of two entries comes first.
  apply List.pairwise_mergeSort
  · intro a b c first second
    have through : (compareEntry a c).isLE = true :=
      Std.TransCmp.isLE_trans (b := b) first second
    exact through
  · intro a b
    -- Comparing the other way round gives the reverse, and one of the two is not greater.
    have swapped : compareEntry a b = (compareEntry b a).swap := Std.OrientedCmp.eq_swap
    show (compareEntry a b).isLE || (compareEntry b a).isLE
    rw [swapped]
    cases compareEntry b a <;> rfl

/-- Sorting makes entries the same exactly when they differ in nothing but order. -/
theorem mergeSort_entries_eq_iff (a b : List (Value × Value)) :
    a.mergeSort entryLE = b.mergeSort entryLE ↔ a.Perm b := by
  constructor
  · -- Sorting moves entries and does nothing else.
    intro same
    have moved := List.mergeSort_perm a entryLE
    rw [same] at moved
    exact moved.symm.trans (List.mergeSort_perm b entryLE)
  · intro moved
    -- Entries that come before each other are the same, so that there is one order only.
    have antisymmetric : ∀ x y, x ∈ a.mergeSort entryLE → y ∈ b.mergeSort entryLE →
        entryLE x y = true → entryLE y x = true → x = y := by
      intro x y _ _ first second
      have equal : compareEntry x y = .eq := Std.OrientedCmp.isLE_antisymm first second
      exact Std.LawfulEqCmp.eq_of_compare equal
    apply List.Perm.eq_of_pairwise antisymmetric (sorted_entries a) (sorted_entries b)
    exact (List.mergeSort_perm a entryLE).trans (moved.trans (List.mergeSort_perm b entryLE).symm)

/-- Dicts have the same canonical form when their canonical entries differ in nothing but order. -/
theorem canonical_dict_eq_iff (a b : List (Value × Value)) :
    canonical (.dict a) = canonical (.dict b) ↔ (a.map canonicalEntry).Perm (b.map canonicalEntry) := by
  -- Sorting forgets the order of the entries and nothing else.
  simp only [canonical, Value.dict.injEq, mergeSort_entries_eq_iff, canonicalEntries_eq_map]

/-- Every entry has a counterpart when the search for its key finds an equal value. -/
theorem beqEntries_iff (a b : List (Value × Value)) :
    beqEntries a b = true ↔
      ∀ entry ∈ a, ∃ other, b.find? (fun other => beq entry.1 other.1) = some other ∧
        beq entry.2 other.2 = true := by
  -- Each entry is looked for in all entries of the other dict.
  induction a with
  | nil => simp [beqEntries]
  | cons entry rest ih =>
    obtain ⟨key, value⟩ := entry
    simp only [beqEntries, Bool.and_eq_true, ih, List.forall_mem_cons]
    cases found : b.find? fun other => beq key other.1 <;> simp

/-- Equality with a value is sameness of canonical forms, whatever the other value is. -/
def EqualByForm (value : Value) : Prop :=
  ∀ other, beq value other = true ↔ canonical value = canonical other

/-- Sequences of such elements are equal when their canonical forms are the same. -/
theorem beqItems_iff {xs : List Value} (members : ∀ x ∈ xs, EqualByForm x) (ys : List Value) :
    beqItems xs ys = true ↔ xs.map canonical = ys.map canonical := by
  -- Both sequences are taken apart together, and one that is longer differs in both senses.
  induction xs generalizing ys with
  | nil => cases ys <;> simp [beqItems]
  | cons x xs ih =>
    cases ys with
    | nil => simp [beqItems]
    | cons y ys =>
      obtain ⟨head, tail⟩ := List.forall_mem_cons.mp members
      simp [beqItems, head y, ih tail ys]

/-- Entries with different keys have different canonical forms. -/
theorem nodup_canonicalEntry {entries : List (Value × Value)} (unique : Entries.Unique entries)
    (keys : ∀ entry ∈ entries, EqualByForm entry.1) : (entries.map canonicalEntry).Nodup := by
  -- Equal canonical forms would make the keys equal.
  rw [List.Nodup, List.pairwise_map]
  apply List.Pairwise.imp_of_mem _ unique
  intro a b memberA memberB different same
  have equal := (keys a memberA b.1).mpr (congrArg Prod.fst same)
  exact Bool.noConfusion (different.symm.trans equal)

/-- Entries of one dict whose keys have the same canonical form are the same entry. -/
theorem eq_of_canonical_key {entries : List (Value × Value)} (unique : Entries.Unique entries)
    (keys : ∀ entry ∈ entries, EqualByForm entry.1) {a b : Value × Value} (memberA : a ∈ entries)
    (memberB : b ∈ entries) (same : canonical a.1 = canonical b.1) : a = b := by
  -- If only one of them came first, its key would equal the key of a later entry.
  induction entries with
  | nil => cases memberA
  | cons first rest ih =>
    obtain ⟨apart, unique⟩ := List.pairwise_cons.mp unique
    obtain ⟨head, keys⟩ := List.forall_mem_cons.mp keys
    rcases List.mem_cons.mp memberA with atA | insideA
    · rcases List.mem_cons.mp memberB with atB | insideB
      · rw [atA, atB]
      · subst atA
        exact Bool.noConfusion ((apart b insideB).symm.trans ((head b.1).mpr same))
    · rcases List.mem_cons.mp memberB with atB | insideB
      · subst atB
        exact Bool.noConfusion ((apart a insideA).symm.trans ((head a.1).mpr same.symm))
      · -- If neither comes first, both are among the rest.
        exact ih unique keys insideA insideB

/-- Dicts with different keys are equal when their canonical entries differ in nothing but order. -/
theorem beq_dict_iff {a : List (Value × Value)} (unique : Entries.Unique a)
    (keys : ∀ entry ∈ a, EqualByForm entry.1) (values : ∀ entry ∈ a, EqualByForm entry.2)
    (b : List (Value × Value)) :
    beq (.dict a) (.dict b) = true ↔ (a.map canonicalEntry).Perm (b.map canonicalEntry) := by
  simp only [beq, Bool.and_eq_true, beq_iff_eq, beqEntries_iff]
  constructor
  · rintro ⟨lengths, found⟩
    -- Different entries with counterparts in a list of the same length leave no room for others.
    have subset : a.map canonicalEntry ⊆ b.map canonicalEntry := by
      intro form formMember
      obtain ⟨entry, member, rfl⟩ := List.mem_map.mp formMember
      obtain ⟨other, located, equal⟩ := found entry member
      have named := List.find?_some located
      have key := (keys entry member other.1).mp named
      have value := (values entry member other.2).mp equal
      exact List.mem_map.mpr ⟨other, List.mem_of_find?_eq_some located, (Prod.ext key value).symm⟩
    apply (List.subperm_of_subset (nodup_canonicalEntry unique keys) subset).perm_of_length_le
    simp [lengths]
  · intro moved
    refine ⟨by simpa using moved.length_eq, ?_⟩
    intro entry member
    obtain ⟨twin, twinMember, form⟩ :=
      List.mem_map.mp (moved.subset (List.mem_map_of_mem member))
    -- The twin makes the search succeed, though it need not be what the search finds.
    have named : beq entry.1 twin.1 = true :=
      (keys entry member twin.1).mpr (congrArg Prod.fst form).symm
    obtain ⟨other, located⟩ : ∃ other, b.find? (fun other => beq entry.1 other.1) = some other := by
      rw [← Option.isSome_iff_exists, List.find?_isSome]
      exact ⟨twin, twinMember, named⟩
    refine ⟨other, located, (values entry member other.2).mpr ?_⟩
    have found := List.find?_some located
    have key := (keys entry member other.1).mp found
    -- What is found comes from an entry with the same key, and there is only one.
    obtain ⟨origin, originMember, originForm⟩ :=
      List.mem_map.mp (moved.symm.subset (List.mem_map_of_mem (List.mem_of_find?_eq_some located)))
    have originKey : canonical origin.1 = canonical other.1 := congrArg Prod.fst originForm
    have same := eq_of_canonical_key unique keys originMember member (originKey.trans key.symm)
    rw [← same]
    exact congrArg Prod.snd originForm

/-- A well-formed value equals another exactly when they have the same canonical form. -/
theorem beq_iff_canonical {a : Value} (wellFormed : a.WellFormed) (b : Value) :
    (a == b) = true ↔ canonical a = canonical b := by
  -- The induction follows the first value, while the other is arbitrary.
  suffices form : EqualByForm a from form b
  induction wellFormed with
  | null | bool | int | float | str =>
    intro b
    cases b <;> simp [beq, canonical]
  | list members ih | tuple members ih =>
    intro b
    cases b <;> simp [beq, canonical, beqItems_iff ih, canonicalItems_eq_map]
  | dict unique keys values keysIH valuesIH =>
    intro b
    cases b with
    -- Finding the entries of one dict in the other is having the same canonical entries in some order.
    | dict entries => rw [beq_dict_iff unique keysIH valuesIH, canonical_dict_eq_iff]
    | _ => simp [beq, canonical]

/-- A well-formed value equals itself. -/
theorem beq_refl_of_wellFormed {a : Value} (wellFormed : a.WellFormed) : (a == a) = true :=
  (beq_iff_canonical wellFormed a).mpr rfl

/-- Equality of well-formed values goes both ways. -/
theorem beq_comm_of_wellFormed {a b : Value} (first : a.WellFormed) (second : b.WellFormed) :
    (a == b) = (b == a) := by
  -- Canonical forms are the same in either direction.
  rw [Bool.eq_iff_iff, beq_iff_canonical first, beq_iff_canonical second, eq_comm]

/-- Equal well-formed values equal the same values. -/
theorem beq_congr_of_wellFormed {a b : Value} (first : a.WellFormed) (second : b.WellFormed)
    (equal : (a == b) = true) (c : Value) : (a == c) = (b == c) := by
  -- Equal values have one canonical form.
  rw [Bool.eq_iff_iff, beq_iff_canonical first, beq_iff_canonical second,
    (beq_iff_canonical first b).mp equal]

end DynValue.Value
