import DynValue.Proofs.Value.Equality

/-! The order of values is total, agrees with equality, and orders dicts by size and then by their sorted entries. -/

namespace DynValue.Value

/-- Values are compared through their canonical forms, so that the laws carry over. -/
instance : Std.TransCmp compare where
  eq_swap {a b} := by
    have swapped : compareTree a.canonical b.canonical = (compareTree b.canonical a.canonical).swap :=
      Std.OrientedCmp.eq_swap
    exact swapped
  isLE_trans {a b c} first second := by
    have through : (compareTree a.canonical c.canonical).isLE = true :=
      Std.TransCmp.isLE_trans (b := b.canonical) first second
    exact through

/-- Values compare as equal exactly when they have the same canonical form. -/
theorem compare_eq_iff_canonical (a b : Value) : compare a b = .eq ↔ canonical a = canonical b := by
  -- Canonical forms are compared place by place, so that only the same ones compare as equal.
  rw [compare]
  exact Std.LawfulEqCmp.compare_eq_iff_eq

/-- The order of entries by key, then by value, whatever the order of the entries inside them. -/
def comparePair (a b : Value × Value) : Ordering :=
  (compare a.1 b.1).then (compare a.2 b.2)

/-- Entries in ascending order. -/
def sortEntries (entries : List (Value × Value)) : List (Value × Value) :=
  entries.mergeSort fun a b => (comparePair a b).isLE

/-- Putting entries in order and taking their canonical forms can be done in either order. -/
theorem canonicalEntry_sortEntries (entries : List (Value × Value)) :
    (sortEntries entries).map canonicalEntry = (canonicalEntries entries).mergeSort entryLE := by
  -- Entries are compared through their canonical forms in the first place.
  rw [canonicalEntries_eq_map]
  exact List.map_mergeSort fun a _ b _ => rfl

/-- Entry lists are compared by their first difference. -/
theorem compareEntries_canonical (a b : List (Value × Value)) :
    compareEntries (a.map canonicalEntry) (b.map canonicalEntry) = List.compareLex comparePair a b := by
  -- Comparing canonical forms is what comparing keys and values means.
  induction a generalizing b with
  | nil => cases b <;> rfl
  | cons x xs ih =>
    cases b with
    | nil => rfl
    | cons y ys =>
      rw [List.compareLex_cons_cons, ← ih ys]
      rfl

/--
Dicts are ordered by size, then by their sorted entries.

The entries are sorted by the very order that is being described, at every depth.
-/
theorem compare_dict (a b : List (Value × Value)) :
    compare (.dict a) (.dict b) = (Ord.compare a.length b.length).then
      (List.compareLex comparePair (sortEntries a) (sortEntries b)) := by
  -- Neither sorting nor the canonical forms change the number of entries.
  have lengths (entries : List (Value × Value)) :
      ((canonicalEntries entries).mergeSort entryLE).length = entries.length := by
    rw [List.length_mergeSort, canonicalEntries_eq_map, List.length_map]
  rw [compare, canonical, canonical, compareTree, lengths, lengths,
    ← canonicalEntry_sortEntries, ← canonicalEntry_sortEntries, compareEntries_canonical]

/--
The order of values is a total order that agrees with equality.

Swapping the operands reverses it, equal values and no others compare as equal, and it is transitive.
-/
theorem compare_totalOrder (a b c : Value) :
    compare a b = (compare b a).swap ∧
      (a.WellFormed → (compare a b = .eq ↔ (a == b) = true)) ∧
      (compare a b ≠ .gt → compare b c ≠ .gt → compare a c ≠ .gt) := by
  refine ⟨Std.OrientedCmp.eq_swap, ?_, ?_⟩
  · -- Both the order and equality come down to the canonical forms.
    intro wellFormed
    rw [compare_eq_iff_canonical, beq_iff_canonical wellFormed]
  · intro first second
    rw [Ne, Ordering.ne_gt_iff_isLE] at first second ⊢
    exact Std.TransCmp.isLE_trans first second

/-- Listing the entries of a dict, and of a dict among its keys, in another order makes no difference. -/
theorem compare_totalOrder_reordered :
    compare
      (.dict [(.dict [(.int 1, .null), (.bool true, .null)], .float (Binary.zero true)),
        (.float Binary.nan, .int 9007199254740993)])
      (.dict [(.float Binary.nan, .int 9007199254740993),
        (.dict [(.bool true, .null), (.int 1, .null)], .float (Binary.zero true))]) = .eq := by
  -- Both dicts are well formed, so that comparing as equal is being equal.
  exact ((compare_totalOrder _ _ .null).2.1 (by decide)).mpr (by decide)

end DynValue.Value
