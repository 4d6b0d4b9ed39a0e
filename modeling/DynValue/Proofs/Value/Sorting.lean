import DynValue.Native.Order
import DynValue.Proofs.Value.Order
import DynValue.Proofs.Value.Stream

/-!
Sorting, dropping repeats, hash tables and folds to an extreme agree on every list of values.

Dropping the repeats of the sorted list and collecting elements in a table both keep, of the elements that equal one another,
the one that the list has first. A strictly ascending list is known by its elements, so that both arrive at the same list.
-/

namespace DynValue.Value

/-! ## Sorted lists -/

/-- No element comes after one that follows it. -/
abbrev Ascending (items : List Value) : Prop :=
  items.Pairwise fun a b => (compare a b).isLE = true

/-- Every element comes before those that follow it. -/
abbrev Increasing (items : List Value) : Prop :=
  items.Pairwise fun a b => compare a b = .lt

/-- No two elements are equal. -/
abbrev Apart (items : List Value) : Prop :=
  items.Pairwise fun a b => compare a b ≠ .eq

/-- Values are equal exactly when neither comes before the other. -/
theorem beq_iff_compare {a : Value} (wellFormed : a.WellFormed) (b : Value) :
    (a == b) = true ↔ compare a b = .eq := by
  -- Both mean that the canonical forms are the same.
  rw [compare_eq_iff_canonical, beq_iff_canonical wellFormed]

/-- A value that does not come after another and is not equal to it comes before it. -/
theorem compare_lt_of_isLE {a b : Value} (bound : (compare a b).isLE = true) (different : compare a b ≠ .eq) :
    compare a b = .lt :=
  (Ordering.isLE_iff_eq_lt_or_eq_eq.mp bound).resolve_right different

/-- Elements each of which comes before the next are not equal. -/
theorem Increasing.apart {items : List Value} (increasing : Increasing items) : Apart items := by
  -- What comes before an element does not compare as equal to it.
  refine increasing.imp ?_
  intro a b before
  simp [before]

/-- Whether equal elements are present does not depend on the order of the list. -/
theorem Apart.of_perm {xs ys : List Value} (apart : Apart ys) (moved : xs.Perm ys) : Apart xs := by
  -- To compare as equal is symmetric, so that it does not matter which of two elements stands first.
  have symmetric {a b : Value} (different : compare a b ≠ .eq) : compare b a ≠ .eq :=
    mt Std.OrientedCmp.eq_comm.mp different
  exact (moved.pairwise_iff symmetric).mpr apart

/-- No value comes after itself. -/
theorem isLE_refl (a : Value) : (compare a a).isLE = true := by
  -- A value compares as equal to itself.
  have self : compare a a = .eq := Std.ReflCmp.compare_self
  rw [self, Ordering.isLE_eq]

/-- What does not come after a value does not come after a later one. -/
theorem isLE_trans (a b c : Value) (first : (compare a b).isLE = true) (second : (compare b c).isLE = true) :
    (compare a c).isLE = true :=
  Std.TransCmp.isLE_trans first second

/-- One of two values does not come after the other. -/
theorem isLE_total (a b : Value) : ((compare a b).isLE || (compare b a).isLE) = true := by
  -- Read from the other side, the verdict is reversed.
  have swapped : compare a b = (compare b a).swap := Std.OrientedCmp.eq_swap
  rw [swapped]
  cases compare b a <;> rfl

/-- Sorting moves elements and does nothing else. -/
theorem sort_perm (items : List Value) : (sort items).Perm items :=
  List.mergeSort_perm items _

/-- Sorting keeps elements well-formed. -/
theorem wellFormed_sort {items : List Value} (wellFormed : ∀ item ∈ items, item.WellFormed) :
    ∀ item ∈ sort items, item.WellFormed :=
  fun item found => wellFormed item ((sort_perm items).mem_iff.mp found)

/-- A sorted list is in ascending order. -/
theorem ascending_sort (items : List Value) : Ascending (sort items) :=
  List.pairwise_mergeSort isLE_trans isLE_total items

/-- Lists are equal exactly when their elements have the same canonical forms, one after the other. -/
theorem beq_list_iff {xs : List Value} (wellFormed : ∀ x ∈ xs, x.WellFormed) (ys : List Value) :
    (xs == ys) = true ↔ xs.map canonical = ys.map canonical := by
  -- Only the elements on the left are asked to be well-formed, as for single values.
  induction xs generalizing ys with
  | nil => cases ys <;> simp
  | cons x xs ih =>
    cases ys with
    | nil => simp
    | cons y ys =>
      obtain ⟨head, tail⟩ := List.forall_mem_cons.mp wellFormed
      simp only [List.cons_beq_cons, Bool.and_eq_true, List.map_cons, List.cons.injEq,
        beq_iff_canonical head, ih tail]

/-- Ascending lists that differ in order alone differ at most in the order of the entries of dicts. -/
theorem map_canonical_eq_of_perm {xs ys : List Value} (moved : xs.Perm ys)
    (first : Ascending xs)
    (second : Ascending ys) : xs.map canonical = ys.map canonical := by
  -- On canonical forms the order is antisymmetric, so that there is one ascending order only.
  have antisymmetric : ∀ a b, a ∈ xs.map canonical → b ∈ ys.map canonical →
      (compareTree a b).isLE = true → (compareTree b a).isLE = true → a = b := by
    intro a b _ _ before after
    exact Std.LawfulEqCmp.eq_of_compare (Std.OrientedCmp.isLE_antisymm before after)
  exact List.Perm.eq_of_pairwise antisymmetric (List.pairwise_map.mpr first) (List.pairwise_map.mpr second)
    (moved.map canonical)

/-- Lists that differ in order alone are equal once they are sorted. -/
theorem sort_beq_of_perm {xs ys : List Value} (wellFormed : ∀ x ∈ xs, x.WellFormed) (moved : xs.Perm ys) :
    (sort xs == sort ys) = true := by
  -- Sorted lists with the same elements have the same canonical forms at every place.
  rw [beq_list_iff (wellFormed_sort wellFormed)]
  exact map_canonical_eq_of_perm ((sort_perm xs).trans (moved.trans (sort_perm ys).symm))
    (ascending_sort xs) (ascending_sort ys)

/-- A strictly ascending list is known by its elements. -/
theorem eq_of_increasing {xs ys : List Value} (first : Increasing xs)
    (second : Increasing ys) (same : ∀ item, item ∈ xs ↔ item ∈ ys) : xs = ys := by
  -- No value comes before itself, so that no element is there twice.
  have nodup {items : List Value} (increasing : Increasing items) : items.Nodup := by
    refine increasing.imp ?_
    rintro a _ before rfl
    exact Std.OrientedCmp.not_lt_of_lt before before
  have asymmetric : ∀ a b, a ∈ xs → b ∈ ys → compare a b = .lt → compare b a = .lt → a = b := by
    intro a b _ _ before after
    exact absurd after (Std.OrientedCmp.not_lt_of_lt before)
  exact List.Perm.eq_of_pairwise asymmetric first second
    ((List.perm_ext_iff_of_nodup (nodup first) (nodup second)).mpr same)

/-! ## The first of equal elements -/

/-- The first element of a list that equals a value. -/
def firstEqual? (value : Value) (items : List Value) : Option Value :=
  items.find? fun item => compare value item = .eq

/-- Sorting is stable: of the elements that equal a value, the same one comes first. -/
theorem firstEqual?_sort (value : Value) (items : List Value) :
    firstEqual? value (sort items) = firstEqual? value items := by
  -- The equal elements are in ascending order as they stand, so that sorting leaves their order alone.
  let isEqual : Value → Bool := fun item => compare value item = .eq
  have ascending : Ascending (items.filter isEqual) := by
    refine List.pairwise_of_forall_mem_list ?_
    intro a inA b inB
    have equalA : compare value a = .eq := of_decide_eq_true (List.mem_filter.mp inA).2
    have equalB : compare value b = .eq := of_decide_eq_true (List.mem_filter.mp inB).2
    rw [← Std.TransCmp.congr_left equalA, equalB]
    rfl
  -- A stable sort keeps what is in order already, and it can hold nothing more.
  have kept : (items.filter isEqual).Sublist (sort items) :=
    List.sublist_mergeSort isLE_trans isLE_total ascending List.filter_sublist
  have same : items.filter isEqual = (sort items).filter isEqual := by
    have within := kept.filter isEqual
    rw [List.filter_filter] at within
    simp only [Bool.and_self] at within
    exact within.eq_of_length ((sort_perm items).symm.filter isEqual).length_eq
  rw [firstEqual?, firstEqual?, ← List.head?_filter, ← List.head?_filter]
  exact congrArg List.head? same.symm

/-- In a list without equal elements, each element is the first that equals it. -/
theorem mem_iff_firstEqual? {items : List Value} (apart : Apart items)
    (item : Value) : item ∈ items ↔ firstEqual? item items = some item := by
  constructor
  · intro found
    obtain ⟨before, after, rfl⟩ := List.append_of_mem found
    refine List.find?_eq_some_iff_append.mpr ⟨decide_eq_true Std.ReflCmp.compare_self, before, after, rfl, ?_⟩
    -- None of the elements before it equals it.
    intro other earlier
    have different := (List.pairwise_append.mp apart).2.2 other earlier item (List.mem_cons_self ..)
    simpa [Std.OrientedCmp.eq_comm (a := item)] using different
  · exact List.mem_of_find?_eq_some

/-- In a list without equal elements, a value equals one element if it equals any. -/
theorem countP_eq_one {items : List Value} (apart : Apart items)
    {value : Value} (wellFormed : value.WellFormed) (found : (firstEqual? value items).isSome = true) :
    items.countP (value == ·) = 1 := by
  induction items with
  | nil => simp [firstEqual?] at found
  | cons item rest ih =>
    obtain ⟨different, apart⟩ := List.pairwise_cons.mp apart
    by_cases equal : compare value item = .eq
    · -- Whatever equals the value further on would equal this element as well.
      have none : rest.countP (value == ·) = 0 := by
        refine List.countP_eq_zero.mpr ?_
        intro other later again
        rw [beq_iff_compare wellFormed, Std.TransCmp.congr_left equal] at again
        exact different other later again
      rw [List.countP_cons_of_pos ((beq_iff_compare wellFormed item).mpr equal), none]
    · rw [List.countP_cons_of_neg (mt (beq_iff_compare wellFormed item).mp equal)]
      refine ih apart ?_
      simpa [firstEqual?, equal] using found

/-! ## Dropping repeats -/

/-- Dropping repeats keeps elements in their order. -/
theorem dropRepeatsAfter_sublist (last : Value) (items : List Value) :
    (dropRepeats.dropRepeatsAfter last items).Sublist items := by
  -- An element is dropped or kept where it stands.
  induction items generalizing last with
  | nil => exact .slnil
  | cons item rest ih =>
    rw [dropRepeats.dropRepeatsAfter]
    split
    · exact (ih last).cons item
    · exact (ih item).cons_cons item

/-- Dropping repeats keeps the first of the elements that equal a value. -/
theorem firstEqual?_dropRepeatsAfter (value last : Value) {items : List Value}
    (wellFormed : ∀ item ∈ items, item.WellFormed) :
    firstEqual? value (last :: dropRepeats.dropRepeatsAfter last items) = firstEqual? value (last :: items) := by
  -- The induction follows the pass over the list, which remembers the element it kept last.
  induction items generalizing last with
  | nil => rfl
  | cons item rest ih =>
    obtain ⟨head, tail⟩ := List.forall_mem_cons.mp wellFormed
    rw [dropRepeats.dropRepeatsAfter]
    split
    case isTrue repeated =>
      rw [ih last tail]
      -- What equals the element dropped equals the one kept before it.
      rw [beq_iff_compare head] at repeated
      by_cases equal : compare value item = .eq
      · have earlier : compare value last = .eq := Std.TransCmp.eq_trans equal repeated
        simp [firstEqual?, earlier]
      · simp [firstEqual?, List.find?_cons, equal]
    case isFalse =>
      by_cases equal : compare value last = .eq
      · simp [firstEqual?, equal]
      · simpa [firstEqual?, equal] using ih item tail

/-- Dropping the repeats of an ascending list makes it strictly ascending. -/
theorem increasing_dropRepeatsAfter {last : Value} {items : List Value}
    (wellFormed : ∀ item ∈ items, item.WellFormed)
    (ascending : Ascending (last :: items)) :
    Increasing (last :: dropRepeats.dropRepeatsAfter last items) := by
  induction items generalizing last with
  | nil => exact List.pairwise_singleton ..
  | cons item rest ih =>
    obtain ⟨head, tail⟩ := List.forall_mem_cons.mp wellFormed
    obtain ⟨bounds, further⟩ := List.pairwise_cons.mp ascending
    rw [dropRepeats.dropRepeatsAfter]
    split
    case isTrue repeated =>
      -- Dropping the element leaves the last one where it was, in front of the rest.
      refine ih tail (List.pairwise_cons.mpr ⟨?_, (List.pairwise_cons.mp further).2⟩)
      exact fun other later => bounds other (List.mem_cons_of_mem item later)
    case isFalse new =>
      -- An element that does not equal the last one comes after it, and so does all that follows.
      rw [beq_iff_compare head, Std.OrientedCmp.eq_comm] at new
      have before := compare_lt_of_isLE (bounds item List.mem_cons_self) new
      have strict := ih tail further
      refine List.pairwise_cons.mpr ⟨?_, strict⟩
      rintro other (_ | ⟨_, later⟩)
      · exact before
      · exact Std.TransCmp.lt_trans before ((List.pairwise_cons.mp strict).1 other later)

/-- Dropping repeats keeps elements in their order. -/
theorem dropRepeats_sublist (items : List Value) : (dropRepeats items).Sublist items := by
  -- The first element is always kept.
  cases items with
  | nil => exact .slnil
  | cons first rest => exact (dropRepeatsAfter_sublist first rest).cons_cons first

/-- Dropping repeats keeps the first of the elements that equal a value. -/
theorem firstEqual?_dropRepeats (value : Value) {items : List Value}
    (wellFormed : ∀ item ∈ items, item.WellFormed) :
    firstEqual? value (dropRepeats items) = firstEqual? value items := by
  -- The first element is kept, and the repeats are those after it.
  cases items with
  | nil => rfl
  | cons first rest => exact firstEqual?_dropRepeatsAfter value first (List.forall_mem_cons.mp wellFormed).2

/-- Dropping the repeats of an ascending list makes it strictly ascending. -/
theorem increasing_dropRepeats {items : List Value} (wellFormed : ∀ item ∈ items, item.WellFormed)
    (ascending : Ascending items) :
    Increasing (dropRepeats items) := by
  -- The first element is the last one kept when the rest is looked at.
  cases items with
  | nil => exact .nil
  | cons first rest => exact increasing_dropRepeatsAfter (List.forall_mem_cons.mp wellFormed).2 ascending

/-! ## Hash tables -/

/-- A table with one more element, which is looked for among the elements with the same hash only. -/
def hashInsert (hash : List UInt8 → UInt64) (table : List Value) (item : Value) : List Value :=
  if table.any fun other => hash item.stream == hash other.stream && item == other then table
  else table ++ [item]

/-- The table that takes in the elements of a list, one after the other. -/
def hashTable (hash : List UInt8 → UInt64) (items : List Value) : List Value :=
  items.foldl (hashInsert hash) []

/-- Looking among the elements with the same hash finds what looking among all would find. -/
theorem hashInsert_eq (hash : List UInt8 → UInt64) (table : List Value) (item : Value) :
    hashInsert hash table item = if table.contains item then table else table ++ [item] := by
  -- The comparison of hashes rules out nothing that is equal.
  have sameHash (other : Value) :
      (hash item.stream == hash other.stream && item == other) = (item == other) := by
    cases equal : item == other with
    | false => exact Bool.and_false _
    | true => rw [stream_eq_of_beq equal, beq_self_eq_true, Bool.true_and]
  simp only [hashInsert, sameHash, List.contains_eq_any_beq]

/-- The distinct elements of a list are those of its hash table, in ascending order. -/
theorem distinct_eq_sort_hashTable (hash : List UInt8 → UInt64) (items : List Value) :
    distinct items = sort (hashTable hash items) := by
  -- An insertion by hashes is an insertion unless an equal element is there.
  rw [distinct, hashTable, funext₂ (hashInsert_eq hash)]

/-- An insertion adds the element at the end, unless the table has one that equals it. -/
theorem hashInsert_cases (hash : List UInt8 → UInt64) (table : List Value) {item : Value}
    (wellFormed : item.WellFormed) :
    (hashInsert hash table item = table ∧ ∃ other ∈ table, compare item other = .eq) ∨
      (hashInsert hash table item = table ++ [item] ∧ ∀ other ∈ table, compare item other ≠ .eq) := by
  -- To contain an element means to have one that compares as equal to it.
  rw [hashInsert_eq]
  split
  case isTrue present =>
    rw [List.contains_eq_any_beq, List.any_eq_true] at present
    obtain ⟨other, found, equal⟩ := present
    exact .inl ⟨rfl, other, found, (beq_iff_compare wellFormed other).mp equal⟩
  case isFalse absent =>
    refine .inr ⟨rfl, ?_⟩
    intro other found equal
    refine absent ?_
    rw [List.contains_eq_any_beq, List.any_eq_true]
    exact ⟨other, found, (beq_iff_compare wellFormed other).mpr equal⟩

/-- The first element that equals a value does not change by what is added later. -/
theorem firstEqual?_append_of_isSome {value : Value} {items : List Value}
    (found : (firstEqual? value items).isSome = true) (more : List Value) :
    firstEqual? value (items ++ more) = firstEqual? value items := by
  -- The search stops before it comes to what was added.
  obtain ⟨first, same⟩ := Option.isSome_iff_exists.mp found
  rw [firstEqual?] at same ⊢
  rw [List.find?_append, same, firstEqual?, same]
  rfl

/-- A table keeps the first of the elements that equal a value. -/
theorem firstEqual?_foldl_hashInsert (hash : List UInt8 → UInt64) (value : Value) {items : List Value}
    (wellFormed : ∀ item ∈ items, item.WellFormed) (table : List Value) :
    firstEqual? value (items.foldl (hashInsert hash) table) = firstEqual? value (table ++ items) := by
  -- The induction is on what is still to be inserted, for every table reached so far.
  induction items generalizing table with
  | nil => rw [List.foldl_nil, List.append_nil]
  | cons item rest ih =>
    obtain ⟨head, tail⟩ := List.forall_mem_cons.mp wellFormed
    rw [List.foldl_cons, ih tail]
    obtain ⟨inserted, other, found, equal⟩ | ⟨inserted, -⟩ := hashInsert_cases hash table head
    · rw [inserted]
      by_cases wanted : compare value item = .eq
      · -- The table has an answer already, and neither the element nor the rest changes it.
        have answered : (firstEqual? value table).isSome = true := by
          rw [firstEqual?, List.find?_isSome]
          exact ⟨other, found, decide_eq_true (Std.TransCmp.eq_trans wanted equal)⟩
        rw [firstEqual?_append_of_isSome answered, firstEqual?_append_of_isSome answered]
      · simp [firstEqual?, List.find?_append, wanted]
    · rw [inserted, List.append_assoc, List.singleton_append]

/-- No two elements of a table are equal. -/
theorem apart_foldl_hashInsert (hash : List UInt8 → UInt64) {items : List Value}
    (wellFormed : ∀ item ∈ items, item.WellFormed) {table : List Value}
    (apart : Apart table) :
    Apart (items.foldl (hashInsert hash) table) := by
  induction items generalizing table with
  | nil => exact apart
  | cons item rest ih =>
    obtain ⟨head, tail⟩ := List.forall_mem_cons.mp wellFormed
    rw [List.foldl_cons]
    refine ih tail ?_
    obtain ⟨inserted, -⟩ | ⟨inserted, new⟩ := hashInsert_cases hash table head
    · rwa [inserted]
    · -- The element at the end equals none of those before it.
      rw [inserted]
      refine List.pairwise_append.mpr ⟨apart, List.pairwise_singleton .., ?_⟩
      intro other found last isItem
      rw [List.mem_singleton.mp isItem, ne_eq, Std.OrientedCmp.eq_comm]
      exact new other found

/-- A sorted list without equal elements is strictly ascending. -/
theorem increasing_sort {items : List Value} (apart : Apart items) : Increasing (sort items) := by
  -- Neighbours in order that do not compare as equal are strictly in order.
  refine ((ascending_sort items).and (apart.of_perm (sort_perm items))).imp ?_
  rintro a b ⟨bound, different⟩
  exact compare_lt_of_isLE bound different

/-- Sorting what a table holds gives what sorting and dropping repeats gives, whatever the order of the table. -/
theorem sort_hashTable (hash : List UInt8 → UInt64) {items contents : List Value}
    (wellFormed : ∀ item ∈ items, item.WellFormed) (moved : contents.Perm (hashTable hash items)) :
    sort contents = dropRepeats (sort items) := by
  have apart : Apart (hashTable hash items) := apart_foldl_hashInsert hash wellFormed .nil
  have sorted := wellFormed_sort wellFormed
  have increasing := increasing_dropRepeats sorted (ascending_sort items)
  refine eq_of_increasing (increasing_sort (apart.of_perm moved)) increasing ?_
  -- Both lists hold the elements that come first among those that equal them.
  intro item
  calc item ∈ sort contents
    _ ↔ item ∈ hashTable hash items := ((sort_perm contents).trans moved).mem_iff
    _ ↔ firstEqual? item (hashTable hash items) = some item := mem_iff_firstEqual? apart item
    _ ↔ firstEqual? item items = some item := by
      rw [hashTable, firstEqual?_foldl_hashInsert hash item wellFormed, List.nil_append]
    _ ↔ firstEqual? item (dropRepeats (sort items)) = some item := by
      rw [firstEqual?_dropRepeats item sorted, firstEqual?_sort]
    _ ↔ item ∈ dropRepeats (sort items) := (mem_iff_firstEqual? increasing.apart item).symm

/-! ## Extremes -/

/-- A fold that keeps the better of two elements ends with an element that is as good as any. -/
theorem foldl_extreme (asGood : Value → Value → Prop) {better : Value → Value → Value}
    (refl : ∀ a, asGood a a) (trans : ∀ a b c, asGood a b → asGood b c → asGood a c)
    (choice : ∀ a b, better a b = a ∨ better a b = b)
    (bound : ∀ a b, asGood (better a b) a ∧ asGood (better a b) b) (first : Value) (rest : List Value) :
    rest.foldl better first ∈ first :: rest ∧ ∀ item ∈ first :: rest, asGood (rest.foldl better first) item := by
  -- The induction is on what is still to be seen, for every element kept so far.
  induction rest generalizing first with
  | nil => exact ⟨List.mem_cons_self, by simpa using refl first⟩
  | cons second rest ih =>
    obtain ⟨member, best⟩ := ih (better first second)
    obtain ⟨overFirst, overSecond⟩ := bound first second
    have overKept := best _ List.mem_cons_self
    rw [List.foldl_cons]
    constructor
    · rcases List.mem_cons.mp member with kept | later
      · -- The result is the element kept at the first step, which is one of the two.
        rw [kept]
        rcases choice first second with same | same <;> simp [same]
      · exact List.mem_cons_of_mem first (List.mem_cons_of_mem second later)
    · rintro item (_ | ⟨_, _ | ⟨_, later⟩⟩)
      · exact trans _ _ _ overKept overFirst
      · exact trans _ _ _ overKept overSecond
      · exact best item (List.mem_cons_of_mem _ later)

/-- The lesser of two values is one of them and does not come after either. -/
theorem min_spec (a b : Value) :
    (Ty.value.min a b = a ∨ Ty.value.min a b = b) ∧
      (compare (Ty.value.min a b) a).isLE = true ∧ (compare (Ty.value.min a b) b).isLE = true := by
  -- The verdict about the two values decides which is taken, and each of the three verdicts is checked.
  have swapped : compare a b = (compare b a).swap := Std.OrientedCmp.eq_swap
  have self (value : Value) : compare value value = .eq := Std.ReflCmp.compare_self
  cases order : compare b a <;> simp [Ty.min, Ty.compare?, order, swapped, self]

/-- The greater of two values is one of them and does not come before either. -/
theorem max_spec (a b : Value) :
    (Ty.value.max a b = a ∨ Ty.value.max a b = b) ∧
      (compare a (Ty.value.max a b)).isLE = true ∧ (compare b (Ty.value.max a b)).isLE = true := by
  -- The verdict about the two values decides which is taken, and each of the three verdicts is checked.
  have swapped : compare a b = (compare b a).swap := Std.OrientedCmp.eq_swap
  have self (value : Value) : compare value value = .eq := Std.ReflCmp.compare_self
  cases order : compare b a <;> simp [Ty.max, Ty.compare?, order, swapped, self]

/-- The first element of an ascending list does not come after any of them. -/
theorem Ascending.head_le {items : List Value} (ascending : Ascending items) {least : Value}
    (head : items.head? = some least) {item : Value} (found : item ∈ items) :
    (compare least item).isLE = true := by
  -- Another element stands behind the first one, and the first one is not after itself.
  obtain ⟨rest, rfl⟩ := List.head?_eq_some_iff.mp head
  rcases List.mem_cons.mp found with rfl | later
  · exact isLE_refl item
  · exact (List.pairwise_cons.mp ascending).1 item later

/-- The last element of an ascending list does not come before any of them. -/
theorem Ascending.le_getLast {items : List Value} (ascending : Ascending items) {greatest : Value}
    (last : items.getLast? = some greatest) {item : Value} (found : item ∈ items) :
    (compare item greatest).isLE = true := by
  -- Another element stands in front of the last one, and the last one is not before itself.
  obtain ⟨rest, rfl⟩ := List.getLast?_eq_some_iff.mp last
  rcases List.mem_append.mp found with earlier | final
  · exact (List.pairwise_append.mp ascending).2.2 item earlier greatest List.mem_cons_self
  · rw [List.mem_singleton.mp final]
    exact isLE_refl greatest

/-- Folding to the least element gives the first one of the sorted list, whatever the order of the list. -/
theorem foldl_min_beq {items : List Value} (wellFormed : ∀ item ∈ items, item.WellFormed) {first : Value}
    {rest : List Value} (moved : (first :: rest).Perm items) {least : Value}
    (head : (sort items).head? = some least) : (rest.foldl Ty.value.min first == least) = true := by
  obtain ⟨member, bound⟩ := foldl_extreme (fun a b => (compare a b).isLE = true) isLE_refl isLE_trans
    (fun a b => (min_spec a b).1) (fun a b => (min_spec a b).2) first rest
  have placed := moved.trans (sort_perm items).symm
  -- Neither of the two comes after the other.
  rw [beq_iff_compare (wellFormed _ (moved.mem_iff.mp member))]
  exact Std.OrientedCmp.isLE_antisymm (bound least (placed.mem_iff.mpr (List.mem_of_head? head)))
    ((ascending_sort items).head_le head (placed.mem_iff.mp member))

/-- Folding to the greatest element gives the last one of the sorted list, whatever the order of the list. -/
theorem foldl_max_beq {items : List Value} (wellFormed : ∀ item ∈ items, item.WellFormed) {first : Value}
    {rest : List Value} (moved : (first :: rest).Perm items) {greatest : Value}
    (last : (sort items).getLast? = some greatest) : (rest.foldl Ty.value.max first == greatest) = true := by
  -- The fold gives an element that none comes after, and the last one of the sorted list is another such element.
  obtain ⟨member, bound⟩ := foldl_extreme (fun a b => (compare b a).isLE = true) isLE_refl
    (fun a b c before after => isLE_trans c b a after before)
    (fun a b => (max_spec a b).1) (fun a b => (max_spec a b).2) first rest
  have placed := moved.trans (sort_perm items).symm
  rw [beq_iff_compare (wellFormed _ (moved.mem_iff.mp member))]
  exact Std.OrientedCmp.isLE_antisymm ((ascending_sort items).le_getLast last (placed.mem_iff.mp member))
    (bound greatest (placed.mem_iff.mpr (List.mem_of_getLast? last)))

/-! ## Agreement -/

/-- The ways to put a list of values in order agree on which elements are equal and on how they are ordered. -/
structure Agreement (items : List Value) : Prop where
  /-- Sorting keeps every element as often as it stands there. -/
  sorted_perm : (sort items).Perm items
  /-- The sorted list is in ascending order. -/
  sorted_ascending : Ascending (sort items)
  /-- A list in another order is equal once it is sorted. -/
  sorted_unordered : ∀ others : List Value, others.Perm items → (sort others == sort items) = true
  /-- Without repeats the sorted list is strictly ascending. -/
  repeats_increasing : Increasing (dropRepeats (sort items))
  /-- Without repeats the sorted list has no other elements than the list. -/
  repeats_subset : ∀ item ∈ dropRepeats (sort items), item ∈ items
  /-- Without repeats the sorted list has one element for all those that equal each other. -/
  repeats_once : ∀ item ∈ items, (dropRepeats (sort items)).countP (item == ·) = 1
  /-- The elements of a hash table, in whatever order it lists them, sort to the same list. -/
  table : ∀ (hash : List UInt8 → UInt64) (contents : List Value), contents.Perm (hashTable hash items) →
    sort contents = dropRepeats (sort items)
  /-- The distinct elements are the same list. -/
  distinct : distinct items = dropRepeats (sort items)
  /-- The least and the greatest element, in whatever order they are looked for, are the ends of the sorted list. -/
  extremes : ∀ (first : Value) (rest : List Value), (first :: rest).Perm items →
    ∃ least greatest, (sort items).head? = some least ∧ (sort items).getLast? = some greatest ∧
      (rest.foldl Ty.value.min first == least) = true ∧ (rest.foldl Ty.value.max first == greatest) = true

/-- Sorting, dropping repeats, hash tables and extremes agree on every list of values. -/
theorem sort_agreement (items : List Value) (wellFormed : ∀ item ∈ items, item.WellFormed) :
    Agreement items := by
  have sorted := wellFormed_sort wellFormed
  have increasing := increasing_dropRepeats sorted (ascending_sort items)
  refine {
    sorted_perm := sort_perm items
    sorted_ascending := ascending_sort items
    sorted_unordered := ?sorted_unordered
    repeats_increasing := increasing
    repeats_subset := ?repeats_subset
    repeats_once := ?repeats_once
    table := fun hash contents moved => sort_hashTable hash wellFormed moved
    distinct := ?distinct
    extremes := ?extremes }
  case sorted_unordered =>
    intro others moved
    exact sort_beq_of_perm (fun item found => wellFormed item (moved.mem_iff.mp found)) moved
  case repeats_subset =>
    intro item found
    exact (sort_perm items).mem_iff.mp ((dropRepeats_sublist _).subset found)
  case repeats_once =>
    intro item found
    refine countP_eq_one increasing.apart (wellFormed item found) ?_
    -- The element itself is there to be found before the repeats are dropped.
    rw [firstEqual?_dropRepeats item sorted, firstEqual?_sort, firstEqual?, List.find?_isSome]
    exact ⟨item, found, decide_eq_true Std.ReflCmp.compare_self⟩
  case distinct =>
    -- A table that tells no hashes apart looks at all its elements, and so does the set.
    let hash : List UInt8 → UInt64 := fun _ => 0
    rw [distinct_eq_sort_hashTable hash]
    exact sort_hashTable hash wellFormed (.refl _)
  case extremes =>
    intro first rest moved
    have nonempty : sort items ≠ [] := by
      intro empty
      have placed := moved.trans (sort_perm items).symm
      rw [empty] at placed
      exact List.cons_ne_nil first rest placed.eq_nil
    have head := List.head?_eq_some_head nonempty
    have last := List.getLast?_eq_some_getLast nonempty
    exact ⟨_, _, head, last, foldl_min_beq wellFormed moved head, foldl_max_beq wellFormed moved last⟩

/-- A list with both zeros, a NaN, an integer beside the float it equals, and a dict in two orders of its entries. -/
theorem sort_agreement_lookalikes :
    Agreement [.float Binary.nan, .dict [(.int 1, .null), (.bool true, .str "")], .float (Binary.zero false),
      .int 0, .float (Binary.zero true), .dict [(.bool true, .str ""), (.int 1, .null)], .int 0, .list []] :=
  sort_agreement _ (by decide)

end DynValue.Value
