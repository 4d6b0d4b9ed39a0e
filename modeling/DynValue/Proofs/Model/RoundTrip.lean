import DynValue.Proofs.Model.Alike
import DynValue.Proofs.Word.Range

/-!
Reading a tree undoes writing it, up to tuples, which come back as lists.

Since maps have no order, this holds of every tree that lists the entries of its maps in some order.
-/

namespace DynValue

/-- Integers of values are read back as they are. -/
theorem Value.ofInteger_toInt (number : Word64) : ofInteger number.toInt = .int number := by
  -- The integer of a word is in the range of its type.
  rw [ofInteger, Word.ofInt?, if_pos number.toInt_inRange, Word.ofInt_toInt]

/-- Pairs with different keys are inserted one behind the other. -/
theorem Entries.ofPairs_of_wellFormed {pairs : Entries} (dict : (Value.dict pairs).WellFormed) :
    ofPairs pairs = pairs := by
  -- What has been inserted so far stands in front, and the keys of the whole are different.
  suffices every : ∀ front : Entries, (Value.dict (front ++ pairs)).WellFormed →
      pairs.foldl (fun entries pair => insert entries pair.1 pair.2) front = front ++ pairs from every [] dict
  clear dict
  induction pairs with
  | nil => exact fun front _ => (List.append_nil front).symm
  | cons pair rest ih =>
    intro front dict
    obtain ⟨unique, members⟩ := Value.wellFormed_dict_iff.mp dict
    -- The key differs from all that were inserted before it.
    have missing : find? front pair.1 = none := by
      rw [find?_eq_none_iff]
      intro entry member
      rw [Value.beq_comm_of_wellFormed (members pair (by simp)).1 (members entry (by simp [member])).1]
      exact (List.pairwise_append.mp unique).2.2 entry member pair List.mem_cons_self
    rw [List.foldl_cons, insert_of_missing missing, ih _ (by simpa using dict)]
    simp

namespace Value

mutual

/-- The value with every tuple in it made a list, at every depth and in keys as well. -/
def listify : Value → Value
  | .list items => .list (listifyItems items)
  | .tuple items => .list (listifyItems items)
  | .dict entries => .dict (listifyEntries entries)
  | other => other

/-- The elements with every tuple in them made a list. -/
def listifyItems : List Value → List Value
  | [] => []
  | item :: rest => listify item :: listifyItems rest

/-- The entries with every tuple in their keys and values made a list. -/
def listifyEntries : List (Value × Value) → List (Value × Value)
  | [] => []
  | (key, value) :: rest => (listify key, listify value) :: listifyEntries rest

end

/-- An entry with every tuple in its key and value made a list. -/
def listifyEntry (entry : Value × Value) : Value × Value :=
  (entry.1.listify, entry.2.listify)

/-- Elements are made lists one by one. -/
theorem listifyItems_eq_map (items : List Value) : listifyItems items = items.map listify := by
  -- The recursion on the list of elements is a map.
  induction items with
  | nil => rfl
  | cons item rest ih => simp [listifyItems, ih]

/-- Entries are made lists one by one. -/
theorem listifyEntries_eq_map (entries : Entries) : listifyEntries entries = entries.map listifyEntry := by
  -- The recursion on the list of entries is a map.
  induction entries with
  | nil => rfl
  | cons entry rest ih => simp [listifyEntries, listifyEntry, ih]

/-- Where there are no tuples any more, nothing is left to be made a list. -/
theorem listify_listify (value : Value) : value.listify.listify = value.listify := by
  -- A tuple has become a list by the first time, so that the two cases end in the same way.
  induction value using nestedInduction with
  | list items ih | tuple items ih =>
    simp only [listify, listifyItems_eq_map, List.map_map]
    exact congrArg Value.list (List.map_congr_left ih)
  | dict entries ih =>
    simp only [listify, listifyEntries_eq_map, List.map_map]
    exact congrArg Value.dict (List.map_congr_left fun entry member => Prod.ext (ih entry member).1 (ih entry member).2)
  | _ => rfl

/-- A value without tuples stays as it is. -/
theorem listify_of_no_tuple {value : Value} (tupleFree : ∀ part ∈ value.parts, part.kind ≠ .tuple) :
    value.listify = value := by
  -- The parts have no tuple either, so that each of them stays, and a tuple itself is excluded.
  induction value using nestedInduction with
  | list items ih =>
    obtain ⟨_, inner⟩ := forall_inside.mp tupleFree
    have each : items.map listify = items.map id :=
      List.map_congr_left fun item member => ih item member (inner item member)
    rw [listify, listifyItems_eq_map, each, List.map_id]
  | tuple items ih => exact absurd rfl (forall_inside.mp tupleFree).1
  | dict entries ih =>
    have inner := forall_children_dict.mp (forall_inside.mp tupleFree).2
    have each : entries.map listifyEntry = entries.map id := by
      refine List.map_congr_left fun entry member => Prod.ext ?_ ?_
      · exact (ih entry member).1 ((inner entry member).1 rfl)
      · exact (ih entry member).2 (inner entry member).2
    rw [listify, listifyEntries_eq_map, each, List.map_id]
  | _ => rfl

/-- Values with the same canonical form have it as well when their tuples are made lists. -/
theorem canonical_listify_congr {a b : Value} (same : canonical a = canonical b) :
    canonical a.listify = canonical b.listify := by
  -- It is enough to compare a value with its canonical form.
  suffices every : ∀ value : Value, canonical value.canonical.listify = canonical value.listify by
    rw [← every a, same, every b]
  clear same
  intro value
  induction value using nestedInduction with
  | list items ih =>
    simp only [canonical_list, listify, listifyItems_eq_map, List.map_map]
    exact congrArg Value.list (List.map_congr_left ih)
  | tuple items ih =>
    simp only [canonical_tuple, canonical_list, listify, listifyItems_eq_map, List.map_map]
    exact congrArg Value.list (List.map_congr_left ih)
  | dict entries ih =>
    rw [canonical, listify, listify, canonical_dict_eq_iff, listifyEntries_eq_map, listifyEntries_eq_map,
      canonicalEntries_eq_map]
    -- The order of the entries is the only thing in which the two sides differ.
    have sorted := ((List.mergeSort_perm (entries.map canonicalEntry) entryLE).map listifyEntry).map canonicalEntry
    refine sorted.trans (.of_eq ?_)
    simp only [List.map_map]
    exact List.map_congr_left fun entry member => Prod.ext (ih entry member).1 (ih entry member).2
  | _ => rfl

/-- No dict in a value has two different keys that become equal when tuples are made lists. -/
def Separable (value : Value) : Prop :=
  ∀ part ∈ value.parts, ∀ a ∈ part.entries, ∀ b ∈ part.entries,
    (a.1.listify == b.1.listify) = true → (a.1 == b.1) = true

/-- The keys of every dict can be compared. -/
instance (value : Value) : Decidable value.Separable :=
  inferInstanceAs (Decidable (∀ part ∈ value.parts, ∀ a ∈ part.entries, ∀ b ∈ part.entries,
    (a.1.listify == b.1.listify) = true → (a.1 == b.1) = true))

/-- Making tuples lists keeps a value well formed as long as keys stay different. -/
theorem wellFormed_listify {value : Value} (whole : value.WellFormed) (apart : value.Separable) :
    value.listify.WellFormed := by
  induction value using nestedInduction with
  | list items ih | tuple items ih =>
    obtain ⟨_, members⟩ := wellFormed_iff_children.mp whole
    obtain ⟨_, inner⟩ := forall_inside.mp apart
    rw [listify, listifyItems_eq_map]
    exact .list (List.forall_mem_map.mpr fun item member => ih item member (members item member) (inner item member))
  | dict entries ih =>
    obtain ⟨unique, members⟩ := wellFormed_dict_iff.mp whole
    obtain ⟨keys, inner⟩ := forall_inside.mp apart
    rw [forall_children_dict] at inner
    rw [listify, listifyEntries_eq_map, wellFormed_dict_iff]
    constructor
    · -- Keys that became equal would have been equal before.
      refine List.pairwise_map.mpr (unique.imp_of_mem fun {a b} memberA memberB different => ?_)
      rw [Bool.eq_false_iff] at different ⊢
      exact fun equal => different (keys a memberA b memberB equal)
    · -- Keys and values are made lists with nothing else changed in them.
      refine List.forall_mem_map.mpr fun entry member => ⟨?_, ?_⟩
      · exact (ih entry member).1 (members entry member).1 ((inner entry member).1 rfl)
      · exact (ih entry member).2 (members entry member).2 (inner entry member).2
  | _ => exact whole

/-- Elements that are each related to a third one give a sequence in between. -/
theorem exists_between {α β γ : Type} {first : β → γ → Prop} {second : α → γ → Prop} {xs : List α} {ys : List β}
    (each : List.Forall₂ (fun x y => ∃ z, first y z ∧ second x z) xs ys) :
    ∃ zs, List.Forall₂ first ys zs ∧ List.Forall₂ second xs zs := by
  -- The elements in between are chosen one by one.
  induction each with
  | nil => exact ⟨[], .nil, .nil⟩
  | cons related _ ih =>
    obtain ⟨z, left, right⟩ := related
    obtain ⟨zs, lefts, rights⟩ := ih
    exact ⟨z :: zs, .cons left lefts, .cons right rights⟩

/-- A tree is read as a value with the canonical form of a given one. -/
def ReadsAs (tree : Tree) (value : Value) : Prop :=
  ∃ back, tree.toValue = .ok back ∧ canonical back = canonical value

/-- A sequence of trees is read as the list of what its trees are read as. -/
theorem readsAs_sequence {items : List Value} {trees : List Tree}
    (alike : List.Forall₂ Tree.Alike (toTrees items) trees)
    (each : ∀ item ∈ items, ∀ tree, item.toTree.Alike tree → ReadsAs tree item.listify) :
    ReadsAs (.sequence trees) (.list (listifyItems items)) := by
  rw [toTrees_eq_map, List.forall₂_map_left_iff] at alike
  have paired := (List.forall₂_and_left _ _).mpr ⟨each, alike⟩
  -- The values that the trees are read as, in order.
  obtain ⟨backs, read, forms⟩ := exists_between (paired.imp fun item tree pair => pair.1 tree pair.2)
  refine ⟨.list backs, ?_, ?_⟩
  · rw [Tree.toValue_sequence, Tree.toValues_eq_ok_iff.mpr read]
    rfl
  · rw [canonical_list, canonical_list, listifyItems_eq_map, List.map_map]
    exact congrArg Value.list (map_eq_map_iff_forall₂.mpr forms.flip)

/-- A map of trees is read as the dict of what its trees are read as, in whatever order it lists its entries. -/
theorem readsAs_map {entries : Entries} {moved trees : List (Tree × Tree)}
    (whole : (Value.dict (listifyEntries entries)).WellFormed)
    (alike : List.Forall₂ Tree.AlikeEntries (toTreePairs entries) moved) (order : moved.Perm trees)
    (each : ∀ entry ∈ entries, (∀ tree, entry.1.toTree.Alike tree → ReadsAs tree entry.1.listify) ∧
      ∀ tree, entry.2.toTree.Alike tree → ReadsAs tree entry.2.listify) :
    ReadsAs (.map trees) (.dict (listifyEntries entries)) := by
  rw [toTreePairs_eq_map, List.forall₂_map_left_iff] at alike
  have paired := (List.forall₂_and_left _ _).mpr ⟨each, alike⟩
  have found : List.Forall₂ (fun entry tree => ∃ pair : Value × Value,
      (tree.1.toValue = .ok pair.1 ∧ tree.2.toValue = .ok pair.2) ∧
        canonicalEntry pair = canonicalEntry (listifyEntry entry)) entries moved := by
    refine paired.imp fun entry tree pair => ?_
    obtain ⟨⟨readsKey, readsContent⟩, both⟩ := pair
    obtain ⟨keys, contents⟩ := both
    obtain ⟨key, keyRead, keyForm⟩ := readsKey _ keys
    obtain ⟨content, contentRead, contentForm⟩ := readsContent _ contents
    exact ⟨(key, content), ⟨keyRead, contentRead⟩, Prod.ext keyForm contentForm⟩
  obtain ⟨pairs, read, forms⟩ := exists_between found
  -- The pairs come in the order in which the map lists its entries.
  obtain ⟨backs, readInOrder, reordered⟩ := List.perm_comp_forall₂ order.symm read
  have same : canonical (.dict backs) = canonical (.dict (listifyEntries entries)) := by
    rw [canonical_dict_eq_iff, listifyEntries_eq_map, List.map_map]
    exact (reordered.map canonicalEntry).trans (.of_eq (map_eq_map_iff_forall₂.mpr forms.flip))
  -- Their keys are different, so that each of them is inserted as a new one.
  have inserted := Entries.ofPairs_of_wellFormed (wellFormed_of_canonical whole same.symm)
  refine ⟨.dict backs, ?_, same⟩
  rw [Tree.toValue_map, Tree.toPairs_eq_ok_iff.mpr readInOrder]
  exact congrArg (fun entries => Except.ok (Value.dict entries)) inserted

/-- A tree that is like the one of a value is read as the value with its tuples made lists. -/
theorem readsAs_of_alike {value : Value} {tree : Tree} (whole : value.listify.WellFormed)
    (alike : value.toTree.Alike tree) : ReadsAs tree value.listify := by
  induction value using nestedInduction generalizing tree with
  | list items ih | tuple items ih =>
    -- Both are written as sequences, and a tree that is alike is a sequence of trees that are.
    rw [listify, listifyItems_eq_map, wellFormed_list_iff, List.forall_mem_map] at whole
    rw [toTree] at alike
    cases alike with
    | leaf bare => contradiction
    | sequence each => exact readsAs_sequence each fun item member tree => ih item member (whole item member)
  | dict entries ih =>
    -- The whole is needed to read the map, its members to read the keys and values.
    have members := whole
    rw [listify, listifyEntries_eq_map, wellFormed_dict_iff, List.forall_mem_map] at members
    rw [toTree] at alike
    cases alike with
    | leaf bare => contradiction
    | map each order =>
      exact readsAs_map whole each order fun entry member =>
        ⟨fun tree => (ih entry member).1 (members.2 entry member).1,
          fun tree => (ih entry member).2 (members.2 entry member).2⟩
  | int number =>
    rw [toTree] at alike
    cases alike
    -- An integer is read back because it is in the range of words.
    exact ⟨.int number, congrArg Except.ok (ofInteger_toInt number), rfl⟩
  | _ =>
    rw [toTree] at alike
    cases alike
    exact ⟨_, rfl, rfl⟩

/--
Reading undoes writing, except that tuples come back as lists.

It succeeds in whatever order maps list their entries, it gives back a value without tuples, and what it gives does not
change when it is written and read once more.
-/
theorem toValue_toTree (value : Value) (whole : value.WellFormed) (apart : value.Separable) :
    value.toTree.Alike value.toTree ∧
      ∀ tree, value.toTree.Alike tree → ∃ back, tree.toValue = .ok back ∧
        (back == value.listify) = true ∧
        ((∀ part ∈ value.parts, part.kind ≠ .tuple) → (back == value) = true) ∧
        ∀ other, back.toTree.Alike other → ∃ again, other.toValue = .ok again ∧ (again == back) = true := by
  refine ⟨alike_of_canonical rfl, ?_⟩
  intro tree alike
  have listified := wellFormed_listify whole apart
  -- Forms decide equality, because all that is read is well formed.
  obtain ⟨back, read, form⟩ := readsAs_of_alike listified alike
  have backWhole := Tree.wellFormed_toValue read
  have equal : (back == value.listify) = true := (beq_iff_canonical backWhole _).mpr form
  refine ⟨back, read, equal, ?_, ?_⟩
  · intro tupleFree
    rwa [listify_of_no_tuple tupleFree] at equal
  · intro other alikeBack
    -- What came back has no tuples left that could be made lists.
    have stays : canonical back.listify = canonical back := by
      rw [canonical_listify_congr form, listify_listify, form]
    obtain ⟨again, readAgain, formAgain⟩ :=
      readsAs_of_alike (wellFormed_of_canonical backWhole stays.symm) alikeBack
    refine ⟨again, readAgain, ?_⟩
    rw [beq_iff_canonical (Tree.wellFormed_toValue readAgain), formAgain, stays]

/-- A dict with a tuple among its keys next to a text, a NaN and a dict that is a key itself. -/
theorem toValue_toTree_keys :
    ∃ back, (Value.dict [(.tuple [.int 1, .tuple []], .tuple [.null]), (.str "a", .float Binary.nan),
        (.dict [(.bool true, .null), (.int 1, .null)], .list [])]).toTree.toValue = .ok back ∧
      (back == .dict [(.list [.int 1, .list []], .list [.null]), (.str "a", .float Binary.nan),
        (.dict [(.bool true, .null), (.int 1, .null)], .list [])]) = true := by
  -- The tree of the dict itself is one of the trees that list its entries in some order.
  obtain ⟨written, reads⟩ := toValue_toTree (.dict [(.tuple [.int 1, .tuple []], .tuple [.null]),
    (.str "a", .float Binary.nan), (.dict [(.bool true, .null), (.int 1, .null)], .list [])]) (by decide) (by decide)
  obtain ⟨back, read, equal, _⟩ := reads _ written
  exact ⟨back, read, equal⟩

end Value

end DynValue
