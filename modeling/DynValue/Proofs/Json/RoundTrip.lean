import DynValue.Proofs.Json.Tree

/-! Which values have a JSON tree, and what is left of them when it is read back. -/

namespace DynValue.Value

/-- Whether a key cannot be the name of a member: a container, the absent value, an infinity or a NaN. -/
def isRefusedKey : Value → Bool
  | .null => true
  | .float number => !number.isFinite
  | .list _ => true
  | .tuple _ => true
  | .dict _ => true
  | _ => false

/-- No dict in the value has a key that is refused. -/
def KeysNamed (value : Value) : Prop :=
  ∀ part ∈ value.contents, ∀ entry ∈ part.entries, entry.1.isRefusedKey = false

/-- No dict in the value has two keys with the same text. -/
def NamesApart (value : Value) : Prop :=
  ∀ part ∈ value.contents, part.entries.Pairwise fun a b => Json.keyText a.1 ≠ Json.keyText b.1

/-- The names of every dict can be compared. -/
instance (value : Value) : Decidable value.NamesApart :=
  inferInstanceAs (Decidable (∀ part ∈ value.contents,
    part.entries.Pairwise fun a b => Json.keyText a.1 ≠ Json.keyText b.1))

/-- What holds of the contents of a dict holds of the dict and of the contents of its values, whatever its keys are. -/
theorem forall_contents_dict {claim : Value → Prop} {entries : Entries} :
    (∀ part ∈ (Value.dict entries).contents, claim part) ↔
      claim (.dict entries) ∧ ∀ entry ∈ entries, ∀ part ∈ entry.2.contents, claim part := by
  -- The contents leave the keys out, so that of an entry only the value counts.
  rw [contents, forall_inside, forall_children_dict]
  simp [contents]

/-- A key has a text exactly when it is not refused. -/
theorem exists_keyText_iff (key : Value) : (∃ name, Json.keyText key = .ok name) ↔ key.isRefusedKey = false := by
  -- A float has a text if it is finite, and for the other keys the kind decides.
  cases key with
  | float number => cases finite : number.isFinite <;> simp [Json.keyText, isRefusedKey, finite]
  | _ => simp [Json.keyText, isRefusedKey]

/-- A value has a JSON tree exactly when no dict in it has a key that is refused. -/
theorem exists_ofValue_iff (value : Value) : (∃ tree, Json.ofValue value = .ok tree) ↔ value.KeysNamed := by
  -- A container is written as soon as the traversal of what is in it succeeds.
  have mapped {α β : Type} {f : α → β} {result : Except JsonFault α} :
      (∃ b, result.map f = .ok b) ↔ ∃ a, result = .ok a := by
    cases result <;> simp [Except.map]
  unfold KeysNamed
  induction value using nestedInduction with
  | list items ih | tuple items ih =>
    rw [Json.ofValue, mapped, Json.ofValues_eq_mapM, exists_mapM_eq_ok_iff, forall₂_congr ih, contents, forall_inside]
    simp [entries, asDict?, children, contents]
  | dict entries ih =>
    rw [Json.ofValue, mapped, Json.ofEntries_eq_mapM, exists_mapM_eq_ok_iff, forall_contents_dict]
    refine Iff.trans (forall₂_congr fun entry member => ?_) forall₂_and
    exact Json.exists_ofEntry_iff.trans (and_congr (exists_keyText_iff entry.1) (ih entry member).2)
  | _ => simp [Json.ofValue, contents, inside, entries, asDict?]

/-- The text that a key becomes, a refused one staying as it is. -/
def jsonKey (key : Value) : Value :=
  match Json.keyText key with
  | .ok name => .str name
  | .error _ => key

mutual

/-- What JSON keeps of a value: tuples are lists, floats that are not finite are absent, and keys are their texts. -/
def jsonForm : Value → Value
  | .float number => if number.isFinite then .float number else .null
  | .list items => .list (jsonFormItems items)
  | .tuple items => .list (jsonFormItems items)
  | .dict entries => .dict (jsonFormEntries entries)
  | other => other

/-- What JSON keeps of elements. -/
def jsonFormItems : List Value → List Value
  | [] => []
  | item :: rest => jsonForm item :: jsonFormItems rest

/-- What JSON keeps of entries. -/
def jsonFormEntries : List (Value × Value) → List (Value × Value)
  | [] => []
  | (key, value) :: rest => (jsonKey key, jsonForm value) :: jsonFormEntries rest

end

/-- What JSON keeps of an entry. -/
def jsonFormEntry (entry : Value × Value) : Value × Value :=
  (entry.1.jsonKey, entry.2.jsonForm)

/-- The items of a JSON form are the JSON forms of the items. -/
theorem jsonFormItems_eq_map (items : List Value) : jsonFormItems items = items.map jsonForm := by
  -- The recursion on the list of items is a map.
  induction items with
  | nil => rfl
  | cons item rest ih => rw [jsonFormItems, ih, List.map_cons]

/-- The entries of a JSON form are the JSON forms of the entries. -/
theorem jsonFormEntries_eq_map (entries : Entries) : jsonFormEntries entries = entries.map jsonFormEntry := by
  -- The recursion on the list of entries is a map.
  induction entries with
  | nil => rfl
  | cons entry rest ih => rw [jsonFormEntries, ih, List.map_cons, jsonFormEntry]

/-- The elements of a sequence are written as what JSON keeps of them. -/
theorem toTrees_of_written {items : List Value} {trees : List Json} (written : Json.ofValues items = .ok trees)
    (each : ∀ item ∈ items, ∀ tree, Json.ofValue item = .ok tree → tree.toTree = item.jsonForm.toTree) :
    Json.toTrees trees = toTrees (jsonFormItems items) := by
  -- Every element goes with the tree that it was written as.
  rw [Json.ofValues_eq_mapM, mapM_eq_ok_iff] at written
  have paired := (List.forall₂_and_left _ _).mpr ⟨each, written⟩
  rw [Json.toTrees_eq_map, toTrees_eq_map, jsonFormItems_eq_map, List.map_map]
  exact map_eq_map_iff_forall₂.mpr (paired.imp fun item tree pair => pair.1 tree pair.2).flip

/-- The members of an object have different names when no two keys have the same text. -/
theorem pairwise_of_written {entries : Entries} {members : List (String × Json)}
    (written : List.Forall₂ (fun entry member => Json.ofEntry entry = .ok member) entries members)
    (apart : entries.Pairwise fun a b => Json.keyText a.1 ≠ Json.keyText b.1) :
    members.Pairwise fun a b => a.1 ≠ b.1 := by
  -- The names of the members are the texts of the keys in the same order.
  have named : entries.map (fun entry => Json.keyText entry.1) = members.map fun member => .ok member.1 :=
    map_eq_map_iff_forall₂.mpr (written.imp fun entry member found => (Json.ofEntry_eq_ok_iff.mp found).1)
  have texts : (entries.map fun entry => Json.keyText entry.1).Pairwise (· ≠ ·) := List.pairwise_map.mpr apart
  rw [named, List.pairwise_map] at texts
  exact texts.imp fun different same => different (congrArg Except.ok same)

/-- The members of an object are written as what JSON keeps of the entries. -/
theorem toTreePairs_of_written {entries : Entries} {members : List (String × Json)}
    (written : List.Forall₂ (fun entry member => Json.ofEntry entry = .ok member) entries members)
    (each : ∀ entry ∈ entries, ∀ tree, Json.ofValue entry.2 = .ok tree → tree.toTree = entry.2.jsonForm.toTree) :
    Json.toTreePairs members = toTreePairs (jsonFormEntries entries) := by
  have paired := (List.forall₂_and_left _ _).mpr ⟨each, written⟩
  rw [Json.toTreePairs_eq_map, toTreePairs_eq_map, jsonFormEntries_eq_map, List.map_map]
  refine map_eq_map_iff_forall₂.mpr (paired.imp fun entry member pair => ?_).flip
  obtain ⟨name, tree⟩ := Json.ofEntry_eq_ok_iff.mp pair.2
  -- The name of the member is the text that the key becomes.
  have key : entry.1.jsonKey = .str member.1 := by rw [jsonKey, name]
  exact Prod.ext (by simp [jsonFormEntry, entryTree, key, toTree]) (pair.1 _ tree)

/-- The tree that a value is written as is that of what JSON keeps of it. -/
theorem toTree_of_written {value : Value} {tree : Json} (written : Json.ofValue value = .ok tree)
    (apart : value.NamesApart) : tree.toTree = value.jsonForm.toTree := by
  induction value using nestedInduction generalizing tree with
  | float number =>
    obtain rfl := Except.ok.inj written
    -- A float without a place in JSON is written as the absent value, which the JSON form has there.
    cases finite : number.isFinite <;> simp [jsonForm, finite, Json.toTree, toTree]
  | list items ih | tuple items ih =>
    obtain ⟨trees, found, rfl⟩ := Tree.exists_of_map_ok written
    obtain ⟨_, inner⟩ := forall_inside.mp apart
    exact congrArg Tree.sequence (toTrees_of_written found fun item member tree here =>
      ih item member here (inner item member))
  | dict entries ih =>
    obtain ⟨members, found, rfl⟩ := Tree.exists_of_map_ok written
    obtain ⟨names, inner⟩ := forall_contents_dict.mp apart
    rw [Json.ofEntries_eq_mapM, mapM_eq_ok_iff] at found
    -- No member is put in the place of another one.
    rw [Json.foldl_insertMember (pairwise_of_written found names)]
    exact congrArg Tree.map (toTreePairs_of_written found fun entry member tree here =>
      (ih entry member).2 here (inner entry member))
  | _ =>
    obtain rfl := Except.ok.inj written
    rfl

/-- What JSON keeps of a value has no tuples. -/
theorem listify_jsonForm {value : Value} (named : value.KeysNamed) : value.jsonForm.listify = value.jsonForm := by
  induction value using nestedInduction with
  | float number => cases finite : number.isFinite <;> simp [jsonForm, finite, listify]
  | list items ih | tuple items ih =>
    obtain ⟨_, inner⟩ := forall_inside.mp named
    rw [jsonForm, listify, listifyItems_eq_map, jsonFormItems_eq_map, List.map_map]
    exact congrArg Value.list (List.map_congr_left fun item member => ih item member (inner item member))
  | dict entries ih =>
    obtain ⟨keys, inner⟩ := forall_contents_dict.mp named
    rw [jsonForm, listify, listifyEntries_eq_map, jsonFormEntries_eq_map, List.map_map]
    refine congrArg Value.dict (List.map_congr_left fun entry member => Prod.ext ?_ ?_)
    · -- The key has become a text, in which there is nothing to change.
      obtain ⟨name, key⟩ := (exists_keyText_iff entry.1).mpr (keys entry member)
      simp [jsonFormEntry, listifyEntry, jsonKey, key, listify]
    · exact (ih entry member).2 (inner entry member)
  | _ => rfl

/-- What JSON keeps of a value is well formed when no two keys of a dict have the same text. -/
theorem wellFormed_jsonForm {value : Value} (named : value.KeysNamed) (apart : value.NamesApart) :
    value.jsonForm.WellFormed := by
  induction value using nestedInduction with
  | null => exact .null
  | bool truth => exact .bool truth
  | int number => exact .int number
  | float number =>
    rw [jsonForm]
    split
    · exact .float number
    · exact .null
  | str text => exact .str text
  | list items ih | tuple items ih =>
    obtain ⟨_, named⟩ := forall_inside.mp named
    obtain ⟨_, apart⟩ := forall_inside.mp apart
    rw [jsonForm, jsonFormItems_eq_map, wellFormed_list_iff, List.forall_mem_map]
    exact fun item member => ih item member (named item member) (apart item member)
  | dict entries ih =>
    obtain ⟨keys, named⟩ := forall_contents_dict.mp named
    obtain ⟨names, apart⟩ := forall_contents_dict.mp apart
    -- Each key has a name, which its JSON form is the text of.
    have texts (entry : Value × Value) (member : entry ∈ entries) :
        ∃ name, Json.keyText entry.1 = .ok name ∧ entry.1.jsonKey = .str name := by
      obtain ⟨name, key⟩ := (exists_keyText_iff entry.1).mpr (keys entry member)
      exact ⟨name, key, by rw [jsonKey, key]⟩
    rw [jsonForm, jsonFormEntries_eq_map, wellFormed_dict_iff, List.forall_mem_map]
    constructor
    · -- Texts are equal only when they are the same.
      refine List.pairwise_map.mpr (names.imp_of_mem fun {a b} memberA memberB different => ?_)
      obtain ⟨nameA, textA, keyA⟩ := texts a memberA
      obtain ⟨nameB, textB, keyB⟩ := texts b memberB
      rw [textA, textB, Ne, Except.ok.injEq] at different
      simp only [jsonFormEntry, keyA, keyB, str_beq, isText]
      exact beq_false_of_ne different
    · intro entry member
      -- A key becomes a text, which has no dict in it.
      obtain ⟨name, _, key⟩ := texts entry member
      refine ⟨?_, (ih entry member).2 (named entry member) (apart entry member)⟩
      rw [jsonFormEntry, key]
      exact .str name

/-- A value that is written comes back as what JSON keeps of it, in whatever order objects list their members. -/
theorem toValue_of_alike {value : Value} {tree other : Json} (written : Json.ofValue value = .ok tree)
    (apart : value.NamesApart) (alike : tree.Alike other) : (other.toValue == value.jsonForm) = true := by
  have named := (exists_ofValue_iff value).mp ⟨tree, written⟩
  have bare := listify_jsonForm named
  rw [Json.Alike, toTree_of_written written apart] at alike
  have whole := wellFormed_jsonForm named apart
  -- Both are read as trees of the data model, in which the order of entries does not count.
  obtain ⟨back, read, form⟩ := readsAs_of_alike (bare.symm ▸ whole) alike
  rw [Json.toTree_reads, Except.ok.injEq] at read
  rw [read, beq_iff_canonical (Tree.wellFormed_toValue (read ▸ Json.toTree_reads other)), form, bare]

/-- Whether JSON can tell a value, whatever is inside of it: no tuple, no infinity or NaN, and all keys are texts. -/
def isJson : Value → Bool
  | .float number => number.isFinite
  | .tuple _ => false
  | .dict entries => entries.all fun entry => entry.1.kind = .str
  | _ => true

/-- The keys of a dict that JSON can tell are texts. -/
theorem exists_text_of_isJson {part : Value} (told : part.isJson = true) {entry : Value × Value}
    (member : entry ∈ part.entries) : ∃ text, entry.1 = .str text := by
  -- Only a dict has entries, and its keys were tested for being texts.
  cases part with
  | dict entries =>
    have kind := of_decide_eq_true (List.all_eq_true.mp told entry member)
    cases key : entry.1 <;> simp [key, Value.kind] at kind
    exact ⟨_, rfl⟩
  | _ => cases member

/-- JSON keeps all of a value whose contents it can tell. -/
theorem jsonForm_of_isJson {value : Value} (told : ∀ part ∈ value.contents, part.isJson = true) :
    value.jsonForm = value := by
  -- Each value that JSON cannot tell is excluded where it stands, and around it nothing changes.
  induction value using nestedInduction with
  | float number =>
    have finite : number.isFinite = true := (forall_inside.mp told).1
    rw [jsonForm, if_pos finite]
  | list items ih =>
    obtain ⟨_, inner⟩ := forall_inside.mp told
    have each : items.map jsonForm = items.map id :=
      List.map_congr_left fun item member => ih item member (inner item member)
    rw [jsonForm, jsonFormItems_eq_map, each, List.map_id]
  | tuple items ih => exact absurd (forall_inside.mp told).1 (by simp [isJson])
  | dict entries ih =>
    obtain ⟨outer, inner⟩ := forall_contents_dict.mp told
    have each : entries.map jsonFormEntry = entries.map id := by
      refine List.map_congr_left fun entry member => Prod.ext ?_ ((ih entry member).2 (inner entry member))
      -- A key that is a text is its own name.
      obtain ⟨text, key⟩ := exists_text_of_isJson outer member
      exact (congrArg jsonKey key).trans key.symm
    rw [jsonForm, jsonFormEntries_eq_map, each, List.map_id]
  | _ => rfl

/-- Different texts as keys have different texts. -/
theorem namesApart_of_isJson {value : Value} (whole : value.WellFormed)
    (told : ∀ part ∈ value.contents, part.isJson = true) : value.NamesApart := by
  intro part member
  -- The keys of a dict are texts that are not equal, and the text of a text is the text itself.
  have unique := (wellFormed_iff_parts value).mp whole part (mem_parts_of_mem_contents part member)
  refine unique.imp_of_mem fun {a b} memberA memberB different same => ?_
  obtain ⟨textA, keyA⟩ := exists_text_of_isJson (told part member) memberA
  obtain ⟨textB, keyB⟩ := exists_text_of_isJson (told part member) memberB
  rw [keyA, keyB, Json.keyText, Json.keyText, Except.ok.injEq] at same
  rw [keyA, keyB, same, beq_refl_of_wellFormed (.str textB)] at different
  contradiction

/--
Writing a value as a JSON tree fails exactly when a dict in it has a key that is refused.

If it succeeds and no dict has two keys with the same text, reading the tree back gives what JSON keeps of the value, in
whatever order objects list their members. A value that JSON can tell comes back as it was. All that is written goes through
the tree that the value is serialized as.
-/
theorem json_roundTrip (value : Value) :
    ((∃ fault, Json.ofValue value = .error fault) ↔
      ∃ part ∈ value.contents, ∃ entry ∈ part.entries, entry.1.isRefusedKey = true) ∧
      (∀ tree, Json.ofValue value = .ok tree → value.NamesApart →
        tree.Alike tree ∧ ∀ other, tree.Alike other → (other.toValue == value.jsonForm) = true) ∧
      (value.WellFormed → (∀ part ∈ value.contents, part.isJson = true) →
        ∃ tree, Json.ofValue value = .ok tree ∧ tree.Alike tree ∧
          ∀ other, tree.Alike other → (other.toValue == value) = true) ∧
      (Json.ofTree? value.toTree).run = some (Json.ofValue value) := by
  -- The tree that is written reads back as the JSON form, and so does every tree alike.
  have back (tree : Json) (written : Json.ofValue value = .ok tree) (apart : value.NamesApart) :
      tree.Alike tree ∧ ∀ other, tree.Alike other → (other.toValue == value.jsonForm) = true := by
    refine ⟨?_, fun other => toValue_of_alike written apart⟩
    rw [Json.Alike, toTree_of_written written apart]
    exact alike_of_canonical rfl
  refine ⟨?_, back, ?_, Json.ofTree?_toTree value⟩
  · -- Writing fails when it does not succeed.
    have fails : (∃ fault, Json.ofValue value = .error fault) ↔ ¬∃ tree, Json.ofValue value = .ok tree := by
      cases Json.ofValue value <;> simp
    rw [fails, exists_ofValue_iff, KeysNamed]
    simp
  · intro whole told
    -- The keys that JSON can tell are texts, and no text is refused as a name.
    have named : value.KeysNamed := by
      intro part member entry inside
      obtain ⟨text, key⟩ := exists_text_of_isJson (told part member) inside
      rw [key]
      rfl
    obtain ⟨tree, written⟩ := (exists_ofValue_iff value).mpr named
    have kept := back tree written (namesApart_of_isJson whole told)
    rw [jsonForm_of_isJson told] at kept
    exact ⟨tree, written, kept⟩

/-- A tuple, a NaN and keys of three kinds come back as a list, as absent and as texts. -/
theorem json_roundTrip_keys :
    ∃ tree, Json.ofValue (.dict [(.int (-1), .tuple [.int 1]), (.bool true, .float Binary.nan),
        (.str "1", .null)]) = .ok tree ∧
      (tree.toValue == .dict [(.str "-1", .list [.int 1]), (.str "true", .null), (.str "1", .null)]) = true := by
  -- Three keys of different kinds have three different names.
  obtain ⟨failure, back, _⟩ :=
    json_roundTrip (.dict [(.int (-1), .tuple [.int 1]), (.bool true, .float Binary.nan), (.str "1", .null)])
  obtain ⟨same, reads⟩ := back _ rfl (by decide)
  exact ⟨_, rfl, reads _ same⟩

end DynValue.Value
