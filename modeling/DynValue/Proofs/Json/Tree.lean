import DynValue.Json.Write
import DynValue.Proofs.Model.RoundTrip

/-!
JSON trees as trees of the data model, and values written as JSON trees part by part.

A JSON tree has the value of its tree of the data model, so that what holds of reading the one holds of reading the other. A
value is written as the JSON tree of the tree that it is serialized as.
-/

namespace DynValue.Json

mutual

/-- The tree of the data model that a JSON tree is read as. -/
def toTree : Json → Tree
  | .null => .unit
  | .bool truth => .bool truth
  | .int number => .int .int64 number
  | .float number => .double number
  | .text content => .text content
  | .array items => .sequence (toTrees items)
  | .object members => .map (toTreePairs members)

/-- The trees of an array. -/
def toTrees : List Json → List Tree
  | [] => []
  | item :: rest => toTree item :: toTrees rest

/-- The trees of members. -/
def toTreePairs : List (String × Json) → List (Tree × Tree)
  | [] => []
  | (name, tree) :: rest => (.text name, toTree tree) :: toTreePairs rest

end

mutual

/-- A JSON tree has the value of its tree of the data model. -/
theorem toTree_reads (tree : Json) : tree.toTree.toValue = .ok tree.toValue := by
  -- An integer of a JSON tree fits into a word of values, and the other cases go through the parts.
  cases tree with
  | int number => exact congrArg Except.ok (Value.ofInteger_toInt number)
  | array items =>
    rw [toTree, Tree.toValue_sequence, toTrees_read items]
    rfl
  | object members =>
    rw [toTree, Tree.toValue_map, toTreePairs_read members]
    rfl
  | _ => rfl

/-- The trees of an array have the values of its items. -/
theorem toTrees_read (items : List Json) : Tree.toValues (toTrees items) = .ok (toValues items) := by
  -- The trees are read from left to right, and none of them is refused.
  cases items with
  | nil => rfl
  | cons item rest =>
    rw [toTrees, Tree.toValues, toTree_reads item, toTrees_read rest]
    rfl

/-- The trees of members have their names and the values of their trees. -/
theorem toTreePairs_read (members : List (String × Json)) :
    Tree.toPairs (toTreePairs members) = .ok (toPairs members) := by
  -- A name is read as the text that it is.
  match members with
  | [] => rfl
  | (name, tree) :: rest =>
    rw [toTreePairs, Tree.toPairs, toTree_reads tree, toTreePairs_read rest]
    rfl

end

/-- The text of a key is taken from the tree that the key is serialized as. -/
theorem keyOfTree?_toTree (key : Value) : (keyOfTree? key.toTree).run = some (keyText key) := by
  cases key with
  | float number =>
    -- Both sides ask whether the number is finite.
    rw [Value.toTree, keyOfTree?, keyText]
    split <;> rfl
  | null | bool | int | str | list | tuple | dict => rfl

/-- Steps that write as results say, one after the other, write as the results say one after the other. -/
theorem run_bind_eq {α β : Type} {step : Written α} {result : Except JsonFault α} {next : α → Written β}
    {after : α → Except JsonFault β} (written : step.run = some result) (each : ∀ a, (next a).run = some (after a)) :
    (step >>= next).run = some (result >>= after) := by
  rw [ExceptT.run_bind, written]
  -- A fault ends both, and a result is passed on by both.
  cases result with
  | error fault => rfl
  | ok a => exact each a

mutual

/-- A value is written as the JSON tree of the tree that it is serialized as. -/
theorem ofTree?_toTree (value : Value) : (ofTree? value.toTree).run = some (ofValue value) := by
  cases value with
  | int number =>
    -- A word is in the range of its own type.
    rw [Value.toTree, ofTree?, Word.ofInt?, if_pos number.toInt_inRange, Word.ofInt_toInt]
    rfl
  | list items | tuple items =>
    rw [Value.toTree, ofTree?, ofValue, ExceptT.run_bind, ofTrees?_toTrees items]
    cases ofValues items <;> rfl
  | dict entries =>
    rw [Value.toTree, ofTree?, ofValue, ExceptT.run_bind, ofTreePairs?_toTreePairs entries]
    cases ofEntries entries <;> rfl
  | null | bool | float | str => rfl

/-- Elements are written as the JSON trees of the trees that they are serialized as. -/
theorem ofTrees?_toTrees (items : List Value) : (ofTrees? (Value.toTrees items)).run = some (ofValues items) := by
  -- The trees are written one after the other, and the first failure is the same on both sides.
  cases items with
  | nil => rfl
  | cons item rest =>
    exact run_bind_eq (ofTree?_toTree item) fun first => run_bind_eq (ofTrees?_toTrees rest) fun others => rfl

/-- Entries are written as the members of the trees that they are serialized as. -/
theorem ofTreePairs?_toTreePairs (entries : List (Value × Value)) :
    (ofTreePairs? (Value.toTreePairs entries)).run = some (ofEntries entries) := by
  match entries with
  | [] => rfl
  | (key, content) :: rest =>
    -- The key comes before its value, and both come before the other entries.
    exact run_bind_eq (keyOfTree?_toTree key) fun name => run_bind_eq (ofTree?_toTree content) fun tree =>
      run_bind_eq (ofTreePairs?_toTreePairs rest) fun others => rfl

end

/-- JSON trees that differ in the order of the members of objects alone. -/
def Alike (a b : Json) : Prop := a.toTree.Alike b.toTree

/-- The trees of an array are those of its items. -/
theorem toTrees_eq_map (items : List Json) : toTrees items = items.map toTree := by
  -- The recursion on the list of items is a map.
  induction items with
  | nil => rfl
  | cons item rest ih => rw [toTrees, ih, List.map_cons]

/-- The trees of members are pairs of a text and a tree. -/
theorem toTreePairs_eq_map (members : List (String × Json)) :
    toTreePairs members = members.map fun member => (.text member.1, member.2.toTree) := by
  -- The recursion on the list of members is a map.
  induction members with
  | nil => rfl
  | cons member rest ih => rw [toTreePairs, ih, List.map_cons]

/-- The member that an entry becomes. -/
def ofEntry (entry : Value × Value) : Except JsonFault (String × Json) := do
  let name ← keyText entry.1
  let tree ← ofValue entry.2
  .ok (name, tree)

/-- Sequences are written element by element. -/
theorem ofValues_eq_mapM (items : List Value) : ofValues items = items.mapM ofValue := by
  -- The recursion stops at the first element that cannot be written, as a traversal does.
  induction items with
  | nil => rfl
  | cons item rest ih =>
    rw [ofValues, ih, List.mapM_cons]
    rfl

/-- Entries are written one by one. -/
theorem ofEntries_eq_mapM (entries : Entries) : ofEntries entries = entries.mapM ofEntry := by
  induction entries with
  | nil => rfl
  | cons entry rest ih =>
    rw [ofEntries, ih, List.mapM_cons, ofEntry]
    -- Whichever of the key and the value fails first, the traversal stops with its fault.
    cases keyText entry.1 with
    | error fault => rfl
    | ok name => cases ofValue entry.2 <;> rfl

/-- An entry is written when its key has a text and its value has a tree. -/
theorem ofEntry_eq_ok_iff {entry : Value × Value} {member : String × Json} :
    ofEntry entry = .ok member ↔ keyText entry.1 = .ok member.1 ∧ ofValue entry.2 = .ok member.2 :=
  pair_eq_ok_iff

/-- An entry can be written when both its key and its value can. -/
theorem exists_ofEntry_iff {entry : Value × Value} :
    (∃ member, ofEntry entry = .ok member) ↔
      (∃ name, keyText entry.1 = .ok name) ∧ ∃ tree, ofValue entry.2 = .ok tree := by
  -- The member consists of the two results.
  simp [ofEntry_eq_ok_iff]

/-- A tree under a new name is added behind the other members. -/
theorem insertMember_of_missing {name : String} {members : List (String × Json)}
    (missing : ∀ member ∈ members, name ≠ member.1) (tree : Json) :
    insertMember name tree members = members ++ [(name, tree)] := by
  -- The name differs from every name that is passed, so that the search comes to the end.
  induction members with
  | nil => rfl
  | cons member rest ih =>
    obtain ⟨head, tail⟩ := List.forall_mem_cons.mp missing
    rw [insertMember, if_neg head, ih tail]
    rfl

/-- Members with different names are put into an object one behind the other. -/
theorem foldl_insertMember {members : List (String × Json)} (apart : members.Pairwise fun a b => a.1 ≠ b.1) :
    members.foldl (fun object member => insertMember member.1 member.2 object) [] = members := by
  -- What has been put in so far stands in front, and the names of the whole are different.
  suffices every : ∀ front : List (String × Json), (front ++ members).Pairwise (fun a b => a.1 ≠ b.1) →
      members.foldl (fun object member => insertMember member.1 member.2 object) front = front ++ members from
    every [] apart
  clear apart
  induction members with
  | nil => exact fun front _ => (List.append_nil front).symm
  | cons member rest ih =>
    intro front apart
    have missing : ∀ other ∈ front, member.1 ≠ other.1 := fun other inFront =>
      ((List.pairwise_append.mp apart).2.2 other inFront member List.mem_cons_self).symm
    rw [List.foldl_cons, insertMember_of_missing missing, ih _ (by simpa using apart)]
    simp

end DynValue.Json
