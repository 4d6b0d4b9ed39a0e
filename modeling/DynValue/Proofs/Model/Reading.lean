import DynValue.Proofs.Binary.Widening
import DynValue.Proofs.Session.Dict
import DynValue.Proofs.Word.Range

/-! A tree is refused for the first node in it that has no value, and is otherwise read node by node. -/

namespace DynValue

/-- What a result failed with. -/
def failure? {ε α : Type} : Except ε α → Option ε
  | .error fault => some fault
  | .ok _ => none

/-- A change of the result does not change the failure. -/
theorem failure?_map {ε α β : Type} (f : α → β) (result : Except ε α) :
    failure? (result.map f) = failure? result := by
  -- A result that failed is passed on, and one that succeeded still does.
  cases result <;> rfl

/-- The failure is the fault that the result is. -/
theorem failure?_eq_some_iff {ε α : Type} {result : Except ε α} {fault : ε} :
    failure? result = some fault ↔ result = .error fault := by
  -- Only a result that failed has one.
  cases result <;> simp [failure?]

/-- There is no failure exactly if there is a value. -/
theorem failure?_eq_none_iff {ε α : Type} {result : Except ε α} :
    failure? result = none ↔ ∃ value, result = .ok value := by
  -- A result is a fault or a value.
  cases result <;> simp [failure?]

/-- The first of two steps to fail decides. -/
theorem failure?_bind {ε α β γ : Type} (first : Except ε α) (second : Except ε β) (f : α → β → γ) :
    failure? (do
      let a ← first
      let b ← second
      Except.ok (f a b)) = (failure? first).or (failure? second) := by
  -- The second step is not looked at if the first one failed.
  cases first with
  | error fault => rfl
  | ok a => cases second <;> rfl

namespace Tree

/-- The fault of a node by itself, whatever is in it. -/
def refusal? : Tree → Option TreeFault
  | .bytes _ => some .bytes
  | .ownedBytes _ => some .bytes
  | .wrapped _ => some .wrapped
  | _ => none

mutual

/-- The nodes of a tree in the order of traversal, each one before what is in it. -/
def nodes : Tree → List Tree
  | .present inner => .present inner :: nodes inner
  | .wrapped inner => .wrapped inner :: nodes inner
  | .sequence items => .sequence items :: nodesOfItems items
  | .stream items => .stream items :: nodesOfItems items
  | .map entries => .map entries :: nodesOfEntries entries
  | leaf => [leaf]

/-- The nodes of elements, from left to right. -/
def nodesOfItems : List Tree → List Tree
  | [] => []
  | item :: rest => nodes item ++ nodesOfItems rest

/-- The nodes of entries, those of a key coming before those of its value. -/
def nodesOfEntries : List (Tree × Tree) → List Tree
  | [] => []
  | (key, content) :: rest => nodes key ++ (nodes content ++ nodesOfEntries rest)

end

/-- The fault of the first node that has one. -/
def firstRefusal? (trees : List Tree) : Option TreeFault := trees.findSome? refusal?

/-- The first refusal in two sequences is that of the first one, if it has any. -/
theorem firstRefusal?_append (front back : List Tree) :
    firstRefusal? (front ++ back) = (firstRefusal? front).or (firstRefusal? back) :=
  List.findSome?_append

/-- Elements fail with the first fault in them, if each by itself does. -/
theorem failure?_toValues {items : List Tree}
    (each : ∀ item ∈ items, failure? item.toValue = firstRefusal? item.nodes) :
    failure? (toValues items) = firstRefusal? (nodesOfItems items) := by
  -- The nodes of the first element come before those of the others, as it is read before them.
  induction items with
  | nil => rfl
  | cons item rest ih =>
    obtain ⟨head, tail⟩ := List.forall_mem_cons.mp each
    rw [toValues, failure?_bind, head, ih tail, nodesOfItems, firstRefusal?_append]

/-- Entries fail with the first fault in them, if each key and value by itself does. -/
theorem failure?_toPairs {entries : List (Tree × Tree)}
    (each : ∀ entry ∈ entries, failure? entry.1.toValue = firstRefusal? entry.1.nodes ∧
      failure? entry.2.toValue = firstRefusal? entry.2.nodes) :
    failure? (toPairs entries) = firstRefusal? (nodesOfEntries entries) := by
  -- Within an entry the nodes of the key come first.
  induction entries with
  | nil => rfl
  | cons entry rest ih =>
    obtain ⟨⟨keyHolds, contentHolds⟩, tail⟩ := List.forall_mem_cons.mp each
    obtain ⟨key, content⟩ := entry
    -- The key, the value and the other entries are read in this order, and the first failure counts.
    have sequenced : failure? (toPairs ((key, content) :: rest)) =
        (failure? key.toValue).or ((failure? content.toValue).or (failure? (toPairs rest))) := by
      rw [toPairs]
      cases key.toValue with
      | error fault => rfl
      | ok first => exact failure?_bind content.toValue (toPairs rest) _
    rw [sequenced, keyHolds, contentHolds, ih tail, nodesOfEntries, firstRefusal?_append, firstRefusal?_append]

/-- Reading a tree fails with the fault of the first node that has one, at any depth. -/
theorem failure?_toValue (tree : Tree) : failure? tree.toValue = firstRefusal? tree.nodes := by
  induction tree using nestedInduction with
  | leaf tree bare => cases tree <;> simp [isLeaf] at bare <;> rfl
  | present inner ih =>
    rw [toValue, ih, nodes]
    rfl
  | wrapped inner ih =>
    -- The wrapping comes before what is in it, and so does its fault.
    rw [toValue, nodes]
    rfl
  | sequence items ih =>
    rw [toValue_sequence, failure?_map, failure?_toValues ih, nodes]
    rfl
  | stream items ih =>
    rw [toValue_stream, failure?_map, failure?_toValues ih, nodes]
    rfl
  | map entries ih =>
    rw [toValue_map, failure?_map, failure?_toPairs ih, nodes]
    rfl

/-- A tree and a value have the same shape. -/
inductive Reads : Tree → Value → Prop where
  /-- A truth value is itself. -/
  | bool (truth : Bool) : Reads (.bool truth) (.bool truth)
  /-- An integer of any type that fits in 64 bits is that integer. -/
  | integer {type : IntType} {number : Word type} {word : Word64} (low : -2 ^ 63 ≤ number.toInt)
    (high : number.toInt ≤ 2 ^ 63 - 1) (same : word.toInt = number.toInt) : Reads (.int type number) (.int word)
  /-- Any other integer is the number nearest to it, which is finite for the types of up to 128 bits. -/
  | beyond {type : IntType} {number : Word type} {x : Binary64}
    (outside : number.toInt < -2 ^ 63 ∨ 2 ^ 63 - 1 < number.toInt) (nearest : x.IsNearest number.toInt)
    (finite : type.width ≤ 128 → x.isFinite = true) : Reads (.int type number) (.float x)
  /-- A number of 32 bits is the same number in 64 bits. -/
  | single {number : Binary .single} {x : Binary64} (same : number.SameNumber x) : Reads (.single number) (.float x)
  /-- A number of 64 bits is itself. -/
  | double (number : Binary64) : Reads (.double number) (.float number)
  /-- A character is the text of it. -/
  | char (c : Char) : Reads (.char c) (.str (String.singleton c))
  /-- A text is itself. -/
  | text (content : String) : Reads (.text content) (.str content)
  /-- A text that is handed over is itself. -/
  | ownedText (content : String) : Reads (.ownedText content) (.str content)
  /-- The only datum of its type is the absent value. -/
  | unit : Reads .unit .null
  /-- A missing datum is the absent value. -/
  | absent : Reads .absent .null
  /-- A datum that is there is what it is without its mark. -/
  | present {inner : Tree} {value : Value} (inside : Reads inner value) : Reads (.present inner) value
  /-- A sequence that announces its length is the list of its values. -/
  | sequence {items : List Tree} {values : List Value} (each : List.Forall₂ Reads items values) :
    Reads (.sequence items) (.list values)
  /-- A sequence that announces nothing is the list of its values. -/
  | stream {items : List Tree} {values : List Value} (each : List.Forall₂ Reads items values) :
    Reads (.stream items) (.list values)
  /-- A map is the dict in which every key holds the value of the last entry under an equal key. -/
  | map {entries : List (Tree × Tree)} {pairs : List (Value × Value)} {found : Entries}
    (keys : List.Forall₂ Reads (entries.map Prod.fst) (pairs.map Prod.fst))
    (contents : List.Forall₂ Reads (entries.map Prod.snd) (pairs.map Prod.snd))
    (whole : (Value.dict found).WellFormed)
    (last : ∀ key : Value, key.WellFormed →
      Entries.find? found key = (pairs.reverse.find? fun pair => key == pair.1).map Prod.snd) :
    Reads (.map entries) (.dict found)

/-- An integer is read as itself or as the number nearest to it, by its range. -/
theorem reads_ofInteger {type : IntType} (number : Word type) :
    Reads (.int type number) (.ofInteger number.toInt) := by
  -- Inside of the range the word is exact; outside of it the float is the nearest one, and of at most 128 bits
  -- finite.
  have least : IntType.int64.least = -2 ^ 63 := by decide
  have greatest : IntType.int64.greatest = 2 ^ 63 - 1 := by decide
  by_cases inRange : IntType.int64.least ≤ number.toInt ∧ number.toInt ≤ IntType.int64.greatest
  · have read : Value.ofInteger number.toInt = .int (Word.ofInt .int64 number.toInt) := by
      simp [Value.ofInteger, Word.ofInt?, inRange]
    rw [read]
    refine .integer ?_ ?_ (Word.toInt_ofInt (by decide) inRange)
    · exact least ▸ inRange.1
    · exact greatest ▸ inRange.2
  · have read : Value.ofInteger number.toInt = .float (Binary.ofInt .double number.toInt) := by
      simp [Value.ofInteger, Word.ofInt?, inRange]
    rw [read]
    refine .beyond ?_ (Binary.ofInt_isNearest .double number.toInt) fun narrow => ?_
    · rw [least, greatest] at inRange
      omega
    · exact Binary.isFinite_ofInt (number.natAbs_toInt_le narrow)

/-- What holds of every tree whose reading is known holds along a sequence of them. -/
theorem forall₂_reads {items : List Tree} {values : List Value} (read : toValues items = .ok values)
    (each : ∀ item ∈ items, ∀ value, item.toValue = .ok value → Reads item value) :
    List.Forall₂ Reads items values := by
  -- Each tree stands next to the value that it is read as.
  have both := (List.forall₂_and_left _ _).mpr ⟨each, toValues_eq_ok_iff.mp read⟩
  exact both.imp fun item value ⟨holds, found⟩ => holds value found

/-- The keys and the values of a map are each read along the entries. -/
theorem forall₂_reads_entries {entries : List (Tree × Tree)} {pairs : List (Value × Value)}
    (read : toPairs entries = .ok pairs)
    (each : ∀ entry ∈ entries, (∀ value, entry.1.toValue = .ok value → Reads entry.1 value) ∧
      ∀ value, entry.2.toValue = .ok value → Reads entry.2 value) :
    List.Forall₂ Reads (entries.map Prod.fst) (pairs.map Prod.fst) ∧
      List.Forall₂ Reads (entries.map Prod.snd) (pairs.map Prod.snd) := by
  -- Each entry stands next to its pair, and the keys and the values are two sequences of their own.
  have both := (List.forall₂_and_left _ _).mpr ⟨each, toPairs_eq_ok_iff.mp read⟩
  simp only [List.forall₂_map_left_iff, List.forall₂_map_right_iff]
  constructor
  · exact both.imp fun entry pair ⟨holds, found⟩ => holds.1 pair.1 found.1
  · exact both.imp fun entry pair ⟨holds, found⟩ => holds.2 pair.2 found.2

/-- A value that is read from a tree has its shape. -/
theorem reads_of_toValue {tree : Tree} {value : Value} (read : tree.toValue = .ok value) : Reads tree value := by
  induction tree using nestedInduction generalizing value with
  | leaf tree bare =>
    -- Leaves are read as they are, except for integers, by their range, and for narrow floats.
    cases tree <;> simp [isLeaf, toValue] at bare read <;> rw [← read]
    case int type number => exact reads_ofInteger number
    case single number => exact .single (Binary.sameNumber_convert Binary.widens_double number)
    all_goals constructor
  | present inner ih => exact .present (ih read)
  | wrapped inner ih => simp [toValue] at read
  | sequence items ih =>
    rw [toValue_sequence] at read
    obtain ⟨values, found, rfl⟩ := exists_of_map_ok read
    exact .sequence (forall₂_reads found fun item member value => ih item member)
  | stream items ih =>
    rw [toValue_stream] at read
    obtain ⟨values, found, rfl⟩ := exists_of_map_ok read
    exact .stream (forall₂_reads found fun item member value => ih item member)
  | map entries ih =>
    have whole := wellFormed_toValue read
    rw [toValue_map] at read
    obtain ⟨pairs, found, rfl⟩ := exists_of_map_ok read
    obtain ⟨keys, contents⟩ := forall₂_reads_entries found fun entry member =>
      ⟨fun value => (ih entry member).1, fun value => (ih entry member).2⟩
    -- Whatever is read is well formed, so that equal keys find each other.
    have members : ∀ pair ∈ pairs, pair.1.WellFormed ∧ pair.2.WellFormed :=
      wellFormed_toPairs found fun entry _ => ⟨fun _ => wellFormed_toValue, fun _ => wellFormed_toValue⟩
    refine .map keys contents whole fun key keyed => ?_
    have held := get?_insertInOrder members keyed
    rwa [← dict_ofPairs] at held

/--
Reading a tree fails exactly if some node in it has a fault of its own, in keys as in values and at any depth.

The fault is that of the first such node, and without one the value has the tree's shape. Whether a sequence knows its
length makes no difference, and no more does a number that is announced for a sequence or a map, be it right or wrong: it
decides about the room that is set aside at first, up to a bound.
-/
theorem toValue_exact :
    (∀ tree : Tree,
      ((∃ fault, tree.toValue = .error fault) ↔ ∃ node ∈ tree.nodes, node.refusal? ≠ none) ∧
        (∀ fault, tree.toValue = .error fault ↔ tree.nodes.findSome? refusal? = some fault) ∧
        ((∃ value, tree.toValue = .ok value ∧ Reads tree value) ↔ ∀ node ∈ tree.nodes, node.refusal? = none)) ∧
      (∀ items : List Tree, (Tree.sequence items).toValue = (Tree.stream items).toValue) ∧
      ∀ announced : Option Nat, Buffer.reserve announced ≤ 4096 ∧
        (∀ items, readItems announced items = (Tree.sequence items).toValue) ∧
        ∀ entries, readEntries announced entries = (Tree.map entries).toValue := by
  refine ⟨fun tree => ?exact, fun items => ?unannounced, fun announced =>
    ⟨Buffer.reserve_le announced, fun items => ?items, fun entries => ?entries⟩⟩
  case exact =>
    -- Reading fails with the first refusal among the nodes.
    have first (fault : TreeFault) :
        tree.toValue = .error fault ↔ tree.nodes.findSome? refusal? = some fault := by
      rw [← failure?_eq_some_iff, failure?_toValue]
      rfl
    have sound : (∃ value, tree.toValue = .ok value) ↔ ∀ node ∈ tree.nodes, node.refusal? = none := by
      rw [← failure?_eq_none_iff, failure?_toValue, firstRefusal?, List.findSome?_eq_none_iff]
    refine ⟨?_, first, ?_⟩
    · -- There is a first node with a fault as soon as there is one at all.
      simp only [first, ← Option.isSome_iff_exists]
      rw [List.findSome?_isSome_iff]
      simp only [Option.isSome_iff_ne_none]
    · rw [← sound]
      constructor
      · rintro ⟨value, read, _⟩
        exact ⟨value, read⟩
      · rintro ⟨value, read⟩
        exact ⟨value, read, reads_of_toValue read⟩
  -- What is announced decides about the room that is reserved, and about nothing that is read.
  case unannounced => rw [toValue_sequence, toValue_stream]
  case items => rw [readItems_eq, toValue_sequence]
  case entries => rw [readEntries_eq, toValue_map]

-- The value of an entry comes before the key of the next one.
example : (Tree.map [(.unit, .present (.wrapped .unit)), (.bytes [], .unit)]).toValue = .error .wrapped := rfl

end Tree

end DynValue
