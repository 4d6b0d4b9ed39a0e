import DynValue.Proofs.Value.Entries
import DynValue.Value.Path

/-!
The places that subscripts select, and what one subscript reads and changes.

A slot that a subscript gives for change holds what the subscript reads. What is put there is read back, a second
content replaces the first, and other places keep theirs.
-/

namespace DynValue

/-- A place in a container that a subscript selects. -/
inductive Place where
  /-- A position in a sequence, counted from its start. -/
  | position (index : Nat)
  /-- A key of a dict, which may be missing. -/
  | key (key : Value)

namespace Place

/-- Whether two places are the same, keys being compared as the keys of dicts are. -/
def same : Place → Place → Bool
  | .position a, .position b => a == b
  | .key a, .key b => a == b
  | _, _ => false

/-- Places are compared by whether they are the same. -/
instance : BEq Place := ⟨same⟩

/-- Positions are the same place when they are the same number. -/
@[simp] theorem position_beq (a b : Nat) : (position a == position b) = (a == b) := rfl

/-- Keys are the same place when they are equal. -/
@[simp] theorem key_beq (a b : Value) : (key a == key b) = (a == b) := rfl

end Place

/-- The index a subscript stands for outside of dicts: integers of all widths, and truth values as zero and one. -/
def Subscript.index? (subscript : Subscript) : Option Word64 :=
  match subscript.key with
  | .int index => some index
  | .bool truth => some (Word.ofInt _ truth.toInt)
  | _ => none

/-- The key of a subscript contains no dict with two equal keys. -/
def Subscript.WellFormed (subscript : Subscript) : Prop := subscript.key.WellFormed

/-- The key of a subscript can be tested. -/
instance (subscript : Subscript) : Decidable subscript.WellFormed :=
  inferInstanceAs (Decidable subscript.key.WellFormed)

/-- A place lies inside of a sequence whose length it was found for. -/
theorem position?_lt {index : Int} {length place : Nat} (found : position? index length = some place) :
    place < length := by
  -- The place was tested against the length before it was given.
  simp only [position?, Option.ite_none_right_eq_some, Option.some.injEq] at found
  omega

namespace Value

/-- The position that a subscript selects in a sequence of some length. -/
def positionBy? (subscript : Subscript) (length : Nat) : Option Nat :=
  subscript.index?.bind fun index => position? index.toInt length

/-- The place that a subscript selects, every key being a place of a dict. -/
def place? (value : Value) (subscript : Subscript) : Option Place :=
  match value with
  | .list items => (positionBy? subscript items.length).map .position
  | .tuple items => (positionBy? subscript items.length).map .position
  | .dict _ => some (.key subscript.key)
  | _ => none

/-- The place at a position of a list. -/
def itemSlot (items : List Value) (index : Nat) : Slot :=
  ⟨items[index]?.getD .null, fun content => .list (items.set index content)⟩

/-- A position that a subscript selects lies inside of the sequence. -/
theorem positionBy?_lt {subscript : Subscript} {length index : Nat}
    (found : positionBy? subscript length = some index) : index < length := by
  -- The subscript is an index, and its place was tested.
  obtain ⟨_, _, found⟩ := Option.bind_eq_some_iff.mp found
  exact position?_lt found

/-- A dict is read by key. -/
theorem itemBy_dict (entries : Entries) (subscript : Subscript) :
    (Value.dict entries).itemBy subscript = .ok ((Entries.find? entries subscript.key).getD .null) := by
  -- Whatever the subscript is, the search finds what is under its key.
  rw [← Entries.findBy?_eq]
  rfl

/-- A dict is read by key, a missing one reading as absent. -/
theorem pickBy_dict (entries : Entries) (subscript : Subscript) :
    (Value.dict entries).pickBy subscript = (Entries.find? entries subscript.key).getD .null := by
  -- Whatever the subscript is, the search finds what is under its key.
  rw [← Entries.findBy?_eq]
  rfl

/-- A dict is changed by key. -/
theorem slotBy_dict (entries : Entries) (subscript : Subscript) :
    (Value.dict entries).slotBy subscript = .ok (keySlot entries subscript.key) := rfl

/-- Outside of dicts a subscript is an index, or it selects nothing. -/
theorem itemBy_eq_item {value : Value} (sequence : value.kind ≠ .dict) (subscript : Subscript) :
    value.itemBy subscript = match subscript.index? with
      | some index => value.item index
      | none => .error (.notKeyed value.kind) := by
  -- Integers and truth values are indices, and no value but a dict looks at any other key.
  unfold itemBy Subscript.index?
  cases value <;> simp only [kind, ne_eq, not_true_eq_false] at sequence <;> cases subscript.key <;> rfl

/-- Outside of dicts a subscript is an index, or it reads as absent. -/
theorem pickBy_eq_pick {value : Value} (sequence : value.kind ≠ .dict) (subscript : Subscript) :
    value.pickBy subscript = match subscript.index? with
      | some index => value.pick index
      | none => .null := by
  -- Integers and truth values are indices, and no value but a dict looks at any other key.
  unfold pickBy Subscript.index?
  cases value <;> simp only [kind, ne_eq, not_true_eq_false] at sequence <;> cases subscript.key <;> rfl

/-- Outside of dicts a subscript for change is an index, or it selects nothing. -/
theorem slotBy_eq_slot {value : Value} (sequence : value.kind ≠ .dict) (subscript : Subscript) :
    value.slotBy subscript = match subscript.index? with
      | some index => value.slot index
      | none => .error (.notKeyed value.kind) := by
  -- Integers and truth values are indices, and no value but a dict looks at any other key.
  unfold slotBy Subscript.index?
  cases value <;> simp only [kind, ne_eq, not_true_eq_false] at sequence <;> cases subscript.key <;> rfl

/-- Changing by an index is changing by the subscript that is the index. -/
theorem slot_eq_slotBy (value : Value) (index : Word64) : value.slot index = value.slotBy (.int64 index) := by
  -- The subscript of a word has the word as its key.
  cases value <;> rfl

/-- Reading a list by a subscript that selects a position gives the element there. -/
theorem itemBy_list_of_position {items : List Value} {subscript : Subscript} {index : Nat}
    (found : positionBy? subscript items.length = some index) :
    (Value.list items).itemBy subscript = .ok (items[index]?.getD .null) := by
  -- The position lies inside of the list, so that there is an element to be read.
  have inside := positionBy?_lt found
  obtain ⟨number, indexed, placed⟩ := Option.bind_eq_some_iff.mp found
  rw [itemBy_eq_item (by simp [kind]), indexed]
  simp [item, elementAt?, placed, List.getElem?_eq_getElem inside]

/-- Changing a list by a subscript that selects a position gives the place there. -/
theorem slotBy_list_of_position {items : List Value} {subscript : Subscript} {index : Nat}
    (found : positionBy? subscript items.length = some index) :
    (Value.list items).slotBy subscript = .ok (itemSlot items index) := by
  -- The subscript is an index that has a place in the list.
  obtain ⟨number, indexed, placed⟩ := Option.bind_eq_some_iff.mp found
  rw [slotBy_eq_slot (by simp [kind]), indexed]
  simp [slot, placed, itemSlot]

/-- A subscript that selects no position of a list fails alike for reading and for change. -/
theorem list_of_no_position {items : List Value} {subscript : Subscript}
    (missing : positionBy? subscript items.length = none) :
    ∃ fault, (Value.list items).slotBy subscript = .error fault ∧
      ∀ others : List Value, others.length = items.length →
        (Value.list others).itemBy subscript = .error fault := by
  -- The subscript is no index at all, or an index that the length refuses.
  rw [slotBy_eq_slot (by simp [kind])]
  cases indexed : subscript.index? with
  | none =>
    refine ⟨_, rfl, ?_⟩
    intro others _
    rw [itemBy_eq_item (by simp [kind]), indexed]
    rfl
  | some number =>
    -- The verdict depends on the length alone, so that other lists of the length are refused too.
    have missing : position? number.toInt items.length = none := by
      simpa [positionBy?, indexed] using missing
    refine ⟨.noPosition .list number.toInt items.length, by simp [slot, missing, kind], ?_⟩
    intro others lengths
    rw [itemBy_eq_item (by simp [kind]), indexed]
    simp [item, elementAt?, lengths, missing, kind]

/-- The slot of a subscript is that of a key of a dict, or that of a position of a list. -/
theorem slotBy_ok_cases {value : Value} {subscript : Subscript} {slot : Slot}
    (found : value.slotBy subscript = .ok slot) :
    (∃ entries, value = .dict entries ∧ slot = keySlot entries subscript.key) ∨
      ∃ items index, value = .list items ∧ positionBy? subscript items.length = some index ∧
        slot = itemSlot items index := by
  -- Values of other kinds have no places that can be changed.
  cases value with
  | dict entries =>
    rw [slotBy_dict] at found
    exact .inl ⟨entries, rfl, (Except.ok.inj found).symm⟩
  | list items =>
    right
    cases placed : positionBy? subscript items.length with
    | none =>
      -- A list without the position refuses to be changed there.
      obtain ⟨fault, failed, _⟩ := list_of_no_position placed
      rw [failed] at found
      contradiction
    | some index =>
      rw [slotBy_list_of_position placed] at found
      exact ⟨items, index, rfl, placed, (Except.ok.inj found).symm⟩
  | _ =>
    rw [slotBy_eq_slot (by simp [kind])] at found
    split at found <;> simp [Value.slot] at found

/-- Where a subscript gives no slot, it stands behind a tuple or reading fails with the same fault. -/
theorem slotBy_error_cases {value : Value} {subscript : Subscript} {fault : Fault}
    (failed : value.slotBy subscript = .error fault) :
    value.kind = .tuple ∨ value.itemBy subscript = .error fault := by
  -- Only tuples can be read in places that cannot be changed.
  cases value with
  | dict entries =>
    rw [slotBy_dict] at failed
    contradiction
  | tuple items => exact .inl rfl
  | list items =>
    right
    cases placed : positionBy? subscript items.length with
    | none =>
      obtain ⟨cause, noSlot, noItem⟩ := list_of_no_position placed
      rw [noSlot] at failed
      rw [noItem items rfl, Except.error.inj failed]
    | some index =>
      rw [slotBy_list_of_position placed] at failed
      contradiction
  | _ =>
    right
    rw [slotBy_eq_slot (by simp [kind])] at failed
    rw [itemBy_eq_item (by simp [kind])]
    -- Values that are no containers refuse both in the same words.
    split at failed <;> simpa [Value.slot, item] using failed

/-- A slot holds what its subscript reads. -/
theorem itemBy_of_slotBy {value : Value} {subscript : Subscript} {slot : Slot}
    (found : value.slotBy subscript = .ok slot) : value.itemBy subscript = .ok slot.content := by
  -- A slot is an entry of a dict, perhaps an absent one, or an element of a list.
  rcases slotBy_ok_cases found with ⟨entries, rfl, rfl⟩ | ⟨items, index, rfl, placed, rfl⟩
  · rw [itemBy_dict]
    rfl
  · rw [itemBy_list_of_position placed]
    rfl

/-- A tuple gives no slot. -/
theorem kind_ne_tuple_of_slotBy {value : Value} {subscript : Subscript} {slot : Slot}
    (found : value.slotBy subscript = .ok slot) : value.kind ≠ .tuple := by
  -- Slots are found in dicts and lists only.
  rcases slotBy_ok_cases found with ⟨entries, rfl, rfl⟩ | ⟨items, index, rfl, placed, rfl⟩ <;> simp [kind]

/-- What is put into a slot stands there for the same subscript, ready to be replaced in the same way. -/
theorem slotBy_put {value : Value} {subscript : Subscript} {slot : Slot} (keyed : subscript.WellFormed)
    (found : value.slotBy subscript = .ok slot) (content : Value) :
    (slot.put content).slotBy subscript = .ok ⟨content, slot.put⟩ := by
  rcases slotBy_ok_cases found with ⟨entries, rfl, rfl⟩ | ⟨items, index, rfl, placed, rfl⟩
  · -- The key equals itself, so that it is found where it was inserted.
    have reflexive := beq_refl_of_wellFormed keyed
    simp [keySlot, slotBy_dict, Entries.find?_insert_self reflexive, Entries.insert_insert reflexive]
  · have inside := positionBy?_lt placed
    -- The list keeps its length, so that the subscript selects the same position.
    have again : positionBy? subscript (items.set index content).length = some index := by
      rwa [List.length_set]
    show (Value.list (items.set index content)).slotBy subscript = _
    rw [slotBy_list_of_position again]
    simp [itemSlot, inside]

/-- Putting back what stands in a slot changes nothing, except that a missing key is added. -/
theorem put_content {value : Value} {subscript : Subscript} {slot : Slot}
    (found : value.slotBy subscript = .ok slot) :
    slot.put slot.content = value ∨
      ∃ entries, value = .dict entries ∧ Entries.find? entries subscript.key = none ∧
        slot.content = .null ∧ slot.put .null = .dict (entries ++ [(subscript.key, .null)]) := by
  -- Only the slot of a key can stand for something that is not there.
  rcases slotBy_ok_cases found with ⟨entries, rfl, rfl⟩ | ⟨items, index, rfl, placed, rfl⟩
  · cases present : Entries.find? entries subscript.key with
    | none =>
      exact .inr ⟨entries, rfl, present, by simp [keySlot, present],
        by simp [keySlot, Entries.insert_of_missing present]⟩
    | some content =>
      exact .inl (by simp [keySlot, present, Entries.insert_of_find? present])
  · have inside := positionBy?_lt placed
    exact .inl (by simp [itemSlot, inside])

/-- A changed slot leaves every subscript its place. -/
theorem place?_put {value : Value} {subscript : Subscript} {slot : Slot}
    (found : value.slotBy subscript = .ok slot) (content : Value) (other : Subscript) :
    (slot.put content).place? other = value.place? other := by
  rcases slotBy_ok_cases found with ⟨entries, rfl, rfl⟩ | ⟨items, index, rfl, placed, rfl⟩
  · -- The place of a key does not depend on the entries.
    rfl
  · simp [itemSlot, place?]

/-- Whether two subscripts select the same place does not depend on which comes first. -/
theorem place?_beq_comm (value : Value) {a b : Subscript} (first : a.WellFormed) (second : b.WellFormed) :
    (value.place? a == value.place? b) = (value.place? b == value.place? a) := by
  -- Positions are numbers, and the keys of dicts are well-formed values.
  have positions (x y : Option Nat) :
      (x.map Place.position == y.map Place.position) = (y.map Place.position == x.map Place.position) := by
    cases x with
    | none => cases y <;> rfl
    | some i =>
      cases y with
      | none => rfl
      | some j =>
        show (i == j) = (j == i)
        exact BEq.comm
  -- In a dict the places are keys, in sequences positions, and elsewhere there are none.
  cases value with
  | dict entries => exact beq_comm_of_wellFormed first second
  | list items => exact positions _ _
  | tuple items => exact positions _ _
  | _ => rfl

/-- Subscripts that select the same place read the same. -/
theorem itemBy_of_same_place {value : Value} {a b : Subscript} {slot : Slot} (first : a.WellFormed)
    (second : b.WellFormed) (found : value.slotBy a = .ok slot)
    (same : (value.place? a == value.place? b) = true) : value.itemBy b = .ok slot.content := by
  rcases slotBy_ok_cases found with ⟨entries, rfl, rfl⟩ | ⟨items, index, rfl, placed, rfl⟩
  · -- Equal keys are found in the same entry.
    have equal : (a.key == b.key) = true := by simpa [place?] using same
    have agree := Entries.find?_congr fun (entry : Value × Value) (_ : entry ∈ entries) =>
      beq_congr_of_wellFormed first second equal entry.1
    rw [itemBy_dict, ← agree]
    rfl
  · -- The other subscript selects the same position, and the same position is read.
    cases other : positionBy? b items.length with
    | none => simp [place?, placed, other] at same
    | some position =>
      simp only [place?, placed, other, Option.map_some] at same
      have equal : index = position := by simpa using same
      rw [itemBy_list_of_position (other.trans (congrArg some equal.symm))]
      rfl

/-- Subscripts that select other places than the changed one read what they read before. -/
theorem itemBy_put_of_other_place {value : Value} {a b : Subscript} {slot : Slot} (first : a.WellFormed)
    (second : b.WellFormed) (found : value.slotBy a = .ok slot)
    (different : (value.place? a == value.place? b) = false) (content : Value) :
    (slot.put content).itemBy b = value.itemBy b := by
  rcases slotBy_ok_cases found with ⟨entries, rfl, rfl⟩ | ⟨items, index, rfl, placed, rfl⟩
  · have different : (a.key == b.key) = false := by simpa [place?] using different
    have reversed : (b.key == a.key) = false := by rwa [beq_comm_of_wellFormed second first]
    -- A key of the dict that equals both would make them equal.
    have apart : ∀ entry ∈ entries, (a.key == entry.1) = true → (b.key == entry.1) = false := by
      intro entry _ equal
      rw [Bool.eq_false_iff]
      intro both
      rw [beq_iff_canonical first] at equal
      rw [beq_iff_canonical second] at both
      rw [Bool.eq_false_iff, Ne, beq_iff_canonical first] at different
      exact different (equal.trans both.symm)
    show (Value.dict (Entries.insert entries a.key content)).itemBy b = _
    rw [itemBy_dict, itemBy_dict, Entries.find?_insert_other reversed apart]
  · show (Value.list (items.set index content)).itemBy b = _
    -- The length stays, and with it the position of the other subscript or its fault.
    cases other : positionBy? b items.length with
    | none =>
      obtain ⟨fault, _, failed⟩ := list_of_no_position other
      rw [failed items rfl, failed (items.set index content) List.length_set]
    | some position =>
      simp only [place?, placed, other, Option.map_some] at different
      have apart : index ≠ position := by simpa using different
      have again : positionBy? b (items.set index content).length = some position := by
        rwa [List.length_set]
      rw [itemBy_list_of_position other, itemBy_list_of_position again, List.getElem?_set_ne apart]

end Value

end DynValue
