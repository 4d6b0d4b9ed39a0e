import DynValue.Proofs.Value.Reach
import DynValue.Proofs.Value.Repetition
import DynValue.Value.Iterate

/-!
The operations on values keep them well formed.

Insertions change the value of one entry or add one with a new key, slots take any well-formed content, and operators
build their results from the elements of their operands.
-/

namespace DynValue

namespace Entries

/-- An insertion keeps a dict well formed. -/
theorem wellFormed_insert {entries : Entries} {key value : Value} (dict : (Value.dict entries).WellFormed)
    (keyed : key.WellFormed) (valued : value.WellFormed) :
    (Value.dict (insert entries key value)).WellFormed := by
  obtain ⟨unique, members⟩ := Value.wellFormed_dict_iff.mp dict
  rw [Value.wellFormed_dict_iff]
  cases found : find? entries key with
  | some old =>
    -- The entry that is changed keeps its key, so that the keys are those from before.
    obtain ⟨front, other, back, rfl, _, _, changed⟩ := exists_split_of_find? found
    rw [changed value]
    constructor
    · have keys : (front ++ (other, value) :: back).map Prod.fst = (front ++ (other, old) :: back).map Prod.fst := by
        simp
      unfold Unique at unique ⊢
      rw [← List.pairwise_map (f := Prod.fst) (R := fun a b : Value => (a == b) = false)] at unique ⊢
      rwa [keys]
    · simp only [List.forall_mem_append, List.forall_mem_cons] at members ⊢
      exact ⟨members.1, ⟨members.2.1.1, valued⟩, members.2.2⟩
  | none =>
    -- A new key differs from all others, whichever of the two is asked.
    rw [insert_of_missing found]
    constructor
    · refine List.pairwise_append.mpr ⟨unique, List.pairwise_singleton _ _, ?_⟩
      intro entry member added isAdded
      rw [List.mem_singleton.mp isAdded, Value.beq_comm_of_wellFormed (members entry member).1 keyed]
      exact find?_eq_none_iff.mp found entry member
    · simp only [List.forall_mem_append, List.forall_mem_singleton]
      exact ⟨members, keyed, valued⟩

/-- A removal keeps a dict well formed. -/
theorem wellFormed_erase {entries : Entries} (dict : (Value.dict entries).WellFormed) (key : Value) :
    (Value.dict (erase entries key)).WellFormed := by
  -- The entries that stay have different keys still.
  obtain ⟨unique, members⟩ := Value.wellFormed_dict_iff.mp dict
  exact Value.wellFormed_dict_iff.mpr
    ⟨unique.filter _, fun entry member => members entry (List.mem_of_mem_filter member)⟩

/-- An insertion under a missing key keeps a dict well formed. -/
theorem wellFormed_insertIfMissing {entries : Entries} {key value : Value}
    (dict : (Value.dict entries).WellFormed) (keyed : key.WellFormed) (valued : value.WellFormed) :
    (Value.dict (insertIfMissing entries key value)).WellFormed := by
  -- The dict stays as it is, or it is one after an insertion.
  unfold insertIfMissing
  split
  · exact dict
  · exact wellFormed_insert dict keyed valued

end Entries

namespace Value

/-- What is found in a well-formed dict is well formed. -/
theorem wellFormed_of_find? {entries : Entries} {key value : Value} (dict : (Value.dict entries).WellFormed)
    (found : Entries.find? entries key = some value) : value.WellFormed := by
  -- What is found is the value of an entry.
  obtain ⟨other, member, _⟩ := Entries.mem_of_find? found
  exact ((wellFormed_dict_iff.mp dict).2 (other, value) member).2

/-- What a dict holds under a key is well formed, the absent value included. -/
theorem wellFormed_find?_getD {entries : Entries} (dict : (Value.dict entries).WellFormed) (key : Value) :
    ((Entries.find? entries key).getD .null).WellFormed := by
  -- If nothing is found, the absent value is read, which has no dict in it.
  cases found : Entries.find? entries key with
  | none => exact .null
  | some value => exact wellFormed_of_find? dict found

/-- A slot with well-formed content, whose whole is well formed with every well-formed content. -/
structure Slot.Sound (slot : Slot) : Prop where
  /-- The content is well formed. -/
  content : slot.content.WellFormed
  /-- The whole is well formed with another well-formed content. -/
  put : ∀ content, content.WellFormed → (slot.put content).WellFormed

/-- The slots of a well-formed value are sound. -/
theorem sound_of_slotBy {value : Value} {subscript : Subscript} {slot : Slot} (whole : value.WellFormed)
    (keyed : subscript.WellFormed) (found : value.slotBy subscript = .ok slot) : slot.Sound := by
  rcases slotBy_ok_cases found with ⟨entries, rfl, rfl⟩ | ⟨items, index, rfl, placed, rfl⟩
  · exact ⟨wellFormed_find?_getD whole _, fun content wellFormed => Entries.wellFormed_insert whole keyed wellFormed⟩
  · have members := wellFormed_list_iff.mp whole
    have inside := positionBy?_lt placed
    constructor
    · simp only [itemSlot, List.getElem?_eq_getElem inside, Option.getD_some]
      exact members _ (List.getElem_mem inside)
    · intro content wellFormed
      refine .list fun item member => ?_
      -- An element is the new one or one from before.
      rcases List.mem_or_eq_of_mem_set member with old | rfl
      · exact members item old
      · exact wellFormed

/-- A path through a well-formed value reaches a sound slot, or leaves a well-formed value behind. -/
theorem sound_of_reach {value : Value} {path : List Subscript} (whole : value.WellFormed) (keyed : Keyed path) :
    match value.reach path with
    | .ok slot => slot.Sound
    | .error (left, _) => left.WellFormed := by
  -- Whatever comes back from further down is put into a sound slot.
  induction path generalizing value with
  | nil => exact ⟨whole, fun content wellFormed => wellFormed⟩
  | cons subscript rest ih =>
    obtain ⟨key, keyed⟩ := keyed_cons.mp keyed
    cases found : value.slotBy subscript with
    | error fault =>
      rw [reach_cons_error found]
      exact whole
    | ok outer =>
      have sound := sound_of_slotBy whole key found
      have below := ih sound.content keyed
      cases reached : outer.content.reach rest with
      | error failure =>
        rw [reached] at below
        -- What the rest of the path has left behind is well formed, and so is the value around it.
        rw [reach_cons_inner_error found reached]
        exact sound.put _ below
      | ok inner =>
        rw [reached] at below
        rw [reach_cons_ok found reached]
        exact ⟨below.content, fun content wellFormed => sound.put _ (below.put content wellFormed)⟩

/-- A change along a path keeps a value well formed if it keeps what it changes well formed. -/
theorem wellFormed_changePath {α : Type} {change : Value → Traced (Value × α)} {value : Value}
    {path : List Subscript} (whole : value.WellFormed) (keyed : Keyed path)
    (keeps : ∀ old : Value, old.WellFormed → (change old).value.1.WellFormed) :
    (value.changePath change path).value.1.WellFormed := by
  -- The change takes place in the slot that is reached, and a slot accepts every well-formed content.
  have sound := sound_of_reach whole keyed
  rw [changePath_eq_reach]
  cases reached : value.reach path with
  | error failure =>
    rw [reached] at sound
    exact sound
  | ok slot =>
    rw [reached] at sound
    exact sound.put _ (keeps _ sound.content)

/-- Repeating a sequence adds no new elements. -/
theorem mem_of_mem_repeated {α : Type} {items : List α} {times : Int} {item : α}
    (member : item ∈ repeated items times) : item ∈ items := by
  -- The elements are taken from copies, and a copy is the sequence itself.
  rw [repeated_eq_take] at member
  obtain ⟨copy, isCopy, inside⟩ := List.mem_flatten.mp (List.mem_of_mem_take member)
  rwa [(List.mem_replicate.mp isCopy).2] at inside

/-- An operation on floats gives a well-formed value if it does so for all floats. -/
theorem wellFormed_onFloats {operator : Operator} {a b : Value} {f : Binary64 → Binary64 → Traced Value}
    (keeps : ∀ x y, (f x y).value.WellFormed) : (onFloats operator a b f).value.WellFormed := by
  -- The operation is carried out on two floats, or the result is absent.
  unfold onFloats
  split
  · exact keeps _ _
  · exact .null

/-- The sum of well-formed values is well formed. -/
theorem wellFormed_add {a b : Value} (first : a.WellFormed) (second : b.WellFormed) :
    (add a b).value.WellFormed := by
  -- Sums of sequences have the elements of both, and the other sums have no elements.
  unfold add
  split
  · exact .int _
  · exact .str _
  · exact .list (List.forall_mem_append.mpr ⟨wellFormed_list_iff.mp first, wellFormed_list_iff.mp second⟩)
  · exact .tuple (List.forall_mem_append.mpr ⟨wellFormed_tuple_iff.mp first, wellFormed_tuple_iff.mp second⟩)
  · exact wellFormed_onFloats fun _ _ => .float _

/-- The product of well-formed values is well formed. -/
theorem wellFormed_mul {a b : Value} (first : a.WellFormed) (second : b.WellFormed) :
    (mul a b).value.WellFormed := by
  unfold mul
  split
  · exact .int _
  · exact .str _
  · exact .str _
  -- Repeated sequences have the elements of the operand, on whichever side it stands.
  · exact .list fun item member => wellFormed_list_iff.mp first item (mem_of_mem_repeated member)
  · exact .list fun item member => wellFormed_list_iff.mp second item (mem_of_mem_repeated member)
  · exact .tuple fun item member => wellFormed_tuple_iff.mp first item (mem_of_mem_repeated member)
  · exact .tuple fun item member => wellFormed_tuple_iff.mp second item (mem_of_mem_repeated member)
  · exact wellFormed_onFloats fun _ _ => .float _

/-- The remainder of values is well formed. -/
theorem wellFormed_mod (a b : Value) : (mod a b).value.WellFormed := by
  -- All results are numbers or absent.
  unfold mod
  split
  · split
    · exact .null
    · exact .int _
  · refine wellFormed_onFloats fun x y => ?_
    split
    · exact .null
    · exact .float _

/-- The result of a bitwise operation is well formed. -/
theorem wellFormed_bitwise (operator : Operator) (onWords : Word64 → Word64 → Word64)
    (onBools : Bool → Bool → Bool) (a b : Value) : (bitwise operator onWords onBools a b).value.WellFormed := by
  -- All results are integers, truth values or absent.
  unfold bitwise
  split
  · exact .int _
  · exact .bool _
  · exact .int _
  · exact .int _
  · exact .null

/-- The result of an operator at well-formed operands is well formed. -/
theorem wellFormed_apply {a b : Value} (first : a.WellFormed) (second : b.WellFormed) (operator : Operator) :
    (a.apply operator b).value.WellFormed := by
  -- Only sums and products can have elements, which come from the operands.
  cases operator with
  | add => exact wellFormed_add first second
  | sub =>
    show (sub a b).value.WellFormed
    unfold sub
    split
    · exact .int _
    · exact wellFormed_onFloats fun _ _ => .float _
  | mul => exact wellFormed_mul first second
  | div =>
    refine wellFormed_onFloats fun x y => ?_
    split
    · exact .null
    · exact .float _
  | mod => exact wellFormed_mod a b
  | and => exact wellFormed_bitwise ..
  | or => exact wellFormed_bitwise ..
  | xor => exact wellFormed_bitwise ..

/-- An assignment along a path keeps a value well formed, whether it succeeds or fails. -/
theorem wellFormed_assignPath {value new : Value} {path : List Subscript} (whole : value.WellFormed)
    (keyed : Keyed path) (assigned : new.WellFormed) : (value.assignPath path new).value.1.WellFormed := by
  -- The slot gets the value that is assigned.
  apply wellFormed_changePath whole keyed
  exact fun _ _ => assigned

/-- An operator along a path keeps a value well formed, whether the path leads somewhere or fails. -/
theorem wellFormed_operatePath {value operand : Value} {path : List Subscript} (whole : value.WellFormed)
    (keyed : Keyed path) (combined : operand.WellFormed) (operator : Operator) :
    (value.operatePath path operator operand).value.1.WellFormed := by
  -- The slot gets the result of the operator, which is well formed if the old content is.
  apply wellFormed_changePath whole keyed
  exact fun old wellFormed => wellFormed_apply wellFormed combined operator

/-- The negative of a value is well formed. -/
theorem wellFormed_negate (value : Value) : value.negate.value.WellFormed := by
  -- All results are numbers or absent.
  unfold negate
  split
  · exact .int _
  · exact .float _
  · exact .int _
  · exact .null

/-- What a well-formed value iterates over is well formed. -/
theorem wellFormed_of_mem_items {value item : Value} (whole : value.WellFormed) (member : item ∈ value.items) :
    item.WellFormed := by
  -- Elements and keys are parts of the value, and the characters of a text are texts.
  cases whole with
  | list members => exact members item member
  | tuple members => exact members item member
  | dict unique keys values =>
    obtain ⟨entry, isEntry, rfl⟩ := List.mem_map.mp member
    exact keys entry isEntry
  | str text =>
    obtain ⟨c, _, rfl⟩ := List.mem_map.mp member
    exact .str _
  | _ => cases member

end Value

end DynValue
