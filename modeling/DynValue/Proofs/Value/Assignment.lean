import DynValue.Proofs.Value.Reach

/-!
Assignment along a path is a lawful change of what the path reads, and its failure damages nothing.

The keys of subscripts have to be well formed, as all keys built by the operations on dicts are.
-/

namespace DynValue.Value

/--
Assignment along a path is a lens over reading along the path.

It succeeds where the path can be read and passes through no tuple. What was assigned is read back, a second assignment
replaces the first, and paths that part from the assigned one read the same element or fail with the same fault.
-/
theorem assignPath_lens (state new : Value) (path : List Subscript) (keyed : Keyed path) :
    ((∃ old, (state.assignPath path new).value.2 = .ok old) ↔
        (∃ element, (state.selectPath path).value = .ok element) ∧
          ∀ container ∈ state.visited path, container.kind ≠ .tuple) ∧
      ∀ old after, (state.assignPath path new).value = (after, .ok old) →
        (after.selectPath path).value = .ok new ∧
        (∀ newer, (after.assignPath path newer).value =
          ((state.assignPath path newer).value.1, .ok new)) ∧
        ∀ other, Keyed other → state.Part path other →
          after.selectPath other = state.selectPath other := by
  constructor
  · -- Assignments succeed exactly on the paths that reach a slot.
    constructor
    · rintro ⟨old, assigned⟩
      cases reached : state.reach path with
      | error failure =>
        rw [assignPath_of_unreached reached] at assigned
        contradiction
      | ok slot =>
        obtain ⟨read, clear⟩ := selectPath_of_reach reached
        exact ⟨⟨slot.content, by rw [read]; rfl⟩, clear⟩
    · rintro ⟨readable, clear⟩
      obtain ⟨slot, reached⟩ := reach_of_selectPath readable clear
      exact ⟨slot.content, by rw [assignPath_of_reach reached]⟩
  · intro old after assigned
    cases reached : state.reach path with
    | error failure =>
      rw [assignPath_of_unreached reached] at assigned
      cases assigned
    | ok slot =>
      rw [assignPath_of_reach reached, Prod.mk.injEq] at assigned
      obtain ⟨rfl, _⟩ := assigned
      -- After the assignment the same path reaches the same slot with the new content.
      have again := reach_put keyed reached new
      refine ⟨?_, ?_, ?_⟩
      · rw [(selectPath_of_reach again).1]
        rfl
      · intro newer
        rw [assignPath_of_reach again, assignPath_of_reach reached]
      · intro other otherKeyed part
        exact selectPath_put_of_part keyed otherKeyed reached part new

/-- Assigning at the last position of a list leaves the position that a truth value selects. -/
theorem assignPath_lens_last :
    let state : Value := .dict [(.str "a", .list [.int 10, .int 20])]
    let after : Value := .dict [(.str "a", .list [.int 10, .int 7])]
    let path : List Subscript := [.text "a", .int64 (-1)]
    let other : List Subscript := [.value (.str "a"), .value (.bool false)]
    (after.selectPath path).value = .ok (.int 7) ∧ after.selectPath other = state.selectPath other := by
  -- The two paths part at the list, where minus one and false select different positions.
  have laws := (assignPath_lens (.dict [(.str "a", .list [.int 10, .int 20])]) (.int 7)
    [.text "a", .int64 (-1)] (by decide)).2 (.int 20) (.dict [(.str "a", .list [.int 10, .int 7])]) rfl
  exact ⟨laws.1, laws.2.2 _ (by decide) (by decide)⟩

/--
The second value is the first with one entry more, the key with the absent value, in the dict that a path leads to.

Every list on the way keeps its length and its other elements, every dict its keys and its other entries.
-/
inductive Gains (key : Value) : Value → List Subscript → Value → Prop where
  /-- The dict at the end of the path gains the key, which it did not have. -/
  | here {entries : Entries} (missing : Entries.find? entries key = none) :
      Gains key (.dict entries) [] (.dict (entries ++ [(key, .null)]))
  /-- One element of a list changes. -/
  | element {items : List Value} {subscript : Subscript} {rest : List Subscript} {index : Nat}
      {item changed : Value} (placed : positionBy? subscript items.length = some index)
      (present : items[index]? = some item) (gains : Gains key item rest changed) :
      Gains key (.list items) (subscript :: rest) (.list (items.set index changed))
  /-- The value of one entry of a dict changes. -/
  | entry {front back : Entries} {subscript : Subscript} {rest : List Subscript}
      {other value changed : Value} (equal : (subscript.key == other) = true)
      (first : ∀ entry ∈ front, (subscript.key == entry.1) = false) (gains : Gains key value rest changed) :
      Gains key (.dict (front ++ (other, value) :: back)) (subscript :: rest)
        (.dict (front ++ (other, changed) :: back))

/-- A gain in the content of a slot is a gain in the whole. -/
theorem gains_put {key value changed : Value} {subscript : Subscript} {rest : List Subscript} {slot : Slot}
    (found : value.slotBy subscript = .ok slot) (gains : Gains key slot.content rest changed) :
    Gains key value (subscript :: rest) (slot.put changed) := by
  -- A slot is an entry of a dict or a position of a list, and these are the two ways down.
  rcases slotBy_ok_cases found with ⟨entries, rfl, rfl⟩ | ⟨items, index, rfl, placed, rfl⟩
  · cases present : Entries.find? entries subscript.key with
    | none =>
      -- A missing key stands for the absent value, which contains no dict.
      simp only [keySlot, present, Option.getD_none] at gains
      cases gains
    | some content =>
      simp only [keySlot, present, Option.getD_some] at gains ⊢
      obtain ⟨front, other, back, rfl, equal, first, changes⟩ := Entries.exists_split_of_find? present
      rw [changes changed]
      exact .entry equal first gains
  · have inside := positionBy?_lt placed
    have present : items[index]? = some items[index] := List.getElem?_eq_getElem inside
    simp only [itemSlot, present, Option.getD_some] at gains ⊢
    exact .element placed present gains

/-- The absent value gives no slot. -/
theorem reach_null_cons (subscript : Subscript) (rest : List Subscript) :
    ∃ fault, Value.null.slotBy subscript = .error fault ∧
      Value.null.reach (subscript :: rest) = .error (.null, fault) := by
  -- Only dicts and lists have slots.
  cases found : Value.null.slotBy subscript with
  | error fault => exact ⟨fault, rfl, reach_cons_error found rest⟩
  | ok slot => rcases slotBy_ok_cases found with ⟨_, absurd, _⟩ | ⟨_, _, absurd, _⟩ <;> cases absurd

/-- A path that reaches no slot leaves the value as it was, or with a key that was missing just before the fault. -/
theorem left_of_unreached {value left : Value} {path : List Subscript} {fault : Fault}
    (failed : value.reach path = .error (left, fault)) :
    left = value ∨
      ∃ front subscript next back, path = front ++ subscript :: next :: back ∧
        Gains subscript.key value front left ∧ Value.null.slotBy next = .error fault := by
  -- A key is added on the way back only, and only where the path had gone on in the absent value.
  induction path generalizing value left with
  | nil => simp [reach] at failed
  | cons subscript rest ih =>
    rcases reach_cons_error_cases failed with ⟨_, rfl⟩ | ⟨slot, content, found, below, rfl⟩
    · exact .inl rfl
    · rcases ih below with unchanged | ⟨front, key, next, back, split, gains, fails⟩
      · -- The content was put back as it was, which adds the key if it was missing.
        rw [unchanged]
        rcases put_content found with same | ⟨entries, rfl, missing, absent, added⟩
        · exact .inl same
        · right
          rw [absent] at below ⊢
          rw [added]
          cases rest with
          | nil => simp [reach] at below
          | cons next back =>
            -- The absent value fails at once, so that the next subscript is the one at fault.
            obtain ⟨cause, fails, ends⟩ := reach_null_cons next back
            rw [ends] at below
            cases below
            exact ⟨[], subscript, next, back, rfl, .here missing, fails⟩
      · exact .inr ⟨subscript :: front, key, next, back, by rw [split]; rfl, gains_put found gains, fails⟩

/-- A path that reaches no slot fails in the same way on what it left behind, and changes nothing more. -/
theorem reach_left {value left : Value} {path : List Subscript} {fault : Fault} (keyed : Keyed path)
    (failed : value.reach path = .error (left, fault)) : left.reach path = .error (left, fault) := by
  induction path generalizing value left with
  | nil => simp [reach] at failed
  | cons subscript rest ih =>
    obtain ⟨key, keyed⟩ := keyed_cons.mp keyed
    rcases reach_cons_error_cases failed with ⟨found, rfl⟩ | ⟨slot, content, found, below, rfl⟩
    · exact reach_cons_error found rest
    · -- A key that was missing is there now, and holds what the failure left in it.
      have again := reach_cons_inner_error (slotBy_put key found content) (ih keyed below)
      exact again

/-- A path cannot be read past the absent value. -/
theorem visited_null {path : List Subscript} : ∀ container ∈ Value.null.visited path, container = .null := by
  cases path with
  | nil => simp [visited]
  | cons subscript rest =>
    -- What gives no slot and is no tuple cannot be read either.
    obtain ⟨fault, failed, _⟩ := reach_null_cons subscript rest
    have unread := (slotBy_error_cases failed).resolve_left (by simp [kind])
    simp [visited, unread]

/-- A path that is stopped by a tuple leaves the value exactly as it was. -/
theorem reach_of_tuple {value : Value} {path : List Subscript}
    (stopped : ∃ container ∈ value.visited path, container.kind = .tuple) :
    ∃ fault, value.reach path = .error (value, fault) := by
  -- Everything before the tuple was present, so that putting it back changes nothing.
  induction path generalizing value with
  | nil => simp [visited] at stopped
  | cons subscript rest ih =>
    cases found : value.slotBy subscript with
    | error fault => exact ⟨fault, reach_cons_error found rest⟩
    | ok slot =>
      have first := itemBy_of_slotBy found
      simp only [visited, first, List.mem_cons] at stopped
      obtain ⟨container, rfl | member, isTuple⟩ := stopped
      · exact absurd isTuple (kind_ne_tuple_of_slotBy found)
      · obtain ⟨fault, failed⟩ := ih ⟨container, member, isTuple⟩
        rcases put_content found with same | ⟨entries, _, _, absent, _⟩
        · exact ⟨fault, by rw [reach_cons_inner_error found failed, same]⟩
        · -- No path leads from the absent value of a missing key to a tuple.
          rw [absent] at member
          rw [visited_null container member] at isTuple
          cases isTuple

/--
A failing assignment along a path damages nothing.

What it leaves is the state as it was, or the state with one missing key of one dict on the path added just before the
subscript that failed. A path stopped by a tuple leaves the state as it was. The same assignment fails again with the
same fault and leaves what the first failure left.
-/
theorem assignPath_failure (state new left : Value) (path : List Subscript) (fault : Fault)
    (keyed : Keyed path) (failed : (state.assignPath path new).value = (left, .error fault)) :
    (left = state ∨
        ∃ front subscript next back, path = front ++ subscript :: next :: back ∧
          Gains subscript.key state front left ∧ Value.null.slotBy next = .error fault) ∧
      ((∃ container ∈ state.visited path, container.kind = .tuple) → left = state) ∧
      (left.assignPath path new).value = (left, .error fault) := by
  -- What the assignment leaves behind does not depend on the value to be assigned.
  cases reached : state.reach path with
  | ok slot =>
    rw [assignPath_of_reach reached] at failed
    cases failed
  | error failure =>
    obtain ⟨remains, cause⟩ := failure
    rw [assignPath_of_unreached reached] at failed
    cases failed
    refine ⟨left_of_unreached reached, ?_, ?_⟩
    · -- A tuple on the way stops the path before anything is changed.
      intro stopped
      obtain ⟨_, unchanged⟩ := reach_of_tuple stopped
      rw [unchanged] at reached
      cases reached
      rfl
    · rw [assignPath_of_unreached (reach_left keyed reached)]
      rfl

/-- A missing key that is followed by another subscript stays in the dict. -/
theorem assignPath_failure_missing_key :
    let left : Value := .dict [(.str "a", .dict [(.str "b", .null)])]
    let path : List Subscript := [.text "a", .text "b", .text "c"]
    (left.assignPath path (.int 7)).value = (left, .error (.notKeyed .null)) :=
  (assignPath_failure (.dict [(.str "a", .dict [])]) (.int 7) _ [.text "a", .text "b", .text "c"]
    (.notKeyed .null) (by decide) rfl).2.2

end DynValue.Value
