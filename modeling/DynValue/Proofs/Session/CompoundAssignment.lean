import DynValue.Proofs.Value.Reach
import DynValue.Session

/-!
Combining in place is reading, combining and assigning.

Along a path this holds for every operator, and a failure is the failure of the assignment. Over the elements of a list it
holds in whatever order the positions are visited.
-/

namespace DynValue

/-! ## Steps along a path -/

namespace Step

variable {state : Value} {path : List Subscript}

/-- A path that reaches a slot has the step taken on what is in it, and what is left is put back. -/
theorem run_within_of_reach {slot : Value.Slot} (reached : state.reach path = .ok slot) (step : Step) :
    (Step.within path step).run state =
      ⟨(slot.put (step.run slot.content).value.1, (step.run slot.content).value.2),
        (step.run slot.content).records⟩ := by
  rw [run, Value.changePath_eq_reach, reached]
  -- Handing on the answer adds nothing to the records of the step.
  show Traced.mk _ ((step.run slot.content).records ++ []) = _
  rw [List.append_nil]
  rfl

/-- A path that reaches no slot fails as the assignment of any value does, whatever the step. -/
theorem run_within_of_unreached {left : Value} {fault : Fault} (failed : state.reach path = .error (left, fault))
    (step : Step) : (Step.within path step).run state = .report (.subscriptFailed fault) (left, .error fault) := by
  -- The step is not carried out, and the failure of the path is all that is reported.
  rw [run, Value.changePath_eq_reach, failed]
  rfl

/-- An assigning operator leaves the result and answers nothing. -/
theorem run_operate (operator : Operator) (operand state : Value) :
    (Step.operate operator operand).run state =
      ⟨((state.apply operator operand).value, .ok .nothing), (state.apply operator operand).records⟩ := by
  rw [run, Value.operateInPlace_run]
  -- Taking the value out and putting the result back are no occasion for records.
  show Traced.mk _ ((state.apply operator operand).records ++ [] ++ []) = _
  rw [List.append_nil, List.append_nil]
  rfl

end Step

/-! ## Combining in place -/

namespace Value

variable {state : Value} {path : List Subscript}

/-- A path that reaches a slot has the combination put there, with the records of the operator. -/
theorem operatePath_of_reach {slot : Slot} (reached : state.reach path = .ok slot) (operator : Operator)
    (operand : Value) :
    state.operatePath path operator operand =
      ⟨(slot.put (slot.content.apply operator operand).value, .ok (slot.content.apply operator operand).value),
        (slot.content.apply operator operand).records⟩ := by
  rw [operatePath, changePath_eq_reach, reached]
  -- Giving the result twice adds nothing to the records.
  show Traced.mk _ ((slot.content.apply operator operand).records ++ []) = _
  rw [List.append_nil]
  rfl

/-- A path that reaches no slot fails as the assignment of any value does. -/
theorem operatePath_of_unreached {left : Value} {fault : Fault} (failed : state.reach path = .error (left, fault))
    (operator : Operator) (operand new : Value) :
    state.operatePath path operator operand = state.assignPath path new := by
  -- Neither the operator nor the new value is looked at before the slot is reached.
  rw [assignPath_of_unreached failed, operatePath, changePath_eq_reach, failed]

/-- Reading goes on in what the first part of a path reads. -/
theorem selectPath_append {container : Value} {front : List Subscript} (rest : List Subscript)
    (read : (state.selectPath front).value = .ok container) :
    (state.selectPath (front ++ rest)).value = (container.selectPath rest).value := by
  induction front generalizing state with
  | nil => rw [← Except.ok.inj read]; rfl
  | cons subscript front ih =>
    -- A subscript that finds nothing ends the reading, which has given a container.
    cases first : state.itemBy subscript with
    | error fault =>
      rw [selectPath_cons_error first] at read
      contradiction
    | ok element =>
      rw [selectPath_cons_ok first] at read
      rw [List.cons_append, selectPath_cons_ok first, ih read]

/-- A missing key at the end of a path reads as the absent value. -/
theorem selectPath_of_missing {front : List Subscript} {subscript : Subscript} {entries : Entries}
    (read : (state.selectPath front).value = .ok (.dict entries))
    (missing : Entries.find? entries subscript.key = none) :
    (state.selectPath (front ++ [subscript])).value = .ok .null := by
  -- A dict reads a missing key as the absent value, without a fault.
  have last : (Value.dict entries).itemBy subscript = .ok .null := by rw [itemBy_dict, missing]; rfl
  rw [selectPath_append [subscript] read, selectPath_cons_ok last]
  rfl

/-- What combining in place does, next to reading, combining and assigning. -/
structure ReadsOperatesWrites (state : Value) (path : List Subscript) (operator : Operator) (operand : Value) :
    Prop where
  /-- It succeeds where the assignment of the operand does. -/
  succeeds_iff : (∃ new, (state.operatePath path operator operand).value.2 = .ok new) ↔
    ∃ old, (state.assignPath path operand).value.2 = .ok old
  /-- If it succeeds, the path reads a value, and what it leaves is left by assigning that value's combination. -/
  succeeded : ∀ after new, (state.operatePath path operator operand).value = (after, .ok new) →
    ∃ old, (state.selectPath path).value = .ok old ∧ new = (old.apply operator operand).value ∧
      (state.assignPath path new).value = (after, .ok old)
  /-- A missing key at the end of the path counts as the absent value. -/
  missing : ∀ front subscript entries, path = front ++ [subscript] →
    (state.selectPath front).value = .ok (.dict entries) → Entries.find? entries subscript.key = none →
    (state.selectPath path).value = .ok .null
  /-- If it fails, it leaves the same, answers the same fault and records the same as the failing assignment. -/
  failed : ∀ left fault, (state.operatePath path operator operand).value = (left, .error fault) →
    state.operatePath path operator operand = state.assignPath path operand
  /-- It leaves and records what the assigning operator does on what stands where the path leads. -/
  inPlace : (state.operatePath path operator operand).value.1 =
      ((Step.within path (.operate operator operand)).run state).value.1 ∧
    (state.operatePath path operator operand).records = ((Step.within path (.operate operator operand)).run state).records

/-- Along every path, combining in place is reading, combining and assigning. -/
theorem readsOperatesWrites (state : Value) (path : List Subscript) (operator : Operator) (operand : Value) :
    ReadsOperatesWrites state path operator operand := by
  have missing : ∀ front subscript entries, path = front ++ [subscript] →
      (state.selectPath front).value = .ok (.dict entries) → Entries.find? entries subscript.key = none →
      (state.selectPath path).value = .ok .null := by
    rintro front subscript entries rfl read missing
    exact selectPath_of_missing read missing
  -- Both ways lead to the same slot, or fail on the way to it.
  cases reached : state.reach path with
  | ok slot =>
    have operated := operatePath_of_reach reached operator operand
    refine ⟨?_, ?_, missing, ?_, ?_⟩
    · rw [operated, assignPath_of_reach reached]
      exact ⟨fun _ => ⟨_, rfl⟩, fun _ => ⟨_, rfl⟩⟩
    · intro after new succeeded
      rw [operated] at succeeded
      cases succeeded
      refine ⟨slot.content, ?_, rfl, ?_⟩
      · rw [(selectPath_of_reach reached).1]
        rfl
      · rw [assignPath_of_reach reached]
    · intro left fault failed
      rw [operated] at failed
      cases failed
    · -- Done by a step in the slot, the operator sees the same content.
      rw [operated, Step.run_within_of_reach reached, Step.run_operate]
      exact ⟨rfl, rfl⟩
  | error failure =>
    obtain ⟨left, fault⟩ := failure
    have operated := operatePath_of_unreached reached operator operand
    refine ⟨by rw [operated operand], ?_, missing, fun _ _ _ => operated operand, ?_⟩
    · intro after new succeeded
      rw [operated operand, assignPath_of_unreached reached] at succeeded
      cases succeeded
    · -- The step in the slot is not carried out either.
      rw [operated operand, assignPath_of_unreached reached, Step.run_within_of_unreached reached]
      exact ⟨rfl, rfl⟩

/-- What an operator makes of an element, without its records. -/
def combined (operator : Operator) (operand item : Value) : Value := (item.apply operator operand).value

/-- Combining in place by a subscript of a list changes the element at the position it selects. -/
theorem run_operatePath_list {items : List Value} {subscript : Subscript} {place : Nat}
    (found : positionBy? subscript items.length = some place) (operator : Operator) (operand : Value) :
    ((Step.operatePath [subscript] operator operand).run (.list items)).value.1 =
      .list (items.modify place (combined operator operand)) := by
  -- The slot of a single subscript is the one of the list itself.
  have reached : (Value.list items).reach [subscript] = .ok (itemSlot items place) := by
    rw [reach, slotBy_list_of_position found]
    rfl
  show ((Value.list items).operatePath [subscript] operator operand).value.1 = _
  rw [operatePath_of_reach reached, List.modify_eq_set]
  rfl

/-- Subscripts that select positions of a list change the elements there, one after the other. -/
theorem finalState_operatePaths {items : List Value} {visits : List Subscript} {places : List Nat}
    (found : visits.map (positionBy? · items.length) = places.map some) (operator : Operator) (operand : Value) :
    finalState (.list items) (visits.map fun subscript => .operatePath [subscript] operator operand) =
      .list (places.foldl (fun items place => items.modify place (combined operator operand)) items) := by
  -- No change of an element changes the length, so that all subscripts keep their positions.
  induction visits generalizing items places with
  | nil =>
    obtain rfl : places = [] := by simpa using found
    rfl
  | cons subscript visits ih =>
    obtain ⟨place, places, rfl, first, rest⟩ := List.map_eq_cons_iff.mp found.symm
    rw [finalState, List.map_cons, List.foldl_cons, run_operatePath_list first.symm]
    exact ih (by rw [List.length_modify]; exact rest.symm)

end Value

/-- Where each place is changed once, the changed elements are those at the places, in whatever order they come. -/
theorem getElem?_foldl_modify {α : Type} (change : α → α) {places : List Nat} (once : places.Nodup) (items : List α)
    (place : Nat) :
    (places.foldl (fun items place => items.modify place change) items)[place]? =
      if place ∈ places then items[place]?.map change else items[place]? := by
  induction places generalizing items with
  | nil => simp
  | cons first rest ih =>
    obtain ⟨fresh, once⟩ := List.nodup_cons.mp once
    rw [List.foldl_cons, ih once, List.getElem?_modify]
    -- The first place does not come again, so that its element is not changed twice.
    by_cases same : first = place
    · subst same
      simp [fresh]
    · simp [same, Ne.symm same]

/-- Changing every element once, in whatever order, is changing all of them. -/
theorem foldl_modify_of_perm {α : Type} (change : α → α) {items : List α} {places : List Nat}
    (each : places.Perm (List.range items.length)) :
    places.foldl (fun items place => items.modify place change) items = items.map change := by
  -- Lists are equal that have the same at every place, which leaves no trace of the order.
  have once : places.Nodup := each.nodup_iff.mpr List.nodup_range
  apply List.ext_getElem?
  intro place
  rw [getElem?_foldl_modify change once, List.getElem?_map]
  -- A place that is not among the positions holds nothing.
  split
  · rfl
  case isFalse outside =>
    rw [each.mem_iff, List.mem_range, Nat.not_lt] at outside
    rw [List.getElem?_eq_none outside]
    rfl

/-- Subscripts that select each position of a list once select an order of the positions. -/
theorem exists_places {visits : List Subscript} {length : Nat}
    (each : (visits.map (Value.positionBy? · length)).Perm ((List.range length).map some)) :
    ∃ places : List Nat, visits.map (Value.positionBy? · length) = places.map some ∧
      places.Perm (List.range length) := by
  refine ⟨visits.filterMap (Value.positionBy? · length), ?_, ?_⟩
  · -- None of the subscripts is without a position.
    rw [List.map_filterMap_some_eq_filter_map_isSome, eq_comm, List.filter_eq_self]
    intro position member
    obtain ⟨place, _, rfl⟩ := List.mem_map.mp (each.mem_iff.mp member)
    rfl
  · have places := each.filterMap id
    rwa [List.filterMap_map, List.filterMap_map, Function.id_comp, Function.id_comp, List.filterMap_some] at places

/-- Going through the elements of a list combines every one of them. -/
theorem finalState_operateItems (items : List Value) (operator : Operator) (operand : Value) :
    finalState (.list items) [.operateItems operator operand] = .list (items.map (Value.combined operator operand)) := by
  -- The elements are combined one by one, and each result depends on its element alone.
  have values := Traced.value_mapM (fun item : Value => item.apply operator operand) items
  exact congrArg Value.list values

/--
Combining in place is reading, combining and assigning.

Along every path it succeeds where an assignment does, leaves what is left by assigning the combination of what the path
reads, and fails as the assignment fails. Going through the elements of a list leaves the same as combining in place at
every position once, in whatever order and by whatever subscripts. Going through any other value touches nothing.
-/
theorem compound_assignment :
    (∀ (state : Value) (path : List Subscript) (operator : Operator) (operand : Value),
      Value.ReadsOperatesWrites state path operator operand) ∧
      (∀ (items : List Value) (operator : Operator) (operand : Value) (visits : List Subscript),
        (visits.map (Value.positionBy? · items.length)).Perm ((List.range items.length).map some) →
        finalState (.list items) (visits.map fun subscript => .operatePath [subscript] operator operand) =
          finalState (.list items) [.operateItems operator operand]) ∧
      ∀ state : Value, state.kind ≠ .list →
        (∀ (operator : Operator) (operand : Value),
          (Step.operateItems operator operand).run state = pure (state, .ok (.count 0))) ∧
          ∀ values : List Value, (Step.assignItems values).run state = pure (state, .ok (.count 0)) := by
  refine ⟨Value.readsOperatesWrites, ?_, ?_⟩
  · intro items operator operand visits each
    -- Every position is visited once, and the changes of different positions do not meet.
    obtain ⟨places, found, each⟩ := exists_places each
    rw [Value.finalState_operatePaths found, foldl_modify_of_perm _ each, finalState_operateItems]
  · -- Only a list hands out its elements to be changed.
    intro state noList
    cases state with
    | list items => exact absurd rfl noList
    | _ => exact ⟨fun _ _ => rfl, fun _ => rfl⟩

/--
An element of a list in a dict is combined in place, a missing key counts as absent, and a path fails as an assignment.

The last element of a list may be combined before the first, which a truth value selects. A dict is not gone through.
-/
theorem compound_assignment_orders :
    let state : Value := .dict [(.str "a", .list [.int 1, .str "b"])]
    let after : Value := .dict [(.str "a", .list [.int 3, .str "b"])]
    (∃ old, (state.selectPath [.text "a", .size 0]).value = .ok old ∧ .int 3 = (old.apply .add (.int 2)).value ∧
        (state.assignPath [.text "a", .size 0] (.int 3)).value = (after, .ok old)) ∧
      (state.selectPath [.text "c"]).value = .ok .null ∧
      (∃ old, (state.assignPath [.text "c"] (.int 2)).value.2 = .ok old) ∧
      state.operatePath [.text "a", .int64 7] .add (.int 2) = state.assignPath [.text "a", .int64 7] (.int 2) ∧
      finalState (.list [.int 1, .str "b"])
          [.operatePath [.int32 (-1)] .mul (.int 2), .operatePath [.value (.bool false)] .mul (.int 2)] =
        finalState (.list [.int 1, .str "b"]) [.operateItems .mul (.int 2)] ∧
      (Step.operateItems .mul (.int 2)).run state = pure (state, .ok (.count 0)) := by
  -- Each clause is one of the laws at a state with a list inside of a dict.
  intro state after
  obtain ⟨paths, lists, others⟩ := compound_assignment
  refine ⟨?_, ?_, ?_, ?_, ?_, ?_⟩
  · exact (paths state [.text "a", .size 0] .add (.int 2)).succeeded after (.int 3) rfl
  · exact (paths state [.text "c"] .add (.int 2)).missing [] (.text "c") _ rfl rfl rfl
  · exact (paths state [.text "c"] .add (.int 2)).succeeds_iff.mp ⟨.null, rfl⟩
  · exact (paths state [.text "a", .int64 7] .add (.int 2)).failed state (.noPosition .list 7 2) rfl
  · exact lists [.int 1, .str "b"] .mul (.int 2) [.int32 (-1), .value (.bool false)] (by decide)
  · exact (others state (by decide)).1 .mul (.int 2)

end DynValue
