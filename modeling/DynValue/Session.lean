import DynValue.Value.Iterate
import DynValue.Value.Path

/-! A value as a state that steps change one after the other; a step that fails does not end the run. -/

namespace DynValue

/-- The changes of a list as a whole. -/
inductive ListEdit where
  /-- Puts the elements in ascending order. -/
  | sort
  /-- Puts the elements in reverse order. -/
  | reverse
  /-- Drops the elements that equal the one before them. -/
  | dropRepeats
  /-- Drops all elements. -/
  | clear
  /-- Drops the last element. -/
  | dropLast

/-- The elements after a change of a list. -/
def ListEdit.apply : ListEdit → List Value → List Value
  | .sort, items => Value.sort items
  | .reverse, items => items.reverse
  | .dropRepeats, items => Value.dropRepeats items
  | .clear, _ => []
  | .dropLast, items => items.dropLast

/-- The changes of a dict as a whole. -/
inductive DictEdit where
  /-- Drops all entries. -/
  | clear
  /-- Puts a value under a key that has none. -/
  | insertIfMissing (key value : Value)

/-- The entries after a change of a dict. -/
def DictEdit.apply : DictEdit → Entries → Entries
  | .clear, _ => []
  | .insertIfMissing key value, entries => entries.insertIfMissing key value

/-- One step of a session. -/
inductive Step where
  /-- Replaces the state. -/
  | set (value : Value)
  /-- Adds an element at the end of a list. -/
  | push (item : Value)
  /-- Puts a value under a key of a dict. -/
  | insert (key value : Value)
  /-- Removes the entry under a key of a dict and answers its value. -/
  | remove (key : Value)
  /-- Puts a value at an index and answers the one that was there. -/
  | assignItem (index : Word64) (value : Value)
  /-- Puts a value where a path leads and answers the one that was there. -/
  | assignPath (path : List Subscript) (value : Value)
  /-- Combines what stands where a path leads with an operand and answers the result. -/
  | operatePath (path : List Subscript) (operator : Operator) (operand : Value)
  /-- Answers what a path selects. -/
  | selectPath (path : List Subscript)
  /-- Changes a list as a whole and answers its new length. -/
  | editList (edit : ListEdit)
  /-- Changes a dict as a whole and answers its new size. -/
  | editDict (edit : DictEdit)
  /-- Puts values in the places of the first elements of a list and answers how many were put. -/
  | assignItems (values : List Value)
  /-- Combines every element of a list with an operand and answers their number. -/
  | operateItems (operator : Operator) (operand : Value)
  /-- Combines the state with an operand. -/
  | operate (operator : Operator) (operand : Value)
  /-- Negates the state. -/
  | negate
  /-- Replaces the state by the list of the values that iteration goes through. -/
  | collect
  /-- Takes a step on what stands where a path leads, in the place of the state. -/
  | within (path : List Subscript) (step : Step)

/-- What a step answers. -/
inductive Answer where
  /-- Nothing. -/
  | nothing
  /-- A value. -/
  | value (value : Value)
  /-- A value that may be missing. -/
  | found (value : Option Value)
  /-- A number. -/
  | count (number : Nat)

namespace Step

/-- A step that only changes the state. -/
def silent (state : Value) : Traced (Value × Except Fault Answer) :=
  pure (state, .ok .nothing)

/-- The state after a step, and its answer. -/
def run : Step → Value → Traced (Value × Except Fault Answer)
  | .set value, _ => silent value
  | .push item, state => silent (state.push item)
  | .insert key value, state => silent (state.insert key value)
  | .remove key, state => pure (state.erase key, .ok (.found (state.get? key)))
  -- Assignment by position reports its fault without a record.
  | .assignItem index value, state =>
    match state.slot index with
    | .ok slot => pure (slot.put value, .ok (.value slot.content))
    | .error fault => pure (state, .error fault)
  | .assignPath path value, state => do
    let (changed, answer) ← state.assignPath path value
    pure (changed, answer.map .value)
  | .operatePath path operator operand, state => do
    let (changed, answer) ← state.operatePath path operator operand
    pure (changed, answer.map .value)
  | .selectPath path, state => do
    let answer ← state.selectPath path
    pure (state, answer.map .value)
  | .editList edit, state =>
    match state with
    | .list items =>
      let edited := edit.apply items
      pure (.list edited, .ok (.count edited.length))
    | other => silent other
  | .editDict edit, state =>
    match state with
    | .dict entries =>
      let edited := edit.apply entries
      pure (.dict edited, .ok (.count edited.length))
    | other => silent other
  | .assignItems values, state =>
    match state with
    | .list items =>
      -- The list keeps its length, however many values there are.
      let changed := values.take items.length ++ items.drop values.length
      pure (.list changed, .ok (.count (min values.length items.length)))
    | other => pure (other, .ok (.count 0))
  | .operateItems operator operand, state =>
    match state with
    | .list items => do
      -- The elements are taken in order, and so are the records about them.
      let changed ← items.mapM fun item => item.apply operator operand
      pure (.list changed, .ok (.count items.length))
    | other => pure (other, .ok (.count 0))
  | .operate operator operand, state => do
    let ((), changed) ← (Value.operateInPlace operator operand).run state
    silent changed
  | .negate, state => do
    let changed ← state.negate
    silent changed
  | .collect, state => silent state.collect
  | .within path step, state => do
    let (changed, answer) ← state.changePath step.run path
    -- A path that fails answers its fault, and any other path what the step answers there.
    pure (changed, answer.bind id)

end Step

/-- The state after a run of steps, whether or not each of them succeeds. -/
def finalState (state : Value) (steps : List Step) : Value :=
  steps.foldl (fun state step => (step.run state).value.1) state

end DynValue
