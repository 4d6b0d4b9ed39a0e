import DynValue.Value.Arithmetic
import DynValue.Value.Subscript

/-! Reading and changing of values deep inside others, along a path of subscripts. -/

namespace DynValue.Value

/-- A place inside a value: what stands there, and the whole with something else put there. -/
structure Slot where
  /-- What stands at the place. -/
  content : Value
  /-- The whole with another content at the place. -/
  put : Value → Value

/-- The place of a key in a dict, holding the absent value while the key is missing. -/
def keySlot (entries : Entries) (key : Value) : Slot :=
  ⟨(Entries.find? entries key).getD .null, fun content => .dict (Entries.insert entries key content)⟩

/-- The place at an index of a list, or under the integer in a dict. -/
def slot (value : Value) (index : Word64) : Except Fault Slot :=
  match value with
  | .list items =>
    match position? index.toInt items.length with
    | some place => .ok ⟨items[place]?.getD .null, fun content => .list (items.set place content)⟩
    | none => .error (.noPosition value.kind index.toInt items.length)
  | .dict entries => .ok (keySlot entries (.int index))
  -- A tuple has positions, but none that can be changed.
  | .tuple _ => .error (.notAssignable value.kind)
  | other => .error (.notPositional other.kind)

/-- The place that a subscript selects for change. -/
def slotBy (value : Value) (subscript : Subscript) : Except Fault Slot :=
  match value, subscript.key with
  | .dict entries, key => .ok (keySlot entries key)
  | value, .int index => value.slot index
  | value, .bool truth => value.slot (Word.ofInt _ truth.toInt)
  | value, _ => .error (.notKeyed value.kind)

/-- What a path selects, each subscript applied to what the ones before it select. -/
def selectPath (value : Value) : List Subscript → Traced (Except Fault Value)
  | [] => pure (.ok value)
  | subscript :: rest => do
    match ← value.select subscript with
    | .ok element => element.selectPath rest
    | .error fault => pure (.error fault)

/--
Changes what a path selects, and gives the changed whole with an answer about the change.

A missing key of a dict on the path is inserted on the way, and stays inserted when a later subscript fails.
-/
def changePath {α : Type} (change : Value → Traced (Value × α)) (value : Value) :
    List Subscript → Traced (Value × Except Fault α)
  | [] => do
    let (changed, answer) ← change value
    pure (changed, .ok answer)
  | subscript :: rest =>
    match value.slotBy subscript with
    | .error fault => .report (.subscriptFailed fault) (value, .error fault)
    | .ok slot => do
      -- The content is put back even when the change further down fails.
      let (content, answer) ← changePath change slot.content rest
      pure (slot.put content, answer)

/-- Puts a value where a path leads, and gives the one that was there. -/
def assignPath (value : Value) (path : List Subscript) (new : Value) :
    Traced (Value × Except Fault Value) :=
  value.changePath (fun old => pure (new, old)) path

/-- Combines what stands where a path leads with an operand, and gives the result. -/
def operatePath (value : Value) (path : List Subscript) (operator : Operator) (operand : Value) :
    Traced (Value × Except Fault Value) :=
  value.changePath (fun old => do
    let new ← old.apply operator operand
    pure (new, new)) path

end DynValue.Value
