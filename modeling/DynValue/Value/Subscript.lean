import DynValue.Text.Walk
import DynValue.Trace
import DynValue.Value.Entries

/-! Reading of elements and entries by subscripts, leniently or with a fault. -/

namespace DynValue

/-- The place an index selects in a sequence of some length, a negative index counting from the end. -/
def position? (index : Int) (length : Nat) : Option Nat :=
  let place := if index < 0 then index + length else index
  if 0 ≤ place ∧ place < length then some place.toNat else none

/-- The element an index selects. -/
def elementAt? {α : Type} (items : List α) (index : Int) : Option α :=
  (position? index items.length).bind (items[·]?)

/-- The character an index selects; only a negative index needs the length of the text. -/
def charAt? (text : String) (index : Int) : Option Char :=
  let walk := Text.Walk.start text
  if 0 ≤ index then walk.nth? index.toNat
  else (position? index text.length).bind walk.nth?

/-- What stands between the brackets of a subscript. -/
inductive Subscript where
  /-- An index of 32 bits. -/
  | int32 (index : Word .int32)
  /-- An index of 64 bits. -/
  | int64 (index : Word64)
  /-- An unsigned position. -/
  | size (index : Word .uint64)
  /-- A text as a key. -/
  | text (key : String)
  /-- A value as a key or an index. -/
  | value (key : Value)

namespace Subscript

/-- The value that selects the same as the subscript, an unsigned position being cut to the signed range. -/
def key : Subscript → Value
  | .int32 index => .int (index.convert .int64)
  | .int64 index => .int index
  | .size index => .int (Word.clamp .int64 index.toInt)
  | .text key => .str key
  | .value key => key

end Subscript

/-- The value under the key of a subscript; of a text no value is built for the search. -/
def Entries.findBy? (entries : Entries) : Subscript → Option Value
  | .text key => entries.findText? key
  | subscript => entries.find? subscript.key

/-- Whatever a subscript is, the search finds what is under its key. -/
theorem Entries.findBy?_eq (entries : Entries) (subscript : Subscript) :
    entries.findBy? subscript = entries.find? subscript.key := by
  -- Only a text has a search of its own, which does not build the key.
  cases subscript with
  | text key => exact findText?_eq entries key
  | _ => rfl

namespace Value

/-- The one-character text of a character. -/
def ofChar (c : Char) : Value := .str (String.singleton c)

/-- The element at an index, or what is under the integer in a dict; absent where there is none. -/
def pick (value : Value) (index : Word64) : Value :=
  match value with
  | .list items => (elementAt? items index.toInt).getD .null
  | .tuple items => (elementAt? items index.toInt).getD .null
  | .str text => ((charAt? text index.toInt).map ofChar).getD .null
  | .dict entries => (Entries.find? entries (.int index)).getD .null
  | _ => .null

/-- What a subscript selects; absent where it selects nothing. -/
def pickBy (value : Value) (subscript : Subscript) : Value :=
  match value, subscript.key with
  -- A dict takes every key as it is, a truth value included.
  | .dict entries, _ => (Entries.findBy? entries subscript).getD .null
  | value, .int index => value.pick index
  | value, .bool truth => value.pick (Word.ofInt _ truth.toInt)
  | _, _ => .null

/-- The element at an index, or what is under the integer in a dict, which may be missing; a fault otherwise. -/
def item (value : Value) (index : Word64) : Except Fault Value :=
  match value with
  | .list items | .tuple items =>
    match elementAt? items index.toInt with
    | some element => .ok element
    | none => .error (.noPosition value.kind index.toInt items.length)
  | .dict entries => .ok ((Entries.find? entries (.int index)).getD .null)
  | other => .error (.notPositional other.kind)

/-- What a subscript selects, a missing key of a dict selecting the absent value; a fault otherwise. -/
def itemBy (value : Value) (subscript : Subscript) : Except Fault Value :=
  match value, subscript.key with
  | .dict entries, _ => .ok ((Entries.findBy? entries subscript).getD .null)
  -- Elsewhere only integers and truth values are positions.
  | value, .int index => value.item index
  | value, .bool truth => value.item (Word.ofInt _ truth.toInt)
  | value, _ => .error (.notKeyed value.kind)

/-- What a subscript selects; a fault is also recorded. -/
def select (value : Value) (subscript : Subscript) : Traced (Except Fault Value) :=
  match value.itemBy subscript with
  | .ok element => pure (.ok element)
  | .error fault => .report (.subscriptFailed fault) (.error fault)

/-- What a subscript selects; a fault ends the call after its record. -/
def selectOrAbort (value : Value) (subscript : Subscript) : Traced (Except Abort Value) :=
  Except.mapError Fault.abort <$> value.select subscript

/-- The element of a sequence at an unsigned position. -/
def element (value : Value) (position : Nat) : Except Fault Value :=
  match value.asSequence? with
  | none => .error (.notSequence value.kind)
  | some items =>
    match items[position]? with
    | some element => .ok element
    | none => .error (.noPosition value.kind position items.length)

/-- The element of a sequence at an unsigned position; a fault ends the call. -/
def elementOrAbort (value : Value) (position : Nat) : Except Abort Value :=
  (value.element position).mapError Fault.abort

/-- The elements of a sequence that must have a given length. -/
def unpack (value : Value) (expected : Nat) : Except Fault (List Value) :=
  match value.asSequence? with
  | none => .error (.notSequence value.kind)
  | some items =>
    if items.length = expected then .ok items
    else .error (.wrongLength value.kind expected items.length)

/-- The elements of a sequence that must have a given length; a fault ends the call. -/
def unpackOrAbort (value : Value) (expected : Nat) : Except Abort (List Value) :=
  (value.unpack expected).mapError Fault.abort

end Value

end DynValue
