import DynValue.Value.Order
import DynValue.Value.Subscript

/-! Iteration over values: elements of sequences, keys of dicts and characters of texts. -/

namespace DynValue

/-- A walk through a value that can be taken one step at a time. -/
inductive Cursor where
  /-- Elements still to come. -/
  | items (rest : List Value)
  /-- Entries whose keys are still to come. -/
  | keys (rest : List (Value × Value))
  /-- Characters still to come. -/
  | chars (rest : List Char)
  /-- Nothing to come at all. -/
  | empty

namespace Cursor

/-- The walk through a value. -/
def start : Value → Cursor
  | .list rest => .items rest
  | .tuple rest => .items rest
  | .dict rest => .keys rest
  | .str text => .chars text.toList
  | _ => .empty

/-- The number of steps still to come. -/
def remaining : Cursor → Nat
  | .items rest => rest.length
  | .keys rest => rest.length
  | .chars rest => rest.length
  | .empty => 0

/-- The next value and the walk after it. -/
def next? : Cursor → Option (Value × Cursor)
  | .items (item :: rest) => some (item, .items rest)
  | .keys ((key, _) :: rest) => some (key, .keys rest)
  | .chars (c :: rest) => some (.ofChar c, .chars rest)
  | _ => none

/-- Every step takes one off the number of steps to come. -/
theorem remaining_of_next? {cursor rest : Cursor} {value : Value}
    (stepped : cursor.next? = some (value, rest)) : cursor.remaining = rest.remaining + 1 := by
  -- A step drops the head of the list that the walk is about.
  unfold next? at stepped
  split at stepped <;> simp only [Option.some.injEq, Prod.mk.injEq, reduceCtorEq] at stepped <;>
    obtain ⟨_, rfl⟩ := stepped <;> rfl

/-- The values of all steps to come. -/
def toList (cursor : Cursor) : List Value :=
  match stepped : cursor.next? with
  | none => []
  | some (value, rest) =>
    have := remaining_of_next? stepped
    value :: rest.toList
termination_by cursor.remaining

/-- A walk over elements goes through them in order. -/
theorem toList_items (rest : List Value) : (items rest).toList = rest := by
  -- Every step gives the first element and leaves the walk over the others.
  induction rest with
  | nil => simp [toList, next?]
  | cons item rest ih => simp [toList, next?, ih]

/-- A walk over entries goes through their keys in order. -/
theorem toList_keys (rest : List (Value × Value)) : (keys rest).toList = rest.map Prod.fst := by
  -- A step gives the first key and drops its value unread.
  induction rest with
  | nil => simp [toList, next?]
  | cons entry rest ih => simp [toList, next?, ih]

/-- A walk over characters goes through their texts in order. -/
theorem toList_chars (rest : List Char) : (chars rest).toList = rest.map .ofChar := by
  -- A step gives the first character as a text of its own.
  induction rest with
  | nil => simp [toList, next?]
  | cons c rest ih => simp [toList, next?, ih]

/-- The least and the greatest number of steps that may come, the latter where there is one. -/
def sizeHint (cursor : Cursor) : Nat × Option Nat := (cursor.remaining, some cursor.remaining)

/-- What is known about the number of steps to come before every step, and at the end. -/
def hints (cursor : Cursor) : List (Nat × Option Nat) :=
  match stepped : cursor.next? with
  | none => [cursor.sizeHint]
  | some (_, rest) =>
    have := remaining_of_next? stepped
    cursor.sizeHint :: rest.hints
termination_by cursor.remaining

end Cursor

/-- A walk through a value that leaves the value in place and moves a position. -/
inductive View where
  /-- A sequence and the position of the next element. -/
  | items (sequence : List Value) (position : Nat)
  /-- Entries and the position of the next key. -/
  | keys (entries : List (Value × Value)) (position : Nat)
  /-- A walk through the characters of a text. -/
  | chars (walk : Text.Walk)
  /-- Nothing to come at all. -/
  | empty

namespace View

/-- The walk through a value in place. -/
def start : Value → View
  | .list sequence => .items sequence 0
  | .tuple sequence => .items sequence 0
  | .dict entries => .keys entries 0
  | .str text => .chars (.start text)
  | _ => .empty

/-- The next value, copied from its place, and the walk after it. -/
def next? : View → Option (Value × View)
  | .items sequence position => sequence[position]?.map fun item => (item, .items sequence (position + 1))
  | .keys entries position => entries[position]?.map fun entry => (entry.1, .keys entries (position + 1))
  | .chars walk => walk.next?.map fun (c, rest) => (.ofChar c, .chars rest)
  | .empty => none

/-- The values that lie ahead of the position. -/
def ahead : View → List Value
  | .items sequence position => sequence.drop position
  | .keys entries position => (entries.drop position).map Prod.fst
  | .chars walk => walk.ahead.map .ofChar
  | .empty => []

/-- A step takes the first of the values ahead. -/
theorem ahead_of_next? {view rest : View} {value : Value} (stepped : view.next? = some (value, rest)) :
    view.ahead = value :: rest.ahead := by
  -- A step that succeeds says that the position lies inside, and there the list ahead splits into head and tail.
  cases view with
  | items sequence position =>
    obtain ⟨item, found, same⟩ := Option.map_eq_some_iff.mp stepped
    obtain ⟨rfl, rfl⟩ := Prod.mk.inj same
    obtain ⟨inside, rfl⟩ := List.getElem?_eq_some_iff.mp found
    exact List.drop_eq_getElem_cons inside
  | keys entries position =>
    obtain ⟨entry, found, same⟩ := Option.map_eq_some_iff.mp stepped
    obtain ⟨rfl, rfl⟩ := Prod.mk.inj same
    obtain ⟨inside, rfl⟩ := List.getElem?_eq_some_iff.mp found
    rw [ahead, List.drop_eq_getElem_cons inside, List.map_cons, ahead]
  | chars walk =>
    obtain ⟨step, found, same⟩ := Option.map_eq_some_iff.mp stepped
    obtain ⟨rfl, rfl⟩ := Prod.mk.inj same
    rw [ahead, Text.Walk.ahead_of_next? found, List.map_cons, ahead]
  | empty => cases stepped

/-- A walk ends where no value lies ahead. -/
theorem ahead_of_ended {view : View} (ended : view.next? = none) : view.ahead = [] := by
  -- A position with no element there lies at or behind the end, and dropping that many leaves nothing.
  cases view with
  | items sequence position =>
    rw [ahead, List.drop_eq_nil_iff]
    exact List.getElem?_eq_none_iff.mp (Option.map_eq_none_iff.mp ended)
  | keys entries position =>
    rw [ahead, List.map_eq_nil_iff, List.drop_eq_nil_iff]
    exact List.getElem?_eq_none_iff.mp (Option.map_eq_none_iff.mp ended)
  | chars walk => rw [ahead, Text.Walk.ahead_of_ended (Option.map_eq_none_iff.mp ended), List.map_nil]
  | empty => rfl

/-- The values of all steps to come. -/
def toList (view : View) : List Value :=
  match stepped : view.next? with
  | none => []
  | some (value, rest) =>
    have : rest.ahead.length < view.ahead.length := by simp [ahead_of_next? stepped]
    value :: rest.toList
termination_by view.ahead.length

/-- A walk in place goes through the values that lie ahead. -/
theorem toList_eq_ahead (view : View) : view.toList = view.ahead := by
  -- The two lists are taken apart by the same steps.
  fun_induction toList view with
  | case1 view ended => exact (ahead_of_ended ended).symm
  | case2 view value rest stepped _ ih => rw [ih, ahead_of_next? stepped]

end View

namespace Value

/-- The values that iteration goes through. -/
def items : Value → List Value
  | .list items => items
  | .tuple items => items
  | .dict entries => entries.map Prod.fst
  | .str text => text.toList.map ofChar
  | _ => []

/-- The walk through a value goes through the values it iterates over. -/
theorem toList_start (value : Value) : (Cursor.start value).toList = value.items := by
  -- A value that cannot be iterated over starts a walk that has already ended.
  cases value with
  | list items => exact Cursor.toList_items items
  | tuple items => exact Cursor.toList_items items
  | dict entries => exact Cursor.toList_keys entries
  | str text => exact Cursor.toList_chars text.toList
  | _ => simp [Cursor.start, Cursor.toList, Cursor.next?, items]

/-- The walk in place goes through the same values. -/
theorem toList_startView (value : Value) : (View.start value).toList = value.items := by
  -- At the position zero everything lies ahead.
  rw [View.toList_eq_ahead]
  cases value with
  | str text => rw [View.start, View.ahead, Text.Walk.ahead_start, items]
  | _ => simp [View.start, View.ahead, items]

/-- The list of the values that iteration goes through. -/
def collect (value : Value) : Value := .list (Cursor.start value).toList

/-- The elements of a list or tuple, none for other values. -/
def elements (value : Value) : List Value := value.asSequence?.getD []

end Value

end DynValue
