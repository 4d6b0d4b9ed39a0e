import DynValue.Word.Basic

/-!
Sequences and texts put behind themselves a number of times.

The limit that memory sets to the size of a text or a vector is left out: a repetition that would not fit, which ends a
program, is here the sequence or text that it would have been.
-/

namespace DynValue

/-- A walk through items that starts over when it comes to their end. -/
structure Cycle (α : Type) where
  /-- The items of every round. -/
  round : List α
  /-- The items still to come in this round. -/
  rest : List α

namespace Cycle

variable {α : Type}

/-- The walk before its first step. -/
def start (items : List α) : Cycle α := ⟨items, items⟩

/-- The next item and the walk after it. -/
def next? (cycle : Cycle α) : Option (α × Cycle α) :=
  match cycle.rest with
  | item :: rest => some (item, ⟨cycle.round, rest⟩)
  | [] =>
    -- A new round is tried once, so that a walk without items ends here.
    match cycle.round with
    | item :: rest => some (item, ⟨cycle.round, rest⟩)
    | [] => none

/-- The items of the steps to come, up to a number of them. -/
def take (cycle : Cycle α) : Nat → List α
  | 0 => []
  | count + 1 =>
    match cycle.next? with
    | some (item, next) => item :: next.take count
    | none => []

end Cycle

/-- A sequence of any size, repeated a number of times, not at all for a negative number. -/
def repeated {α : Type} (items : List α) (times : Int) : List α :=
  -- The elements are counted by an unsigned word, which stays at the greatest one instead of wrapping.
  let count : Word .uint64 := .clamp _ (items.length * times.toNat)
  (Cycle.start items).take count.toInt.toNat

/-- A text of any size, repeated a number of times, not at all for a negative number. -/
def repeatedText (text : String) (times : Int) : String :=
  -- Nothing repeated is nothing, however often.
  if text.isEmpty then "" else String.join (List.replicate times.toNat text)

end DynValue
