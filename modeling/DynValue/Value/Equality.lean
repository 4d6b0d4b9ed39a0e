import DynValue.Value.Basic

/-! Equality of values: by kind and content, floats by their bits, and dicts whatever the order of their entries. -/

namespace DynValue.Value

mutual

/-- Whether two values are equal. -/
def beq : Value → Value → Bool
  | .null, .null => true
  | .bool a, .bool b => a == b
  | .int a, .int b => a == b
  -- Equality of bits tells the zeros apart and makes a NaN equal to itself.
  | .float a, .float b => a == b
  | .str a, .str b => a == b
  | .list a, .list b => beqItems a b
  | .tuple a, .tuple b => beqItems a b
  -- With as many entries on both sides, it is enough to find each of one side on the other.
  | .dict a, .dict b => a.length == b.length && beqEntries a b
  | _, _ => false

/-- Whether two sequences are equal element by element. -/
def beqItems : List Value → List Value → Bool
  | [], [] => true
  | x :: xs, y :: ys => beq x y && beqItems xs ys
  | _, _ => false

/-- Whether every entry has an equal counterpart among other entries. -/
def beqEntries : List (Value × Value) → List (Value × Value) → Bool
  | [], _ => true
  | (key, value) :: rest, others =>
    (match others.find? fun entry => beq key entry.1 with
      | some entry => beq value entry.2
      | none => false) && beqEntries rest others

end

/-- Values are compared by their equality. -/
instance : BEq Value := ⟨beq⟩

end DynValue.Value
