import DynValue.Binary.Order
import DynValue.Value.Entries

/-! The total order of values, and sorting, sets and extremes under it. -/

namespace DynValue.Value

mutual

/--
The order of values whose dicts list their entries in order.

Numbers of different kinds compare as floats, an integer before the float it equals; other values of different kinds are
ordered by kind.
-/
def compareTree : Value → Value → Ordering
  | .int a, .int b => Ord.compare a b
  | .float a, .float b => a.totalCompare b
  -- Several integers may round to one float, and all of them come before it.
  | .int a, .float b => ((Binary.ofInt .double a.toInt).compareNumbers b).then .lt
  | .float a, .int b => (a.compareNumbers (Binary.ofInt .double b.toInt)).then .gt
  | .str a, .str b => Ord.compare a b
  | .bool a, .bool b => Ord.compare a b
  | .list a, .list b => compareItems a b
  | .tuple a, .tuple b => compareItems a b
  | .dict a, .dict b => (Ord.compare a.length b.length).then (compareEntries a b)
  | a, b => Ord.compare a.kind.rank b.kind.rank

/-- The order of sequences by their first difference, a shorter sequence before its extensions. -/
def compareItems : List Value → List Value → Ordering
  | [], [] => .eq
  | [], _ :: _ => .lt
  | _ :: _, [] => .gt
  | x :: xs, y :: ys => (compareTree x y).then (compareItems xs ys)

/-- The order of entry lists by their first difference, in the key before the value. -/
def compareEntries : List (Value × Value) → List (Value × Value) → Ordering
  | [], [] => .eq
  | [], _ :: _ => .lt
  | _ :: _, [] => .gt
  | (k, v) :: rest, (k', v') :: rest' =>
    ((compareTree k k').then (compareTree v v')).then (compareEntries rest rest')

end

/-- The order of entries by key, then by value. -/
def entryLE (a b : Value × Value) : Bool :=
  ((compareTree a.1 b.1).then (compareTree a.2 b.2)).isLE

mutual

/-- The value with the entries of every dict in it listed in order. -/
def canonical : Value → Value
  | .list items => .list (canonicalItems items)
  | .tuple items => .tuple (canonicalItems items)
  -- The entries are in canonical form already when they are put in order.
  | .dict entries => .dict ((canonicalEntries entries).mergeSort entryLE)
  | other => other

/-- The canonical forms of a sequence. -/
def canonicalItems : List Value → List Value
  | [] => []
  | item :: rest => canonical item :: canonicalItems rest

/-- The canonical forms of the keys and values of entries. -/
def canonicalEntries : List (Value × Value) → List (Value × Value)
  | [] => []
  | (key, value) :: rest => (canonical key, canonical value) :: canonicalEntries rest

end

/-- The total order of values, in which the order of a dict's entries does not count. -/
def compare (a b : Value) : Ordering :=
  compareTree a.canonical b.canonical

/-- Values are ordered by their comparison. -/
instance : Ord Value := ⟨compare⟩

/-- A sequence in ascending order, equal elements keeping their places. -/
def sort (items : List Value) : List Value :=
  items.mergeSort fun a b => (compare a b).isLE

/-- The elements of a sequence, each once, in ascending order. -/
def distinct (items : List Value) : List Value :=
  sort (items.foldl (fun seen item => if seen.contains item then seen else seen ++ [item]) [])

/-- The sequence without the elements that equal the one just before them. -/
def dropRepeats : List Value → List Value
  | [] => []
  | first :: rest => first :: dropRepeatsAfter first rest
where
  /-- The sequence without repeats, after the last element that was kept. -/
  dropRepeatsAfter (last : Value) : List Value → List Value
    | [] => []
    | item :: rest =>
      if item == last then dropRepeatsAfter last rest else item :: dropRepeatsAfter item rest

/-- The order of a value relative to an integer, for values that are numbers or truth values. -/
def compareInt? (value : Value) (n : Word64) : Option Ordering :=
  match value with
  | .int number => some (Ord.compare number n)
  | .float number => number.compare? (Binary.ofInt .double n.toInt)
  | .bool truth => some (Ord.compare (truth.toInt) n.toInt)
  | _ => none

/-- The order of a value relative to a float, for values that are numbers or truth values. -/
def compareFloat? (value : Value) (x : Binary64) : Option Ordering :=
  match value with
  | .int number => (Binary.ofInt .double number.toInt).compare? x
  | .float number => number.compare? x
  | .bool truth => (Binary.ofInt .double truth.toInt).compare? x
  | _ => none

end DynValue.Value
