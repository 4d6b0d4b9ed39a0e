import DynValue.Native.Type
import DynValue.Value.Order

/-! The order of native data of one type, and of values against native numbers. -/

namespace DynValue

/-- The order of sequences by the first place where their elements are not equal, a shorter one before its extensions. -/
def compareLists? {α : Type} (compareItems? : α → α → Option Ordering) :
    List α → List α → Option Ordering
  | [], [] => some .eq
  | [], _ :: _ => some .lt
  | _ :: _, [] => some .gt
  | x :: xs, y :: ys =>
    -- Elements that are not comparable settle the matter as well.
    match compareItems? x y with
    | some .eq => compareLists? compareItems? xs ys
    | other => other

mutual

/-- The order of two data of a type, which a NaN may leave open. -/
def Ty.compare? : (t : Ty) → t.Carrier → t.Carrier → Option Ordering
  | .int _, a, b => some (compare a b)
  | .double, a, b => a.compare? b
  | .single, a, b => a.compare? b
  | .bool, a, b => some (compare a b)
  | .char, a, b => some (compare a.toNat b.toNat)
  | .text, a, b => some (compare a b)
  | .unit, _, _ => some .eq
  | .value, a, b => some (a.compare b)
  | .option t, a, b =>
    match a, b with
    | none, none => some .eq
    | none, some _ => some .lt
    | some _, none => some .gt
    | some x, some y => t.compare? x y
  | .list t, a, b => compareLists? t.compare? a b
  | .set _, a, b => compareLists? (fun x y => some (compare x y)) a.keys b.keys
  | .map _ t, a, b =>
    compareLists? (fun x y =>
      match compare x.1 y.1 with
      | .eq => t.compare? x.2 y.2
      | other => some other) a.entries b.entries
  | .tuple row, a, b => row.compare? a b

/-- The order of tuples by the first component in which they are not equal. -/
def Row.compare? : (row : Row) → row.Carrier → row.Carrier → Option Ordering
  | .nil, _, _ => some .eq
  | .cons head tail, (x, xs), (y, ys) =>
    match head.compare? x y with
    | some .eq => tail.compare? xs ys
    | other => other

end

/-- The order by which a set of data of a type keeps its elements. -/
@[reducible] def Ty.ord (t : Ty) : Ord t.Carrier := ⟨fun x y => (t.compare? x y).getD .eq⟩

/-- The sets of data of a type, with their elements in ascending order. -/
abbrev Ty.SetOf (t : Ty) : Type := @KeyMap t.Carrier Unit t.ord

/-- The elements of a set, in the order of the set. -/
def Ty.elements (t : Ty) (set : t.SetOf) : List t.Carrier := @KeyMap.keys _ _ t.ord set

/-- The lesser of two data, the first when neither is. -/
def Ty.min (t : Ty) (a b : t.Carrier) : t.Carrier :=
  match t.compare? b a with
  | some .lt => b
  | _ => a

/-- The greater of two data, the first when neither is. -/
def Ty.max (t : Ty) (a b : t.Carrier) : t.Carrier :=
  match t.compare? b a with
  | some .gt => b
  | _ => a

namespace Native

/-- The order of a value relative to a native number, for the types of numbers it compares with. -/
def compareValue? (value : Value) (number : Native) : Option Ordering :=
  match number with
  | ⟨.int t, n⟩ => if t = .int32 ∨ t = .int64 then value.compareInt? (n.convert .int64) else none
  | ⟨.double, x⟩ => value.compareFloat? x
  | _ => none

/-- The order of two data of which at least one is a value. -/
def compare? (a b : Native) : Option Ordering :=
  match a, b with
  | ⟨.value, v⟩, ⟨.value, w⟩ => some (v.compare w)
  | ⟨.value, v⟩, number => compareValue? v number
  -- A number on the left sees the order of the value from the other side.
  | number, ⟨.value, v⟩ => (compareValue? v number).map Ordering.swap
  | _, _ => none

/-- Whether two data of which at least one is a value are equal. -/
def equal (a b : Native) : Bool :=
  match a, b with
  | ⟨.value, v⟩, ⟨.value, w⟩ => v == w
  | a, b => a.compare? b = some .eq

end Native

end DynValue
