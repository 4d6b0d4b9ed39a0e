import DynValue.Native.Type
import DynValue.Value.Subscript

/-! Reading of native data by subscripts. -/

namespace DynValue

/-- What a lenient subscript gives: a value from a value, and a datum that may be missing otherwise. -/
inductive Picked where
  /-- A value, absent where nothing was selected. -/
  | value (value : Value)
  /-- A datum of the element type. -/
  | datum (type : Ty) (datum : Option type.Carrier)

namespace Native

/-- The subscript that a datum is used as. -/
def subscript? : Native → Option Subscript
  | ⟨.int t, n⟩ =>
    if t = .int32 then some (.int32 (n.convert .int32))
    else if t = .int64 then some (.int64 (n.convert .int64))
    else if t = .uint64 then some (.size (n.convert .uint64))
    else none
  | ⟨.text, key⟩ => some (.text key)
  | ⟨.value, key⟩ => some (.value key)
  | _ => none

/-- The signed index that a datum is used as. -/
def index? : Native → Option Int
  | ⟨.int t, n⟩ => if t = .int32 ∨ t = .int64 then some n.toInt else none
  | _ => none

/-- What a datum selects in another, for the types that have subscripts. -/
def pick? (container selector : Native) : Option Picked :=
  match container, selector with
  | ⟨.value, v⟩, key => key.subscript?.map fun subscript => .value (v.pickBy subscript)
  | ⟨.map .text t, map⟩, ⟨.text, key⟩ => some (.datum t (map.find? key))
  | ⟨.list t, items⟩, key => key.index?.map fun index => .datum t (elementAt? items index)
  | ⟨.text, text⟩, key => key.index?.map fun index => .datum .char (charAt? text index)
  | _, _ => none

end Native

end DynValue
