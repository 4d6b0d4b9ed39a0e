import DynValue.Json.Basic
import DynValue.Model.Tree

/-! Trees of the data model written as JSON trees, for the nodes that values are serialized as. -/

namespace DynValue.Json

/-- The result of writing a tree: nothing for a node that no value is serialized as, and a fault for a key without a text. -/
abbrev Written := ExceptT JsonFault Option

/-- The text that stands for a key in an object. -/
def keyOfTree? : Tree → Written String
  | .text content => pure content
  | .int _ number => pure (String.ofList (integerText number.toInt))
  | .bool truth => pure (if truth then "true" else "false")
  | .double number =>
    if number.isFinite then pure (String.ofList (Layout.key.text number)) else throw .infiniteKey
  | .unit => throw .notTextKey
  | .sequence _ => throw .notTextKey
  | .map _ => throw .notTextKey
  | _ => .mk none

mutual

/-- The JSON tree of a tree of the data model; floats that are not finite become null. -/
def ofTree? : Tree → Written Json
  | .unit => pure .null
  | .bool truth => pure (.bool truth)
  | .int _ number =>
    match Word.ofInt? .int64 number.toInt with
    | some word => pure (.int word)
    | none => .mk none
  | .double number => pure (if number.isFinite then .float number else .null)
  | .text content => pure (.text content)
  | .sequence items => do
    let trees ← ofTrees? items
    pure (.array trees)
  | .map entries => do
    let members ← ofTreePairs? entries
    pure (.object (members.foldl (fun object member => insertMember member.1 member.2 object) []))
  | _ => .mk none

/-- The JSON trees of a sequence, in order. -/
def ofTrees? : List Tree → Written (List Json)
  | [] => pure []
  | item :: rest => do
    let first ← ofTree? item
    let others ← ofTrees? rest
    pure (first :: others)

/-- The members of a map, a key coming before its value. -/
def ofTreePairs? : List (Tree × Tree) → Written (List (String × Json))
  | [] => pure []
  | (key, content) :: rest => do
    let name ← keyOfTree? key
    let tree ← ofTree? content
    let others ← ofTreePairs? rest
    pure ((name, tree) :: others)

end

end DynValue.Json
