import DynValue.Json.Token

/-! Reading of JSON text: one pass over its tokens with a stack of open containers. -/

namespace DynValue.Json

/-- A container that waits for the tree in progress. -/
inductive Pending where
  /-- An array, with its items so far in reverse. -/
  | array (items : List Json)
  /-- An object, with its members so far in reverse and the key of the tree in progress. -/
  | object (members : List (String × Json)) (key : String)

/-- A container whose last part is complete. -/
inductive Content where
  /-- An array, with its items in reverse. -/
  | array (items : List Json)
  /-- An object, with its members in reverse. -/
  | object (members : List (String × Json))

/-- What may come next, inside of the containers that are open. -/
inductive Progress where
  /-- A tree. -/
  | tree (stack : List Pending)
  /-- The first item of an array, or its end. -/
  | firstItem (stack : List Pending)
  /-- The first key of an object, or its end. -/
  | firstKey (stack : List Pending)
  /-- The next key of an object. -/
  | key (members : List (String × Json)) (stack : List Pending)
  /-- The colon after a key. -/
  | colon (members : List (String × Json)) (key : String) (stack : List Pending)
  /-- A comma, or the end of a container. -/
  | separator (content : Content) (stack : List Pending)
  /-- Nothing, because the tree is complete. -/
  | complete (tree : Json)

/-- The greatest number of containers that may be open at once. -/
def depthLimit : Nat := 127

namespace Progress

/-- The progress after a tree is complete. -/
def supply (tree : Json) : List Pending → Progress
  | [] => .complete tree
  | .array items :: stack => .separator (.array (tree :: items)) stack
  | .object members name :: stack => .separator (.object ((name, tree) :: members)) stack

/-- The progress after a token that starts a tree. -/
def start (stack : List Pending) : Token → Option Progress
  | .scalar found => some (supply found stack)
  | .text content => some (supply (.text content) stack)
  -- The stack holds the containers around the one that is opened.
  | .openArray => if stack.length < depthLimit then some (.firstItem stack) else none
  | .openObject => if stack.length < depthLimit then some (.firstKey stack) else none
  | _ => none

/-- The progress after one more token. -/
def next : Progress → Token → Option Progress
  | .tree stack, token => start stack token
  | .firstItem stack, .closeArray => some (supply (.array []) stack)
  | .firstItem stack, token => start (.array [] :: stack) token
  | .firstKey stack, .closeObject => some (supply (.object []) stack)
  | .firstKey stack, .text name => some (.colon [] name stack)
  | .key members stack, .text name => some (.colon members name stack)
  | .colon members name stack, .colon => some (.tree (.object members name :: stack))
  | .separator (.array items) stack, .comma => some (.tree (.array items :: stack))
  | .separator (.array items) stack, .closeArray => some (supply (.array items.reverse) stack)
  | .separator (.object members) stack, .comma => some (.key members stack)
  | .separator (.object members) stack, .closeObject => some (supply (.object members.reverse) stack)
  | _, _ => none

end Progress

/-- The tree that tokens spell. -/
def ofTokens? (tokens : List Token) : Option Json :=
  match tokens.foldlM Progress.next (.tree []) with
  | some (.complete tree) => some tree
  | _ => none

/-- The tree of a JSON text. -/
def read? (text : String) : Option Json :=
  (tokens? text.toList).bind ofTokens?

end DynValue.Json
