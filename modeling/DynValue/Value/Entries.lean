import DynValue.Value.Equality

/-! The entries of a dict as a map from keys to values. -/

namespace DynValue

/-- Whether a value is a given text. -/
def Value.isText (text : String) : Value → Bool
  | .str other => text == other
  | _ => false

/-- The values that equal the value of a text are those that are the text. -/
theorem Value.str_beq (text : String) (value : Value) : (Value.str text == value) = value.isText text := by
  -- A text equals no value of another kind, and a text exactly if it is the same.
  cases value <;> rfl

/-- Entries in the order of their insertion. -/
abbrev Entries := List (Value × Value)

namespace Entries

/-- The value under a key. -/
def find? (entries : Entries) (key : Value) : Option Value :=
  List.lookup key entries

/-- The value under a text as a key, found without building the value of the text. -/
def findText? (entries : Entries) (text : String) : Option Value :=
  (List.find? (fun entry => entry.1.isText text) entries).map Prod.snd

/-- Looking for a text finds what looking for its value finds. -/
theorem findText?_eq (entries : Entries) (text : String) : entries.findText? text = entries.find? (.str text) := by
  induction entries with
  | nil => rfl
  | cons entry rest ih =>
    obtain ⟨key, value⟩ := entry
    -- Both searches stop at the same entry, the first whose key is the text.
    rw [findText?, List.find?_cons, find?, List.lookup_cons, Value.str_beq]
    cases key.isText text with
    | true => rfl
    | false => exact ih

/-- Whether there is an entry under a key. -/
def contains (entries : Entries) (key : Value) : Bool :=
  (entries.find? key).isSome

/-- The entries with a value put under a key, in the place of the entry that was there. -/
def insert (entries : Entries) (key value : Value) : Entries :=
  match entries with
  | [] => [(key, value)]
  | (other, old) :: rest =>
    if key == other then (other, value) :: rest else (other, old) :: insert rest key value

/-- The entries without the one under a key. -/
def erase (entries : Entries) (key : Value) : Entries :=
  entries.filter fun entry => !(key == entry.1)

/-- The entries with a value put under a key that has none. -/
def insertIfMissing (entries : Entries) (key value : Value) : Entries :=
  if entries.contains key then entries else entries.insert key value

/-- The entries that result from inserting pairs in order. -/
def ofPairs (pairs : List (Value × Value)) : Entries :=
  pairs.foldl (fun entries pair => entries.insert pair.1 pair.2) []

/-- The keys of entries are pairwise different. -/
def Unique (entries : Entries) : Prop :=
  entries.Pairwise fun a b => (a.1 == b.1) = false

end Entries

namespace Value

/-- The value under a key of a dict. -/
def get? (value key : Value) : Option Value :=
  value.asDict?.bind fun entries => Entries.find? entries key

/-- Whether a dict has an entry under a key. -/
def containsKey (value key : Value) : Bool :=
  (value.get? key).isSome

/-- The value under a text as a key of a dict. -/
def getText? (value : Value) (text : String) : Option Value :=
  value.asDict?.bind fun entries => Entries.findText? entries text

/-- Whether a dict has an entry under a text as a key. -/
def containsText (value : Value) (text : String) : Bool :=
  (value.getText? text).isSome

/-- The dict with a value put under a key; other values stay as they are. -/
def insert (target key value : Value) : Value :=
  match target with
  | .dict entries => .dict (Entries.insert entries key value)
  | other => other

/-- The dict without the entry under a key; other values stay as they are. -/
def erase (target key : Value) : Value :=
  match target with
  | .dict entries => .dict (Entries.erase entries key)
  | other => other

/-- The list with an element added at its end; other values stay as they are. -/
def push (target item : Value) : Value :=
  match target with
  | .list items => .list (items ++ [item])
  | other => other

/-- The keys of a dict, none for other values. -/
def keys (value : Value) : List Value :=
  (value.asDict?.getD []).map Prod.fst

/-- The values of a dict, none for other values. -/
def values (value : Value) : List Value :=
  (value.asDict?.getD []).map Prod.snd

/-- The entries of a dict, none for other values. -/
def entries (value : Value) : List (Value × Value) :=
  value.asDict?.getD []

end Value

end DynValue
