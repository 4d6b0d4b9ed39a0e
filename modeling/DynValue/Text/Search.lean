/-! Occurrences of one text in another, and the leftmost scan that splits, replaces and counts them. -/

namespace DynValue.Text

/-- The position of the first occurrence, in a sequence of characters as in one of bytes. -/
def find? {α : Type} [DecidableEq α] (sub : List α) : List α → Option Nat
  -- Only the empty text occurs at the very end.
  | [] => if sub = [] then some 0 else none
  | c :: rest => if sub.isPrefixOf (c :: rest) then some 0 else (find? sub rest).map (· + 1)

/-- The position of the last occurrence. -/
def findLast? {α : Type} [DecidableEq α] (sub : List α) : List α → Option Nat
  | [] => if sub = [] then some 0 else none
  | c :: rest =>
    -- An occurrence further on is later than one here.
    match findLast? sub rest with
    | some position => some (position + 1)
    | none => if sub.isPrefixOf (c :: rest) then some 0 else none

/-- The bytes of characters, one character after the other. -/
def utf8 (text : List Char) : List UInt8 := text.flatMap String.utf8EncodeChar

/-- The number of characters in the first bytes of a text. -/
def charPosition (offset : Nat) : List Char → Nat
  | [] => 0
  | c :: rest => if c.utf8Size ≤ offset then charPosition (offset - c.utf8Size) rest + 1 else 0

/-- The number of characters in front of the first occurrence among the bytes. -/
def byteFind? (sub text : List Char) : Option Nat :=
  (find? (utf8 sub) (utf8 text)).map (charPosition · text)

/-- The number of characters in front of the last occurrence among the bytes. -/
def byteFindLast? (sub text : List Char) : Option Nat :=
  (findLast? (utf8 sub) (utf8 text)).map (charPosition · text)

/-- Whether a text occurs in another. -/
def contains (text sub : List Char) : Bool :=
  (find? sub text).isSome

/-- The text before the first occurrence of a separator and the text after it. -/
def cut? (sep : List Char) : List Char → Option (List Char × List Char)
  | [] => if sep = [] then some ([], []) else none
  | c :: rest =>
    if sep.isPrefixOf (c :: rest) then some ([], (c :: rest).drop sep.length)
    else (cut? sep rest).map fun (before, after) => (c :: before, after)

/-- What follows a nonempty separator is shorter than the whole. -/
theorem length_after_lt {sep text before after : List Char} (nonempty : sep ≠ [])
    (found : cut? sep text = some (before, after)) : after.length < text.length := by
  -- The separator itself is dropped, and every character before it is passed over.
  induction text generalizing before with
  | nil => simp [cut?, nonempty] at found
  | cons c rest ih =>
    rw [cut?] at found
    split at found
    · obtain ⟨_, rfl⟩ := Prod.mk.inj (Option.some.inj found)
      have := List.length_pos_iff.mpr nonempty
      simp only [List.length_drop, List.length_cons]
      omega
    · obtain ⟨⟨inner, tail⟩, innerFound, pair⟩ := Option.map_eq_some_iff.mp found
      obtain ⟨_, rfl⟩ := Prod.mk.inj pair
      have := ih innerFound
      simp only [List.length_cons]
      omega

/-- The pieces between the occurrences of a nonempty separator. -/
def splitOn (sep : List Char) (nonempty : sep ≠ []) (text : List Char) : List (List Char) :=
  match found : cut? sep text with
  | none => [text]
  | some (before, after) =>
    have := length_after_lt nonempty found
    before :: splitOn sep nonempty after
termination_by text.length

/-- The pieces between the occurrences of a separator; an empty separator does not split. -/
def split (sep text : List Char) : List (List Char) :=
  if empty : sep = [] then [text] else splitOn sep empty text

/-- The text with every occurrence of a nonempty text exchanged for another. -/
def replaceOn (old : List Char) (nonempty : old ≠ []) (new text : List Char) : List Char :=
  match found : cut? old text with
  | none => text
  | some (before, after) =>
    have := length_after_lt nonempty found
    before ++ new ++ replaceOn old nonempty new after
termination_by text.length

/-- The text with every occurrence of one text exchanged for another, an empty one occurring around every character. -/
def replace (old new text : List Char) : List Char :=
  if empty : old = [] then (text.flatMap fun c => new ++ [c]) ++ new
  else replaceOn old empty new text

/-- The number of occurrences of a nonempty text that do not overlap. -/
def countOn (sub : List Char) (nonempty : sub ≠ []) (text : List Char) : Nat :=
  match found : cut? sub text with
  | none => 0
  | some (_, after) =>
    have := length_after_lt nonempty found
    countOn sub nonempty after + 1
termination_by text.length

/-- The number of occurrences that do not overlap, an empty text occurring around every character. -/
def count (sub text : List Char) : Nat :=
  if empty : sub = [] then text.length + 1 else countOn sub empty text

end DynValue.Text
