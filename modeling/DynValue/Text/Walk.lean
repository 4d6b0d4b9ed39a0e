/-! Walks through the characters of a text, by positions between its bytes. -/

namespace DynValue.Text

/-- A place in a text, from which its characters are read one by one. -/
structure Walk where
  /-- The text, which stays as it is. -/
  text : String
  /-- The position of the next character. -/
  position : text.Pos

namespace Walk

/-- The walk from the start of a text. -/
def start (text : String) : Walk := ⟨text, text.startPos⟩

/-- The next character and the walk behind it. -/
def next? (walk : Walk) : Option (Char × Walk) :=
  if inside : walk.position ≠ walk.text.endPos then
    some (walk.position.get inside, ⟨walk.text, walk.position.next inside⟩)
  else none

/-- The character behind a number of others, without a look at the end of the text. -/
def nth? (walk : Walk) : Nat → Option Char
  | 0 => walk.next?.map Prod.fst
  | skipped + 1 => walk.next?.bind fun (_, rest) => rest.nth? skipped

/-- The characters still to come. -/
def ahead (walk : Walk) : List Char := (walk.text.sliceFrom walk.position).copy.toList

/-- At the start the whole text lies ahead. -/
theorem ahead_start (text : String) : (start text).ahead = text.toList := by
  -- Nothing of the text stands before its start.
  simp [ahead, start]

/-- A walk ends where no character is to come. -/
theorem ahead_of_ended {walk : Walk} (ended : walk.next? = none) : walk.ahead = [] := by
  obtain ⟨text, position⟩ := walk
  unfold next? at ended
  split at ended
  · cases ended
  · rename_i outside
    -- Behind the last position there is the empty text.
    have last : position = text.endPos := Decidable.not_not.mp outside
    simp [ahead, last]

/-- A step takes the first of the characters to come. -/
theorem ahead_of_next? {walk rest : Walk} {c : Char} (stepped : walk.next? = some (c, rest)) :
    walk.ahead = c :: rest.ahead := by
  obtain ⟨text, position⟩ := walk
  unfold next? at stepped
  split at stepped
  · rename_i inside
    obtain ⟨rfl, rfl⟩ := Prod.mk.inj (Option.some.inj stepped)
    -- The text from the position on starts with the character there.
    have parts := position.splits.eq_right (position.splits_next_right inside)
    rw [ahead, parts, String.toList_append, String.toList_singleton, List.singleton_append]
    rfl
  · cases stepped

/-- Counting characters while walking finds the one at that place in the list of them. -/
theorem nth?_eq (walk : Walk) (index : Nat) : walk.nth? index = walk.ahead[index]? := by
  -- Each skipped character takes one step, which drops the head of what lies ahead; a walk that ends has nothing
  -- there.
  induction index generalizing walk with
  | zero =>
    cases stepped : walk.next? with
    | none => simp [nth?, stepped, ahead_of_ended stepped]
    | some step => simp [nth?, stepped, ahead_of_next? stepped]
  | succ skipped ih =>
    cases stepped : walk.next? with
    | none => simp [nth?, stepped, ahead_of_ended stepped]
    | some step => simp [nth?, stepped, ahead_of_next? stepped, ih]

end Walk

end DynValue.Text
