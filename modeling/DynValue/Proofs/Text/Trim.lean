import DynValue.Text.Words

/-! White space is taken off both ends of a text and nowhere else. -/

namespace DynValue.Text

variable {blanks front text : List Char}

/-- A character that is no white space stops the removal in front of it. -/
theorem trimStart_of_solid (solid : ∀ c ∈ text.head?, isBlank c = false) : trimStart text = text := by
  -- The removal looks at the first character before anything else.
  cases text with
  | nil => rfl
  | cons c rest => simp [trimStart, solid c rfl]

/-- White space in front comes off, however much there is. -/
theorem trimStart_blanks (blank : ∀ c ∈ blanks, isBlank c = true) (text : List Char) :
    trimStart (blanks ++ text) = trimStart text :=
  List.dropWhile_append_of_pos blank

/-- White space at the end comes off, however much there is. -/
theorem trimEnd_blanks (blank : ∀ c ∈ blanks, isBlank c = true) (text : List Char) :
    trimEnd (text ++ blanks) = trimEnd text := by
  -- Seen from the end, the white space comes first.
  have reversed : ∀ c ∈ blanks.reverse, isBlank c = true := fun c member => blank c (List.mem_reverse.mp member)
  rw [trimEnd, trimEnd, List.reverse_append, List.dropWhile_append_of_pos reversed]

/-- A character that is no white space stays, and so does everything before it. -/
theorem trimEnd_cons {c : Char} (solid : isBlank c = false) (text : List Char) :
    trimEnd (c :: text) = c :: trimEnd text := by
  rw [trimEnd, trimEnd, List.reverse_cons, List.dropWhile_append]
  split
  · -- The text behind the character is white space alone.
    rename_i empty
    rw [List.isEmpty_iff] at empty
    simp [empty, solid]
  · simp

/-- Characters in front that are no white space stay when the end is trimmed. -/
theorem trimEnd_append (solid : ∀ c ∈ front, isBlank c = false) (text : List Char) :
    trimEnd (front ++ text) = front ++ trimEnd text := by
  -- They are put back one by one, since none of them can come off at the end.
  induction front with
  | nil => rfl
  | cons c front ih =>
    obtain ⟨first, others⟩ := List.forall_mem_cons.mp solid
    rw [List.cons_append, trimEnd_cons first, ih others, List.cons_append]

/-- A text without white space stays as it is. -/
theorem trim_of_solid (solid : ∀ c ∈ text, isBlank c = false) : trim text = text := by
  -- Neither end has anything to take off, and for the end the whole text counts as the part in front.
  have start : trimStart text = text := trimStart_of_solid fun c head => solid c (List.mem_of_mem_head? head)
  have whole := trimEnd_append solid []
  rw [List.append_nil] at whole
  rw [trim, start, whole]
  exact List.append_nil text

/-- White space around a text makes no difference to what is left. -/
theorem trim_between {before after : List Char} (blankBefore : ∀ c ∈ before, isBlank c = true)
    (blankAfter : ∀ c ∈ after, isBlank c = true) (text : List Char) : trim (before ++ text ++ after) = trim text := by
  rw [trim, trim, List.append_assoc, trimStart_blanks blankBefore, trimStart, trimStart, List.dropWhile_append]
  split
  · -- A text of white space alone leaves nothing, with more of it behind or not.
    rename_i empty
    have nothing := trimStart_blanks blankAfter []
    rw [List.append_nil] at nothing
    rw [List.isEmpty_iff] at empty
    rw [empty, ← trimStart, nothing, trimStart, List.dropWhile_nil]
  · -- Otherwise the removal in front ends inside the text.
    exact trimEnd_blanks blankAfter _

end DynValue.Text
