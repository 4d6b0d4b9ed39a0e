/-! Containers that are filled step by step, with room set aside for a number of elements that was announced. -/

namespace DynValue

/-- A container that is being filled. -/
structure Buffer (α : Type) (size : α → Nat) where
  /-- What has been put in so far. -/
  content : α
  /-- The number of elements that there is room for. -/
  room : Nat
  /-- There is room for all that has been put in. -/
  fits : size content ≤ room

namespace Buffer

variable {α : Type} {size : α → Nat}

/-- The room to set aside for an announced number of elements, which is not trusted beyond a bound. -/
def reserve (announced : Option Nat) : Nat :=
  min (announced.getD 0) 4096

/-- An empty container with the room for an announced number of elements. -/
def start (announced : Option Nat) (content : α) (empty : size content = 0) : Buffer α size where
  content
  room := reserve announced
  fits := empty ▸ Nat.zero_le _

/-- The container after a change; where the room does not do, it is at least doubled. -/
def update (buffer : Buffer α size) (change : α → α) : Buffer α size :=
  if fits : size (change buffer.content) ≤ buffer.room then ⟨change buffer.content, buffer.room, fits⟩
  else ⟨change buffer.content, max (2 * buffer.room) (size (change buffer.content)), Nat.le_max_right ..⟩

/-- What is in a container after a change does not depend on its room. -/
theorem content_update (buffer : Buffer α size) (change : α → α) :
    (buffer.update change).content = change buffer.content := by
  -- Room that is there and room that is added hold the same.
  unfold update
  split <;> rfl

/-- No announcement, however large, sets aside more room than the bound. -/
theorem reserve_le (announced : Option Nat) : reserve announced ≤ 4096 :=
  Nat.min_le_right ..

end Buffer

end DynValue
