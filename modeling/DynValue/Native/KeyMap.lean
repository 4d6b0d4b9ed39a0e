/-! Finite maps with keys in ascending order, so that equal maps are the same list of entries. -/

namespace DynValue

/-- A finite map is its entries, in strictly ascending order of their keys. -/
structure KeyMap (α β : Type) [Ord α] where
  /-- The entries. -/
  entries : List (α × β)
  /-- The keys ascend. -/
  ascending : entries.Pairwise fun a b => compare a.1 b.1 = .lt

namespace KeyMap

variable {α β : Type} [Ord α]

/-- Entries with a value put under a key, in the place where the key belongs. -/
def insertEntry (key : α) (value : β) : List (α × β) → List (α × β)
  | [] => [(key, value)]
  | (other, old) :: rest =>
    match compare key other with
    | .lt => (key, value) :: (other, old) :: rest
    | .eq => (key, value) :: rest
    | .gt => (other, old) :: insertEntry key value rest

/-- An entry after an insertion is the one put in or one that was there. -/
theorem mem_insertEntry {key : α} {value : β} {entries : List (α × β)} {entry : α × β}
    (member : entry ∈ insertEntry key value entries) : entry = (key, value) ∨ entry ∈ entries := by
  -- The insertion either stops at the head or goes on behind it.
  induction entries with
  | nil => simpa [insertEntry] using member
  | cons head rest ih =>
    obtain ⟨other, old⟩ := head
    rw [insertEntry] at member
    split at member
    · simpa using member
    · -- The value under an equal key is replaced.
      rcases List.mem_cons.mp member with new | old
      · exact .inl new
      · exact .inr (List.mem_cons_of_mem _ old)
    · rcases List.mem_cons.mp member with first | later
      · exact .inr (first ▸ List.mem_cons_self)
      · rcases ih later with new | old
        · exact .inl new
        · exact .inr (List.mem_cons_of_mem _ old)

/-- An insertion keeps the keys ascending. -/
theorem insertEntry_ascending [Std.TransOrd α] [Std.LawfulEqOrd α] (key : α) (value : β)
    {entries : List (α × β)} (ascending : entries.Pairwise fun a b => compare a.1 b.1 = .lt) :
    (insertEntry key value entries).Pairwise fun a b => compare a.1 b.1 = .lt := by
  -- Every entry behind the head is above it, and so is whatever is inserted behind it.
  induction entries with
  | nil => simp [insertEntry]
  | cons head rest ih =>
    obtain ⟨other, old⟩ := head
    obtain ⟨above, tail⟩ := List.pairwise_cons.mp ascending
    rw [insertEntry]
    split
    · next below =>
      refine List.pairwise_cons.mpr ⟨fun entry member => ?_, ascending⟩
      rcases List.mem_cons.mp member with first | later
      · exact first ▸ below
      · exact Std.TransCmp.lt_trans below (above entry later)
    · -- The key is already there and keeps its place.
      next same =>
      have equal : key = other := Std.LawfulEqCmp.eq_of_compare same
      exact List.pairwise_cons.mpr ⟨fun entry member => equal ▸ above entry member, tail⟩
    · next beyond =>
      refine List.pairwise_cons.mpr ⟨fun entry member => ?_, ih tail⟩
      rcases mem_insertEntry member with new | later
      · exact new ▸ Std.OrientedCmp.gt_iff_lt.mp beyond
      · exact above entry later

/-- The map without entries. -/
def empty : KeyMap α β := ⟨[], List.Pairwise.nil⟩

/-- The map with a value put under a key. -/
def insert [Std.TransOrd α] [Std.LawfulEqOrd α] (map : KeyMap α β) (key : α) (value : β) : KeyMap α β :=
  ⟨insertEntry key value map.entries, insertEntry_ascending key value map.ascending⟩

/-- The map of pairs, the last of equal keys winning. -/
def ofList [Std.TransOrd α] [Std.LawfulEqOrd α] (pairs : List (α × β)) : KeyMap α β :=
  pairs.foldl (fun map pair => map.insert pair.1 pair.2) empty

/-- The value under a key. -/
def find? (map : KeyMap α β) (key : α) : Option β :=
  (map.entries.find? fun entry => compare key entry.1 = .eq).map Prod.snd

/-- The keys in ascending order. -/
def keys (map : KeyMap α β) : List α := map.entries.map Prod.fst

/-- The map without the keys of another. -/
def difference {γ : Type} (map : KeyMap α β) (other : KeyMap α γ) : KeyMap α β :=
  ⟨map.entries.filter fun entry => (other.find? entry.1).isNone, map.ascending.filter _⟩

end KeyMap

end DynValue
