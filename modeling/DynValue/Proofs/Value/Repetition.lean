import DynValue.Proofs.Word.Range
import DynValue.Repetition

/-!
A repeated sequence consists of copies of the sequence, one behind the other.

The walk that starts over at the end of its items goes through copy after copy, and nothing of them is lost as long as an
unsigned word can count the elements.
-/

namespace DynValue

variable {α : Type}

/-- A sequence put behind itself a number of times. -/
def copies (items : List α) (times : Nat) : List α := (List.replicate times items).flatten

/-- No copies are an empty list. -/
theorem copies_zero (items : List α) : copies items 0 = [] := rfl

/-- One more copy stands in front of the others. -/
theorem copies_succ (items : List α) (times : Nat) : copies items (times + 1) = items ++ copies items times := by
  -- The list of copies grows by one, and joining it puts that copy first.
  rw [copies, List.replicate_succ, List.flatten_cons, copies]

/-- Copies of nothing are nothing. -/
theorem copies_nil (times : Nat) : copies ([] : List α) times = [] := by
  -- Every further copy adds no element.
  induction times with
  | zero => rfl
  | succ times ih => rw [copies_succ, ih, List.append_nil]

/-- The copies have the elements of one of them as often as there are copies. -/
theorem length_copies (items : List α) (times : Nat) : (copies items times).length = items.length * times := by
  -- Each copy adds its own length.
  induction times with
  | zero => rfl
  | succ times ih => rw [copies_succ, List.length_append, ih, Nat.mul_succ, Nat.add_comm]

/-- Copies of two numbers stand one behind the other. -/
theorem copies_add (items : List α) (m n : Nat) : copies items (m + n) = copies items m ++ copies items n := by
  -- Copies are told apart by their number only, so that the run of them can be cut anywhere.
  rw [copies, ← List.replicate_append_replicate, List.flatten_append, copies, copies]

/-- Copies of copies are as many as the product of the numbers. -/
theorem copies_mul (items : List α) (m n : Nat) : copies items (m * n) = copies (copies items m) n := by
  -- Every copy of the copies adds as many copies as it consists of.
  induction n with
  | zero => rfl
  | succ n ih => rw [Nat.mul_succ, Nat.add_comm, copies_add, ih, copies_succ]

/-- A change of every element changes each copy. -/
theorem map_copies {β : Type} (form : α → β) (items : List α) (times : Nat) :
    (copies items times).map form = copies (items.map form) times := by
  -- The change passes through the joining and reaches the copies, which are all the same.
  rw [copies, List.map_flatten, List.map_replicate, copies]

/-- Copies contain the elements of the sequence over and over. -/
theorem getElem?_copies (items : List α) {times place : Nat} (inside : place < items.length * times) :
    (copies items times)[place]? = items[place % items.length]? := by
  induction times generalizing place with
  | zero => simp at inside
  | succ times ih =>
    rw [copies_succ]
    -- A place in the first copy is its own remainder, and another one has the remainder of a place in the rest.
    by_cases first : place < items.length
    · rw [List.getElem?_append_left first, Nat.mod_eq_of_lt first]
    · have first : items.length ≤ place := Nat.le_of_not_lt first
      rw [Nat.mul_succ] at inside
      rw [List.getElem?_append_right first, ih (by omega), ← Nat.mod_eq_sub_mod first]

/-- The steps of a walk go through the rest of its round and as many more rounds as they need. -/
theorem Cycle.take_eq (round rest : List α) (rounds : Nat) {count : Nat}
    (enough : count ≤ rest.length + round.length * rounds) :
    (Cycle.mk round rest).take count = (rest ++ copies round rounds).take count := by
  -- The induction follows the steps, and a round is taken from the copies whenever the rest is used up.
  induction count generalizing rest rounds with
  | zero => rfl
  | succ count ih =>
    cases rest with
    | cons item rest =>
      rw [List.length_cons] at enough
      have below := ih rest rounds (by omega)
      simp only [take, next?, below, List.cons_append, List.take_succ_cons]
    | nil =>
      -- Steps are left, so that there is another round, and it has an item.
      cases rounds with
      | zero => simp at enough
      | succ rounds =>
        cases round with
        | nil => simp at enough
        | cons item rest =>
          rw [List.length_nil, List.length_cons, Nat.mul_succ] at enough
          have below := ih rest rounds (by rw [List.length_cons]; omega)
          simp only [take, next?, below, List.nil_append, copies_succ, List.cons_append, List.take_succ_cons]

/-- A walk without items ends at once. -/
theorem Cycle.take_start_nil (count : Nat) : (Cycle.start ([] : List α)).take count = [] := by
  -- There is nothing to give, and starting over finds nothing either.
  cases count <;> rfl

/-- A repeated sequence consists of copies, as far as a word can count their elements. -/
theorem repeated_eq_take (items : List α) (times : Int) :
    repeated items times = (copies items times.toNat).take IntType.uint64.greatest.toNat := by
  -- The walk is cut at the number of elements of all copies, or earlier at the greatest word.
  have counted : (Word.clamp .uint64 (items.length * times.toNat)).toInt.toNat =
      min IntType.uint64.greatest.toNat (copies items times.toNat).length := by
    have least : IntType.uint64.least = 0 := by decide
    rw [Word.toInt_clamp (by decide), length_copies, ← Int.natCast_mul]
    omega
  -- One round more than is needed stands behind the copies, and is cut off.
  have rounds : items ++ copies items times.toNat = copies items times.toNat ++ items := by
    rw [← copies_succ, copies_add, copies_succ, copies_zero, List.append_nil]
  simp only [repeated, counted]
  rw [Cycle.start, Cycle.take_eq items items times.toNat (by rw [length_copies]; omega), rounds,
    List.take_append_of_le_length (by omega), ← List.take_eq_take_min]

end DynValue
