import DynValue.Proofs.Value.Position
import DynValue.Value.Arithmetic
import DynValue.Value.Iterate
import Mathlib.Data.List.Defs

/-!
Iteration and positions describe one sequence of values.

The walk that takes a value apart and the walk that leaves it in place go through the same values, the former always knows
how many are to come, and an index selects the value that iteration reaches at that place.
-/

namespace DynValue

namespace Cursor

/-- A walk that takes no further step has none to come. -/
theorem remaining_of_ended {cursor : Cursor} (ended : cursor.next? = none) : cursor.remaining = 0 := by
  -- A step fails only in the last case, where nothing is left.
  unfold next? at ended
  split at ended
  · cases ended
  · cases ended
  · cases ended
  · rename_i noItem noKey noChar
    -- A list that is not empty would give one more value.
    cases cursor with
    | items rest => cases rest with
      | nil => rfl
      | cons item rest => exact absurd rfl (noItem item rest)
    | keys rest => cases rest with
      | nil => rfl
      | cons entry rest => exact absurd rfl (noKey entry.1 entry.2 rest)
    | chars rest => cases rest with
      | nil => rfl
      | cons c rest => exact absurd rfl (noChar c rest)
    | empty => rfl

/-- The number of steps to come is the number of values that they give. -/
theorem length_toList (cursor : Cursor) : cursor.toList.length = cursor.remaining := by
  -- Every step gives one value and lowers the count by one.
  fun_induction toList cursor with
  | case1 cursor ended => rw [remaining_of_ended ended, List.length_nil]
  | case2 cursor value rest stepped _ ih => rw [List.length_cons, ih, remaining_of_next? stepped]

/-- A step gives the first of the values to come. -/
theorem toList_of_next? {cursor rest : Cursor} {value : Value} (stepped : cursor.next? = some (value, rest)) :
    cursor.toList = value :: rest.toList := by
  -- The list is made by taking steps, and the first of them is known.
  rw [toList.eq_def]
  split <;> simp_all

/-- The bounds of a walk are both the number of values still to come. -/
theorem sizeHint_eq (cursor : Cursor) : cursor.sizeHint = (cursor.toList.length, some cursor.toList.length) := by
  -- The walk knows how many steps are left.
  rw [sizeHint, length_toList]

/-- Before every step, and at the end, the bounds are both the number of values still to come. -/
theorem hints_eq (cursor : Cursor) :
    cursor.hints = cursor.toList.tails.map fun rest => (rest.length, some rest.length) := by
  -- The values still to come after every step are the tails of those to come before the first.
  fun_induction hints cursor with
  | case1 cursor ended =>
    have nothing : cursor.toList = [] := by
      rw [← List.length_eq_zero_iff, length_toList, remaining_of_ended ended]
    rw [sizeHint_eq, nothing]
    rfl
  | case2 cursor value rest stepped _ ih =>
    rw [sizeHint_eq, ih, toList_of_next? stepped]
    rfl

end Cursor

/-- Walking through a text and counting its characters select as in the list of its characters. -/
theorem charAt?_eq (text : String) (index : Int) : charAt? text index = elementAt? text.toList index := by
  -- Counting from the start walks to the place at once; from the end, the length is counted first.
  have walks : (Text.Walk.start text).nth? = fun place => text.toList[place]? := by
    funext place
    rw [Text.Walk.nth?_eq, Text.Walk.ahead_start]
  unfold charAt?
  dsimp only
  split
  · rename_i nonneg
    rw [walks, elementAt?_of_nonneg _ nonneg]
  · rw [walks, elementAt?, String.length_toList]

namespace Value

/-- What iteration over a value gives. -/
structure Iterates (value : Value) : Prop where
  /-- The walk in place gives the values that the value is taken apart into. -/
  same_items : (View.start value).toList = (Cursor.start value).toList
  /-- A dict gives its keys. -/
  keys_of_dict : ∀ entries : List (Value × Value), value = .dict entries →
    (Cursor.start value).toList = entries.map Prod.fst
  /-- Before every step, and at the end, both bounds are the number of values still to come. -/
  hints_exact : (Cursor.start value).hints =
    (Cursor.start value).toList.tails.map fun rest => (rest.length, some rest.length)
  /-- At the start that is the size of a container. -/
  size_at_start : value.kind = .list ∨ value.kind = .tuple ∨ value.kind = .dict →
    (Cursor.start value).sizeHint = (value.size, some value.size)
  /-- At the start of a text it is the number of its characters. -/
  chars_at_start : ∀ text : String, value = .str text →
    (Cursor.start value).sizeHint = (text.toList.length, some text.toList.length)

/-- A lenient index reads a value as it reads the native sequence of the values that iteration gives. -/
def IndexedAsIterated (value : Value) (index : Word64) : Prop :=
  ∃ selected : Option Value,
    Native.pick? ⟨.list .value, (Cursor.start value).toList⟩ ⟨.int .int64, index⟩ = some (.datum .value selected) ∧
      Native.pick? ⟨.value, value⟩ ⟨.int .int64, index⟩ = some (.value (selected.getD .null)) ∧
      (selected = none ↔ ¬(-((Cursor.start value).toList.length : Int) ≤ index.toInt ∧
        index.toInt < (Cursor.start value).toList.length))

/-- The character that an index selects in a text. -/
structure CharReads (text : String) (index : Word64) : Prop where
  /-- Counted from the start, it is the one at that place in the list of characters. -/
  forward : 0 ≤ index.toInt →
    Native.pick? ⟨.text, text⟩ ⟨.int .int64, index⟩ = some (.datum .char text.toList[index.toInt.toNat]?)
  /-- Counted from the end, the number of characters is added, and there is none where that is still negative. -/
  backward : index.toInt < 0 →
    Native.pick? ⟨.text, text⟩ ⟨.int .int64, index⟩ = some (.datum .char
      (if 0 ≤ text.toList.length + index.toInt then text.toList[(text.toList.length + index.toInt).toNat]? else none))

/-- Both walks through a value give the same values, and the counts of the one are exact. -/
theorem iterates (value : Value) : Iterates value where
  same_items := by rw [toList_startView, toList_start]
  keys_of_dict := by
    rintro entries rfl
    exact Cursor.toList_keys entries
  hints_exact := Cursor.hints_eq _
  -- The size of a container is the number of its elements or entries.
  size_at_start := by
    intro container
    cases value <;> simp only [kind, reduceCtorEq, or_self, or_false, false_or] at container <;> rfl
  chars_at_start := by
    rintro text rfl
    rfl

/-- Outside of dicts, an index picks among the values that iteration gives. -/
theorem pick_eq {value : Value} (unkeyed : value.kind ≠ .dict) (index : Word64) :
    value.pick index = (elementAt? value.items index.toInt).getD .null := by
  cases value with
  | list | tuple => rfl
  | dict => exact absurd rfl unkeyed
  | str text =>
    -- The characters are picked first and made texts afterwards.
    rw [pick, charAt?_eq, items, elementAt?, elementAt?, List.length_map]
    cases position? index.toInt text.toList.length <;> simp
  | _ => simp [pick, items, elementAt?]

/-- Outside of dicts an index selects the value that iteration reaches at its place. -/
theorem indexedAsIterated {value : Value} (unkeyed : value.kind ≠ .dict) (index : Word64) :
    IndexedAsIterated value index := by
  -- The selection from the values that are iterated over is what both sides read.
  unfold IndexedAsIterated
  rw [toList_start]
  refine ⟨elementAt? value.items index.toInt, ?_, ?_, ?_⟩
  · simp [Native.pick?, Native.index?]
  · -- The subscript is the word itself, since the width is the one that indices have.
    have wide : IntType.int64 ≠ IntType.int32 := by decide
    rw [← pick_eq unkeyed, ← pickBy_int64]
    simp [Native.pick?, Native.subscript?, wide, Word.convert_self]
  · by_cases inside : -(value.items.length : Int) ≤ index.toInt ∧ index.toInt < value.items.length
    · obtain ⟨element, _, found⟩ := elementAt?_of_inside inside
      simp [found, inside]
    · simp [elementAt?_of_outside inside, inside]

/-- An index selects the character of a text at its place, counted from the start or from the end. -/
theorem charReads (text : String) (index : Word64) : CharReads text index := by
  -- A native text selects as the list of its characters does.
  have picked : Native.pick? ⟨.text, text⟩ ⟨.int .int64, index⟩ =
      some (.datum .char (elementAt? text.toList index.toInt)) := by
    simp [Native.pick?, Native.index?, charAt?_eq]
  constructor
  · intro nonneg
    rw [picked, elementAt?_of_nonneg _ nonneg]
  · intro negative
    rw [picked]
    split
    · rename_i reached
      have inside : -(text.toList.length : Int) ≤ index.toInt ∧ index.toInt < text.toList.length := by omega
      obtain ⟨element, held, found⟩ := elementAt?_of_inside inside
      rw [found, ← held, placeOf, if_pos negative]
    · rw [elementAt?_of_outside (by omega)]

/-- The characters of a text add up to the text, without a record. -/
theorem foldlM_add_chars (start : String) (chars : List Char) :
    (chars.map ofChar).foldlM (apply .add) (.str start) = (pure (.str (start ++ String.ofList chars)) : Traced Value) := by
  -- The text so far grows by the next character.
  induction chars generalizing start with
  | nil => simp
  | cons c rest ih =>
    have joined : apply .add (.str start) (ofChar c) = pure (.str (start ++ String.singleton c)) := rfl
    -- A character in front of the rest is the rest with one character more.
    have together : start ++ String.singleton c ++ String.ofList rest = start ++ String.ofList (c :: rest) := by
      rw [String.append_assoc, ← String.toList_inj]
      simp
    rw [List.map_cons, List.foldlM_cons, joined, pure_bind, ih, together]

/--
Iteration and indices agree, on every value.

Both walks through a value give the same values, and the one that takes it apart always knows how many are to come. Outside
of dicts, every index selects among these values as in a native sequence of them. In a text it selects the character at its
place, and the characters add up to the text again.
-/
theorem iteration_agrees :
    (∀ value : Value, Iterates value) ∧
      (∀ (value : Value) (index : Word64), value.kind ≠ .dict → IndexedAsIterated value index) ∧
      (∀ (text : String) (index : Word64), CharReads text index) ∧
      ∀ text : String, (Cursor.start (.str text)).toList.foldlM (apply .add) (.str "") =
        (pure (.str text) : Traced Value) := by
  -- The walks, the indices and the characters are taken one after the other.
  refine ⟨iterates, ?_, charReads, ?_⟩
  · intro value index unkeyed
    exact indexedAsIterated unkeyed index
  · intro text
    rw [toList_start, items, foldlM_add_chars, String.ofList_toList, String.empty_append]

/-- The walk through a text of three characters counts down, and the least index misses the text. -/
theorem iteration_agrees_edges :
    (Cursor.start (.str "aé日")).hints = [(3, some 3), (2, some 2), (1, some 1), (0, some 0)] ∧
      IndexedAsIterated (.str "aé日") (Word.ofInt _ (-3)) ∧
      Native.pick? ⟨.text, "aé日"⟩ ⟨.int .int64, Word.ofInt _ (-9223372036854775808)⟩ = some (.datum .char none) := by
  -- The values to come are counted at every step of the walk.
  obtain ⟨iterated, indexed, chars, _⟩ := iteration_agrees
  refine ⟨?_, indexed (.str "aé日") (Word.ofInt _ (-3)) (by decide), ?_⟩
  · rw [(iterated (.str "aé日")).hints_exact, toList_start]
    decide
  · exact (chars "aé日" (Word.ofInt _ (-9223372036854775808))).backward (by decide)

end Value

end DynValue
