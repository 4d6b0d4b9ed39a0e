import DynValue.Proofs.Binary.Order
import DynValue.Value.Order

/-!
Values whose dicts list their entries in order are compared as words are.

Every value is spelled as a word over ordered letters, no spelling being a proper beginning of another. The laws of the
order of values are then those of the order of words.
-/

namespace DynValue.Value

/-- A letter is a number with a text. -/
abbrev Letter := Int × String

/-- The letter of a number, whose text is empty. -/
def mark (number : Int) : Letter := (number, "")

/-- Letters are ordered by their numbers, then by their texts. -/
def compareLetters : Letter → Letter → Ordering :=
  compareLex (compareOn Prod.fst) (compareOn Prod.snd)

/-- Words are ordered by their first difference, a shorter word before its extensions. -/
def compareWords : List Letter → List Letter → Ordering :=
  List.compareLex compareLetters

/-- Words are ordered totally, since their letters are. -/
instance : Std.TransCmp compareWords :=
  inferInstanceAs (Std.TransCmp (List.compareLex (compareLex (compareOn Prod.fst) (compareOn Prod.snd))))

mutual

/-- The word that spells a value. -/
def spelling : Value → List Letter
  | .null => [mark 0]
  | .bool truth => [mark 1, mark truth.toInt]
  -- Numbers stand by their place on the line, an integer before the float at the same place.
  | .int number =>
    [mark 2, mark (Binary.ofInt .double number.toInt).place, mark 0, mark number.toInt]
  | .float number => [mark 2, mark number.place, mark 1, mark number.rank]
  | .str text => [mark 4, (0, text)]
  | .list items => mark 5 :: spellItems items
  | .tuple items => mark 6 :: spellItems items
  | .dict entries => mark 7 :: mark entries.length :: spellEntries entries

/-- The word that spells a sequence, with a letter in front of each element and one at the end. -/
def spellItems : List Value → List Letter
  | [] => [mark 0]
  | item :: rest => mark 1 :: (spelling item ++ spellItems rest)

/-- The word that spells entries, with a letter in front of each key and one at the end. -/
def spellEntries : List (Value × Value) → List Letter
  | [] => [mark 0]
  | (key, value) :: rest => mark 1 :: (spelling key ++ (spelling value ++ spellEntries rest))

end

/-- Words that start with numbers are told apart by these, or else by what follows. -/
theorem compareWords_mark (m n : Int) (u v : List Letter) :
    compareWords (mark m :: u) (mark n :: v) = (Ord.compare m n).then (compareWords u v) := by
  -- A number is a letter with an empty text, so that the texts never decide.
  have letters : compareLetters (mark m) (mark n) = (Ord.compare m n).then (Ord.compare "" "") := rfl
  rw [compareWords, List.compareLex_cons_cons, letters, Std.ReflOrd.compare_self, Ordering.then_eq]

/-- Words that start with texts are told apart by these, or else by what follows. -/
theorem compareWords_text (s t : String) (u v : List Letter) :
    compareWords ((0, s) :: u) ((0, t) :: v) = (Ord.compare s t).then (compareWords u v) := by
  -- A text is a letter with the number zero, so that the numbers never decide.
  rw [compareWords, List.compareLex_cons_cons]
  rfl

/-- Natural numbers are compared as the integers they are. -/
theorem compare_natCast (m n : Nat) : Ord.compare (m : Int) (n : Int) = Ord.compare m n := by
  -- The comparison asks for less and for equal, which the embedding keeps.
  simp only [Ord.compare, compareOfLessAndEq, Int.ofNat_lt, Int.ofNat_inj]

/-- A coarser comparison in front of a comparison changes nothing. -/
theorem compare_then_compare {p q a b : Int} (forward : a ≤ b → p ≤ q) (backward : b ≤ a → q ≤ p) :
    (Ord.compare p q).then (Ord.compare a b) = Ord.compare a b := by
  -- The coarser comparison agrees with the finer one or leaves the decision to it.
  rcases Int.lt_trichotomy a b with less | same | greater
  · have coarse := forward (by omega)
    rw [Int.compare_eq_lt.mpr less]
    rcases Int.lt_or_eq_of_le coarse with apart | together
    · rw [Int.compare_eq_lt.mpr apart]
      rfl
    · rw [Int.compare_eq_eq.mpr together]
      rfl
  · -- Equal in the finer sense, they are equal in the coarser one.
    have together := Int.le_antisymm (forward (by omega)) (backward (by omega))
    rw [Int.compare_eq_eq.mpr together]
    rfl
  · have coarse := backward (by omega)
    rw [Int.compare_eq_gt.mpr greater]
    rcases Int.lt_or_eq_of_le coarse with apart | together
    · rw [Int.compare_eq_gt.mpr apart]
      rfl
    · rw [Int.compare_eq_eq.mpr together.symm]
      rfl

/-- Exact order of integers is kept by first comparing the floats they round to. -/
theorem compare_places_int (a b : Word64) :
    (Ord.compare (Binary.ofInt .double a.toInt).place (Binary.ofInt .double b.toInt).place).then
      (Ord.compare a.toInt b.toInt) = Ord.compare a b :=
  compare_then_compare (Binary.place_ofInt_mono _) (Binary.place_ofInt_mono _)

/-- The total order of floats is kept by first comparing their places. -/
theorem compare_places_float (a b : Binary64) :
    (Ord.compare a.place b.place).then (Ord.compare a.rank b.rank) = a.totalCompare b :=
  compare_then_compare Binary.place_mono Binary.place_mono

/-- The float an integer rounds to is a number. -/
theorem isNan_ofInt (n : Word64) : (Binary.ofInt .double n.toInt).isNan = false := by
  -- The magnitudes of NaNs lie beyond that of infinity.
  have := Binary.magnitude_ofInt_le .double n.toInt
  simp only [Binary.isNan, decide_eq_false_iff_not]
  omega

mutual

/-- Spellings in front of words are compared as the values they spell, and only then the words. -/
theorem compareWords_spelling (x y : Value) (u v : List Letter) :
    compareWords (spelling x ++ u) (spelling y ++ v) =
      (compareTree x y).then (compareWords u v) := by
  -- The words that follow are arbitrary, so that the lemma applies again inside of sequences and entries.
  cases x <;> cases y <;>
    simp only [spelling, List.cons_append, List.nil_append, compareWords_mark, compareTree, kind, Kind.rank]
  case bool.bool a b => cases a <;> cases b <;> rfl
  -- The place on the line decides between numbers before anything finer does.
  case int.int a b =>
    rw [← compare_places_int a b, Ordering.then_assoc]
    rfl
  case float.float a b =>
    rw [← compare_places_float a b, Ordering.then_assoc]
    rfl
  case int.float a b =>
    rw [Binary.compareNumbers_eq_compare_place (.inl (isNan_ofInt a)), Ordering.then_assoc]
    rfl
  case float.int a b =>
    rw [Binary.compareNumbers_eq_compare_place (.inr (isNan_ofInt b)), Ordering.then_assoc]
    rfl
  case str.str a b =>
    rw [compareWords_text]
    rfl
  case list.list a b =>
    rw [compareWords_spellItems a b]
    rfl
  case tuple.tuple a b =>
    rw [compareWords_spellItems a b]
    rfl
  case dict.dict a b =>
    rw [compareWords_spellEntries a b, compare_natCast, Ordering.then_assoc]
    rfl
  -- The first letter tells values of other kinds apart.
  all_goals rfl

/-- Spelled sequences in front of words are compared as the sequences, and only then the words. -/
theorem compareWords_spellItems (xs ys : List Value) (u v : List Letter) :
    compareWords (spellItems xs ++ u) (spellItems ys ++ v) =
      (compareItems xs ys).then (compareWords u v) := by
  -- The letter in front of an element is greater than the one at the end, as a longer sequence is.
  cases xs <;> cases ys <;>
    simp only [spellItems, List.cons_append, List.nil_append, List.append_assoc, compareWords_mark, compareItems]
  case cons.cons x xs y ys =>
    rw [compareWords_spelling x y, compareWords_spellItems xs ys, Ordering.then_assoc]
    rfl
  all_goals rfl

/-- Spelled entries in front of words are compared as the entries, and only then the words. -/
theorem compareWords_spellEntries (xs ys : List (Value × Value)) (u v : List Letter) :
    compareWords (spellEntries xs ++ u) (spellEntries ys ++ v) =
      (compareEntries xs ys).then (compareWords u v) := by
  -- Before an entry stands a one and at the end a zero, so that entries that end come first.
  match xs, ys with
  | (key, value) :: xs, (key', value') :: ys =>
    simp only [spellEntries, List.cons_append, List.append_assoc, compareWords_mark, compareEntries]
    rw [compareWords_spelling key key', compareWords_spelling value value',
      compareWords_spellEntries xs ys, Ordering.then_assoc, Ordering.then_assoc]
    rfl
  | [], [] | [], _ :: _ | _ :: _, [] =>
    simp only [spellEntries, List.cons_append, List.nil_append, compareWords_mark, compareEntries]
    rfl

end

/-- Whatever is compared through words is compared lawfully. -/
theorem transCmp_of_words {α : Type} {cmp : α → α → Ordering} (word : α → List Letter)
    (spelled : ∀ a b, cmp a b = compareWords (word a) (word b)) : Std.TransCmp cmp where
  -- The laws hold of the words and are read back.
  eq_swap {a b} := by
    rw [spelled, spelled]
    exact Std.OrientedCmp.eq_swap
  isLE_trans {a b c} first second := by
    rw [spelled] at first second ⊢
    exact Std.TransCmp.isLE_trans first second

/-- Trees are ordered totally, through their spellings. -/
instance : Std.TransCmp compareTree :=
  transCmp_of_words spelling fun a b => by
    -- With nothing after them, the spellings alone are compared.
    have whole := compareWords_spelling a b [] []
    rw [List.append_nil, List.append_nil, show compareWords [] [] = .eq from rfl, Ordering.then_eq] at whole
    exact whole.symm

/-- The order of entries by key, then by value. -/
def compareEntry (a b : Value × Value) : Ordering :=
  (compareTree a.1 b.1).then (compareTree a.2 b.2)

/-- Entries are ordered totally, through their spellings. -/
instance : Std.TransCmp compareEntry :=
  transCmp_of_words (fun entry => spelling entry.1 ++ (spelling entry.2 ++ [])) fun a b => by
    rw [compareWords_spelling, compareWords_spelling, show compareWords [] [] = .eq from rfl, Ordering.then_eq]
    rfl

mutual

/-- Values that compare as equal are the same, entry by entry. -/
theorem eq_of_compareTree {x y : Value} (equal : compareTree x y = .eq) : x = y := by
  cases x <;> cases y <;> simp only [compareTree, kind, Kind.rank, Ordering.then_eq_eq] at equal
  case null.null => rfl
  case bool.bool a b => rw [Std.LawfulEqOrd.eq_of_compare equal]
  case int.int a b => rw [Std.LawfulEqOrd.eq_of_compare equal]
  case float.float a b => rw [Binary.rank_inj (Std.LawfulEqOrd.eq_of_compare equal)]
  case str.str a b => rw [Std.LawfulEqOrd.eq_of_compare equal]
  case list.list a b => rw [eq_of_compareItems equal]
  case tuple.tuple a b => rw [eq_of_compareItems equal]
  case dict.dict a b => rw [eq_of_compareEntries equal.2]
  -- Values of different kinds never compare as equal, an integer and a float included.
  all_goals simp at equal

/-- Sequences that compare as equal are the same. -/
theorem eq_of_compareItems {xs ys : List Value} (equal : compareItems xs ys = .eq) : xs = ys := by
  -- The elements compare as equal one by one, and a sequence that is longer does not.
  cases xs <;> cases ys <;> simp only [compareItems, Ordering.then_eq_eq] at equal
  case nil.nil => rfl
  case cons.cons x xs y ys => rw [eq_of_compareTree equal.1, eq_of_compareItems equal.2]
  all_goals contradiction

/-- Entries that compare as equal are the same. -/
theorem eq_of_compareEntries {xs ys : List (Value × Value)} (equal : compareEntries xs ys = .eq) :
    xs = ys := by
  -- Keys and values compare as equal one by one, and a sequence that is longer does not.
  match xs, ys with
  | [], [] => rfl
  | [], _ :: _ | _ :: _, [] => simp only [compareEntries] at equal; contradiction
  | (key, value) :: xs, (key', value') :: ys =>
    simp only [compareEntries, Ordering.then_eq_eq] at equal
    rw [eq_of_compareTree equal.1.1, eq_of_compareTree equal.1.2, eq_of_compareEntries equal.2]

end

/-- Trees that compare as equal are the same. -/
instance : Std.LawfulEqCmp compareTree where
  eq_of_compare := eq_of_compareTree

/-- Entries that compare as equal are the same. -/
instance : Std.LawfulEqCmp compareEntry where
  eq_of_compare {a b} equal := by
    simp only [compareEntry, Ordering.then_eq_eq] at equal
    exact Prod.ext (eq_of_compareTree equal.1) (eq_of_compareTree equal.2)

end DynValue.Value
