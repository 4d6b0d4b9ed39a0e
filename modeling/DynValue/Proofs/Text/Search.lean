import DynValue.Native.Convert
import DynValue.Proofs.Value.Stream
import DynValue.Value.Methods
import Mathlib.Order.Bounds.Basic

/-!
A search finds the first or the last position at which one text occurs in another.

Positions count characters. A search of the bytes finds the same occurrences, because the bytes of a text start with a byte
that stands inside of no character.
-/

namespace DynValue.Text

/-- A sequence occurs in another at a position when that many elements come before it. -/
def OccursAt {α : Type} (sub whole : List α) (position : Nat) : Prop :=
  ∃ before after, before.length = position ∧ before ++ sub ++ after = whole

section

variable {α : Type} {sub whole : List α} {position : Nat}

/-- A text occurs at the position zero of another if that starts with it. -/
theorem occursAt_zero_iff : OccursAt sub whole 0 ↔ sub <+: whole := by
  -- An occurrence at zero has nothing in front of it.
  constructor
  · rintro ⟨before, after, start, rfl⟩
    rw [List.eq_nil_of_length_eq_zero start, List.nil_append]
    exact List.prefix_append sub after
  · rintro ⟨after, rfl⟩
    exact ⟨[], after, rfl, rfl⟩

/-- Past the elements that come first, a sequence occurs as it does without them. -/
theorem occursAt_append_iff (front : List α) :
    OccursAt sub (front ++ whole) (front.length + position) ↔ OccursAt sub whole position := by
  constructor
  · rintro ⟨before, after, start, same⟩
    -- What comes before the occurrence starts with the front.
    have starts : before <+: front ++ whole := by
      rw [← same, List.append_assoc]
      exact List.prefix_append ..
    have covered : front <+: before := List.prefix_of_prefix_length_le (List.prefix_append ..) starts (by omega)
    obtain ⟨between, rfl⟩ := covered
    simp only [List.append_assoc, List.append_cancel_left_eq, List.length_append] at same start
    exact ⟨between, after, by omega, by rw [← same, List.append_assoc]⟩
  · rintro ⟨before, after, start, rfl⟩
    exact ⟨front ++ before, after, by simp [start], by simp⟩

/-- Behind the first element an occurrence stands one position earlier. -/
theorem occursAt_succ_iff (first : α) :
    OccursAt sub (first :: whole) (position + 1) ↔ OccursAt sub whole position := by
  -- The first element is a piece in front of length one.
  rw [Nat.add_comm]
  exact occursAt_append_iff [first]

/-- An occurrence ends inside of the whole. -/
theorem OccursAt.add_length_le (occurs : OccursAt sub whole position) : position + sub.length ≤ whole.length := by
  -- What stands before, the occurrence and what stands behind make up the whole.
  obtain ⟨before, after, rfl, rfl⟩ := occurs
  simp

/-- What ends with a sequence has it at the position that its length leaves. -/
theorem isSuffix_iff_occursAt :
    sub <:+ whole ↔ ∃ position, position + sub.length = whole.length ∧ OccursAt sub whole position := by
  constructor
  · rintro ⟨before, rfl⟩
    exact ⟨before.length, by simp, before, [], rfl, by simp⟩
  · rintro ⟨_, ends, before, after, rfl, rfl⟩
    -- Nothing can follow an occurrence that reaches the end.
    have none : after = [] := by
      apply List.eq_nil_of_length_eq_zero
      simp only [List.length_append] at ends
      omega
    rw [none, List.append_nil]
    exact List.suffix_append before sub

end

section

variable {α : Type} [DecidableEq α] {sub text : List α} {position : Nat}

/-- The position that is found is the least one at which the text occurs. -/
theorem isLeast_of_find? (found : find? sub text = some position) : IsLeast {i | OccursAt sub text i} position := by
  -- The search tests the positions one after the other.
  induction text generalizing position with
  | nil =>
    simp only [find?] at found
    split at found
    · obtain rfl := Option.some.inj found
      subst sub
      exact ⟨occursAt_zero_iff.mpr List.prefix_rfl, fun i _ => Nat.zero_le i⟩
    · contradiction
  | cons c rest ih =>
    simp only [find?] at found
    split at found
    · rename_i here
      obtain rfl := Option.some.inj found
      exact ⟨occursAt_zero_iff.mpr (List.isPrefixOf_iff_prefix.mp here), fun i _ => Nat.zero_le i⟩
    · -- An occurrence further on is one in the rest, a position later.
      rename_i elsewhere
      obtain ⟨later, inner, rfl⟩ := Option.map_eq_some_iff.mp found
      obtain ⟨occurs, least⟩ := ih inner
      refine ⟨(occursAt_succ_iff c).mpr occurs, fun i other => ?_⟩
      cases i with
      | zero => exact absurd (List.isPrefixOf_iff_prefix.mpr (occursAt_zero_iff.mp other)) elsewhere
      | succ i => exact Nat.succ_le_succ (least ((occursAt_succ_iff c).mp other))

/-- A text that is not found occurs nowhere. -/
theorem not_occursAt_of_find? (missing : find? sub text = none) (position : Nat) : ¬OccursAt sub text position := by
  induction text generalizing position with
  | nil =>
    -- Only the empty text fits into the empty one, and it would have been found.
    intro occurs
    have short : position + sub.length ≤ 0 := occurs.add_length_le
    have empty : sub = [] := List.eq_nil_of_length_eq_zero (by omega)
    simp [find?, empty] at missing
  | cons c rest ih =>
    simp only [find?] at missing
    split at missing
    · contradiction
    · rename_i elsewhere
      rw [Option.map_eq_none_iff] at missing
      cases position with
      | zero => exact fun here => elsewhere (List.isPrefixOf_iff_prefix.mpr (occursAt_zero_iff.mp here))
      | succ position => exact fun later => ih missing position ((occursAt_succ_iff c).mp later)

/-- A text that is not found from the end occurs nowhere. -/
theorem not_occursAt_of_findLast? (missing : findLast? sub text = none) (position : Nat) :
    ¬OccursAt sub text position := by
  induction text generalizing position with
  | nil =>
    have missing : find? sub [] = none := missing
    exact not_occursAt_of_find? missing position
  | cons c rest ih =>
    simp only [findLast?] at missing
    split at missing
    · contradiction
    · rename_i later
      split at missing
      · contradiction
      · -- The occurrence would be at the start or in the rest, and both were tried.
        rename_i elsewhere
        cases position with
        | zero => exact fun here => elsewhere (List.isPrefixOf_iff_prefix.mpr (occursAt_zero_iff.mp here))
        | succ position => exact fun occurs => ih later position ((occursAt_succ_iff c).mp occurs)

/-- The position that is found from the end is the greatest one at which the text occurs. -/
theorem isGreatest_of_findLast? (found : findLast? sub text = some position) :
    IsGreatest {i | OccursAt sub text i} position := by
  induction text generalizing position with
  | nil =>
    -- In the empty text the first position is the last one.
    have found : find? sub [] = some position := found
    refine ⟨(isLeast_of_find? found).1, fun i occurs => ?_⟩
    have short : i + sub.length ≤ 0 := occurs.add_length_le
    omega
  | cons c rest ih =>
    simp only [findLast?] at found
    split at found
    · -- What occurs in the rest comes after an occurrence at the start.
      rename_i later inner
      obtain rfl := Option.some.inj found
      obtain ⟨occurs, greatest⟩ := ih inner
      refine ⟨(occursAt_succ_iff c).mpr occurs, fun i other => ?_⟩
      cases i with
      | zero => exact Nat.zero_le _
      | succ i => exact Nat.succ_le_succ (greatest ((occursAt_succ_iff c).mp other))
    · rename_i missing
      split at found
      · rename_i here
        obtain rfl := Option.some.inj found
        refine ⟨occursAt_zero_iff.mpr (List.isPrefixOf_iff_prefix.mp here), fun i other => ?_⟩
        cases i with
        | zero => exact Nat.le_refl 0
        | succ i => exact absurd ((occursAt_succ_iff c).mp other) (not_occursAt_of_findLast? missing i)
      · contradiction

/-- The search finds the least position of an occurrence, if there is any. -/
theorem find?_eq_some_iff : find? sub text = some position ↔ IsLeast {i | OccursAt sub text i} position := by
  -- Where there is a least position the search does not fail, and there is one least position only.
  refine ⟨isLeast_of_find?, fun least => ?_⟩
  cases found : find? sub text with
  | none => exact absurd least.1 (not_occursAt_of_find? found position)
  | some other => rw [(isLeast_of_find? found).unique least]

/-- The search from the end finds the greatest position of an occurrence, if there is any. -/
theorem findLast?_eq_some_iff : findLast? sub text = some position ↔ IsGreatest {i | OccursAt sub text i} position := by
  -- Two greatest positions are the same, and where there is one the search does not fail.
  refine ⟨isGreatest_of_findLast?, fun greatest => ?_⟩
  cases found : findLast? sub text with
  | none => exact absurd greatest.1 (not_occursAt_of_findLast? found position)
  | some other => rw [(isGreatest_of_findLast? found).unique greatest]

/-- The search fails where nothing occurs. -/
theorem find?_eq_none_iff : find? sub text = none ↔ ∀ i, ¬OccursAt sub text i := by
  -- A position that was found would be one of an occurrence.
  refine ⟨not_occursAt_of_find?, fun nowhere => ?_⟩
  cases found : find? sub text with
  | none => rfl
  | some position => exact absurd (isLeast_of_find? found).1 (nowhere position)

/-- The search from the end fails where nothing occurs. -/
theorem findLast?_eq_none_iff : findLast? sub text = none ↔ ∀ i, ¬OccursAt sub text i := by
  -- A position that was found would be one of an occurrence.
  refine ⟨not_occursAt_of_findLast?, fun nowhere => ?_⟩
  cases found : findLast? sub text with
  | none => rfl
  | some position => exact absurd (isGreatest_of_findLast? found).1 (nowhere position)

end

section

variable {sub text : List Char} {position : Nat}

/-- The bytes of a character come before those of the characters behind it. -/
@[simp] theorem utf8_cons (c : Char) (text : List Char) : utf8 (c :: text) = String.utf8EncodeChar c ++ utf8 text :=
  List.flatMap_cons

/-- The bytes of texts one behind the other stand one behind the other. -/
@[simp] theorem utf8_append (front back : List Char) : utf8 (front ++ back) = utf8 front ++ utf8 back :=
  List.flatMap_append

/-- The bytes of a character can be told from what follows. -/
theorem utf8EncodeChar_append_inj {c d : Char} {u v : List UInt8}
    (same : String.utf8EncodeChar c ++ u = String.utf8EncodeChar d ++ v) : c = d ∧ u = v := by
  -- Decoding the first character gives it back, whatever comes after it.
  have decoded := congrArg (fun bytes => ByteArray.utf8DecodeChar? (List.toByteArray bytes) 0) same
  simp only [List.toByteArray_append, ByteArray.utf8DecodeChar?_utf8EncodeChar_append, Option.some.injEq] at decoded
  subst decoded
  exact ⟨rfl, List.append_cancel_left same⟩

/-- A text whose bytes start the bytes of another starts that text. -/
theorem isPrefixOf_of_utf8 (starts : utf8 sub <+: utf8 text) : sub <+: text := by
  -- The characters are read off the bytes one after the other.
  induction sub generalizing text with
  | nil => exact List.nil_prefix
  | cons c sub ih =>
    obtain ⟨after, same⟩ := starts
    cases text with
    | nil => simp [utf8] at same
    | cons d text =>
      simp only [utf8_cons, List.append_assoc] at same
      obtain ⟨rfl, rest⟩ := utf8EncodeChar_append_inj same
      exact List.cons_prefix_cons.mpr ⟨rfl, ih ⟨after, rest⟩⟩

/-- The bytes of a text cannot start inside of a character. -/
theorem not_occursAt_inside {c d : Char} {offset : Nat} (inside : 0 < offset ∧ offset < (String.utf8EncodeChar d).length) :
    ¬OccursAt (utf8 (c :: sub)) (utf8 (d :: text)) offset := by
  rintro ⟨before, after, rfl, same⟩
  -- The byte there would be the first of one character and a further one of another.
  have nonempty : 0 < (String.utf8EncodeChar c).length := by simp [c.utf8Size_pos]
  have byte := congrArg (fun bytes => bytes[before.length]?) same
  simp only [utf8_cons, List.append_assoc, List.getElem?_append_right (Nat.le_refl _), Nat.sub_self,
    List.getElem?_append_left nonempty, List.getElem?_append_left inside.2, List.getElem?_eq_getElem nonempty,
    List.getElem?_eq_getElem inside.2, Option.some.injEq] at byte
  have start := UInt8.isUTF8FirstByte_getElem_zero_utf8EncodeChar (c := c)
  rw [byte, UInt8.isUTF8FirstByte_getElem_utf8EncodeChar] at start
  omega

/-- Bytes of a text occur where the text occurs, after the bytes of the characters in front of it. -/
theorem occursAt_utf8 (occurs : OccursAt sub text position) :
    OccursAt (utf8 sub) (utf8 text) (utf8 (text.take position)).length := by
  -- The bytes of the text in three parts are the bytes of the parts.
  obtain ⟨before, after, rfl, rfl⟩ := occurs
  exact ⟨utf8 before, utf8 after, by simp, by simp⟩

/-- Bytes of a nonempty text occur nowhere else. -/
theorem exists_occursAt_of_utf8 (nonempty : sub ≠ []) {offset : Nat} (occurs : OccursAt (utf8 sub) (utf8 text) offset) :
    ∃ position, OccursAt sub text position ∧ offset = (utf8 (text.take position)).length := by
  obtain ⟨c, sub, rfl⟩ := List.exists_cons_of_ne_nil nonempty
  -- The induction is on the text, of which one character after the other is passed over.
  induction text generalizing offset with
  | nil =>
    have short := occurs.add_length_le
    have size := c.utf8Size_pos
    simp [utf8] at short
    omega
  | cons d text ih =>
    -- The occurrence is at the start of the character, inside of it, or past it.
    by_cases start : offset = 0
    · subst start
      exact ⟨0, occursAt_zero_iff.mpr (isPrefixOf_of_utf8 (occursAt_zero_iff.mp occurs)), rfl⟩
    · by_cases inside : offset < (String.utf8EncodeChar d).length
      · exact absurd occurs (not_occursAt_inside ⟨by omega, inside⟩)
      · obtain ⟨rest, rfl⟩ := Nat.exists_eq_add_of_le (Nat.le_of_not_lt inside)
        rw [utf8_cons d, occursAt_append_iff] at occurs
        obtain ⟨position, later, rfl⟩ := ih occurs
        exact ⟨position + 1, (occursAt_succ_iff d).mpr later, by simp⟩

/-- More characters have at least as many bytes. -/
theorem length_utf8_take_mono (text : List Char) {i j : Nat} (le : i ≤ j) :
    (utf8 (text.take i)).length ≤ (utf8 (text.take j)).length := by
  -- The shorter piece in front is the start of the longer one.
  obtain ⟨more, split⟩ := List.take_prefix_take_left (l := text) le
  rw [← split, utf8_append, List.length_append]
  exact Nat.le_add_right ..

/-- The first occurrence of the bytes of a text is the first occurrence of the text. -/
theorem isLeast_utf8 (least : IsLeast {i | OccursAt sub text i} position) :
    IsLeast {k | OccursAt (utf8 sub) (utf8 text) k} (utf8 (text.take position)).length := by
  refine ⟨occursAt_utf8 least.1, fun offset occurs => ?_⟩
  by_cases empty : sub = []
  · -- The empty text occurs at the very start, of the characters as of the bytes.
    subst empty
    have start : position = 0 := Nat.le_zero.mp (least.2 (occursAt_zero_iff.mpr List.nil_prefix))
    simp [start, utf8]
  · obtain ⟨other, here, rfl⟩ := exists_occursAt_of_utf8 empty occurs
    exact length_utf8_take_mono text (least.2 here)

/-- The last occurrence of the bytes of a text is the last occurrence of the text. -/
theorem isGreatest_utf8 (greatest : IsGreatest {i | OccursAt sub text i} position) :
    IsGreatest {k | OccursAt (utf8 sub) (utf8 text) k} (utf8 (text.take position)).length := by
  refine ⟨occursAt_utf8 greatest.1, fun offset occurs => ?_⟩
  by_cases empty : sub = []
  · -- The empty text occurs at the very end, of the characters as of the bytes.
    subst empty
    have reached : text.length ≤ position := greatest.2 ⟨text, [], rfl, by simp⟩
    rw [List.take_of_length_le reached]
    exact occurs.add_length_le
  · obtain ⟨other, here, rfl⟩ := exists_occursAt_of_utf8 empty occurs
    exact length_utf8_take_mono text (greatest.2 here)

/-- In front of a byte that starts a character there are the characters that come before it. -/
theorem charPosition_utf8_take (inside : position ≤ text.length) :
    charPosition (utf8 (text.take position)).length text = position := by
  -- The walk over the text uses up the bytes of one character after the other.
  induction text generalizing position with
  | nil => exact (Nat.le_zero.mp inside).symm
  | cons c rest ih =>
    cases position with
    | zero => simp [charPosition, utf8, Nat.not_le.mpr c.utf8Size_pos]
    | succ position =>
      have size : (utf8 ((c :: rest).take (position + 1))).length = c.utf8Size + (utf8 (rest.take position)).length := by
        simp
      rw [size, charPosition, if_pos (Nat.le_add_right ..), Nat.add_sub_cancel_left, ih (Nat.le_of_succ_le_succ inside)]

/-- The bytes of a text occur nowhere when the text does not. -/
theorem not_occursAt_utf8 (nowhere : ∀ i, ¬OccursAt sub text i) (offset : Nat) :
    ¬OccursAt (utf8 sub) (utf8 text) offset := by
  -- The empty text occurs in every text, so that the one looked for is not empty.
  have nonempty : sub ≠ [] := by
    rintro rfl
    exact nowhere 0 (occursAt_zero_iff.mpr List.nil_prefix)
  intro occurs
  obtain ⟨position, here, _⟩ := exists_occursAt_of_utf8 nonempty occurs
  exact nowhere position here

/-- A search of the bytes that counts the characters in front finds what a search of the characters finds, if anything. -/
theorem byteFind?_eq (sub text : List Char) : byteFind? sub text = find? sub text := by
  -- Bytes occur nowhere else than texts do, and the first occurrence of the one is the first of the other.
  cases found : find? sub text with
  | none =>
    rw [byteFind?, find?_eq_none_iff.mpr (not_occursAt_utf8 (find?_eq_none_iff.mp found))]
    rfl
  | some position =>
    have least := find?_eq_some_iff.mp found
    -- The position lies inside of the text, so that counting the characters of its bytes gives it back.
    have inside : position ≤ text.length := Nat.le_trans (Nat.le_add_right ..) least.1.add_length_le
    rw [byteFind?, find?_eq_some_iff.mpr (isLeast_utf8 least), Option.map_some, charPosition_utf8_take inside]

/-- A search of the bytes from the end finds what a search of the characters from the end finds, if anything. -/
theorem byteFindLast?_eq (sub text : List Char) : byteFindLast? sub text = findLast? sub text := by
  -- Greater positions have more bytes in front of them, so that the last occurrence stays the last one.
  cases found : findLast? sub text with
  | none =>
    rw [byteFindLast?, findLast?_eq_none_iff.mpr (not_occursAt_utf8 (findLast?_eq_none_iff.mp found))]
    rfl
  | some position =>
    have greatest := findLast?_eq_some_iff.mp found
    -- The position lies inside of the text, so that counting the characters of its bytes gives it back.
    have inside : position ≤ text.length := Nat.le_trans (Nat.le_add_right ..) greatest.1.add_length_le
    rw [byteFindLast?, findLast?_eq_some_iff.mpr (isGreatest_utf8 greatest), Option.map_some,
      charPosition_utf8_take inside]

end

/-- A position that was found is a natural number, and minus one tells that there is none. -/
theorem position_eq_iff {result : Option Nat} :
    (∀ i : Nat, (result.map Int.ofNat).getD (-1) = i ↔ result = some i) ∧
      ((result.map Int.ofNat).getD (-1) = -1 ↔ result = none) := by
  -- No natural number is minus one, so that the two answers are never confused.
  cases result with
  | none => simp
  | some position =>
    refine ⟨fun i => ?_, by simp⟩
    rw [Option.map_some, Option.getD_some, Option.some.injEq]
    exact Int.ofNat_inj

end DynValue.Text

namespace DynValue.Value

open Text (OccursAt)

variable {s sub : String}

/-- What the searches of a value for a text find, next to the positions at which it occurs. -/
structure ExactPositions (v : Value) (s sub : String) : Prop where
  /-- The first position is the least one. -/
  find_eq : ∀ i : Nat, v.find sub = i ↔ IsLeast {i | OccursAt sub.toList s.toList i} i
  /-- The last position is the greatest one. -/
  findLast_eq : ∀ i : Nat, v.findLast sub = i ↔ IsGreatest {i | OccursAt sub.toList s.toList i} i
  /-- All searches fail when there is no position. -/
  absent : (v.find sub = -1 ↔ ∀ i, ¬OccursAt sub.toList s.toList i) ∧
    (v.findLast sub = -1 ↔ ∀ i, ¬OccursAt sub.toList s.toList i) ∧
    (v.contains sub = false ↔ ∀ i, ¬OccursAt sub.toList s.toList i)
  /-- A text starts with what is found at its start. -/
  startsWith_iff : v.startsWith sub = true ↔ v.find sub = 0
  /-- A text ends with what occurs as many characters before its end as that has. -/
  endsWith_iff : v.endsWith sub = true ↔ ∃ i, i + sub.length = s.length ∧ OccursAt sub.toList s.toList i
  /-- What a text ends with is found last at that position. -/
  findLast_of_endsWith : ∀ i : Nat, i + sub.length = s.length → v.endsWith sub = true → v.findLast sub = i
  /-- The first occurrence among the bytes comes after the bytes of the characters before the first position. -/
  first_byte : ∀ i : Nat, v.find sub = i →
    IsLeast {k | OccursAt sub.toUTF8.toList s.toUTF8.toList k} (String.ofList (s.toList.take i)).utf8ByteSize
  /-- The last occurrence among the bytes comes after the bytes of the characters before the last position. -/
  last_byte : ∀ i : Nat, v.findLast sub = i →
    IsGreatest {k | OccursAt sub.toUTF8.toList s.toUTF8.toList k} (String.ofList (s.toList.take i)).utf8ByteSize

/-- The size of a text in bytes is the number of the bytes of its characters. -/
theorem utf8ByteSize_ofList (text : List Char) : (String.ofList text).utf8ByteSize = (Text.utf8 text).length := by
  -- The text is kept as these very bytes.
  rw [← String.size_toByteArray, String.toByteArray_ofList, List.utf8Encode, List.size_toByteArray]
  rfl

/-- The first position in a text is found by its characters. -/
theorem find_str (s sub : String) :
    find (.str s) sub = ((Text.find? sub.toList s.toList).map Int.ofNat).getD (-1) :=
  congrArg (fun found => (found.map Int.ofNat).getD (-1)) (Text.byteFind?_eq sub.toList s.toList)

/-- The last position in a text is found by its characters. -/
theorem findLast_str (s sub : String) :
    findLast (.str s) sub = ((Text.findLast? sub.toList s.toList).map Int.ofNat).getD (-1) :=
  congrArg (fun found => (found.map Int.ofNat).getD (-1)) (Text.byteFindLast?_eq sub.toList s.toList)

/-- The searches of a text are exact. -/
theorem exactPositions (s sub : String) : ExactPositions (.str s) s sub := by
  have first : ∀ i : Nat, find (.str s) sub = i ↔ IsLeast {i | OccursAt sub.toList s.toList i} i := by
    intro i
    rw [find_str]
    exact (Text.position_eq_iff.1 i).trans Text.find?_eq_some_iff
  have last : ∀ i : Nat, findLast (.str s) sub = i ↔ IsGreatest {i | OccursAt sub.toList s.toList i} i := by
    intro i
    rw [findLast_str]
    exact (Text.position_eq_iff.1 i).trans Text.findLast?_eq_some_iff
  -- A text ends with another when that is a suffix of its characters.
  have ends : endsWith (.str s) sub = true ↔ ∃ i, i + sub.length = s.length ∧ OccursAt sub.toList s.toList i := by
    rw [← String.length_toList, ← String.length_toList, ← Text.isSuffix_iff_occursAt]
    exact List.isSuffixOf_iff_suffix
  constructor
  case find_eq => exact first
  case findLast_eq => exact last
  case absent =>
    rw [find_str, findLast_str]
    refine ⟨Text.position_eq_iff.2.trans Text.find?_eq_none_iff,
      Text.position_eq_iff.2.trans Text.findLast?_eq_none_iff, ?_⟩
    rw [← Text.find?_eq_none_iff, ← Option.isNone_iff_eq_none, ← Option.isSome_eq_false_iff]
    rfl
  case startsWith_iff =>
    -- The start is the least of all positions.
    have start : startsWith (.str s) sub = true ↔ OccursAt sub.toList s.toList 0 := by
      rw [Text.occursAt_zero_iff]
      exact List.isPrefixOf_iff_prefix
    refine start.trans (Iff.trans ?_ (first 0).symm)
    exact ⟨fun occurs => ⟨occurs, fun i _ => Nat.zero_le i⟩, fun least => least.1⟩
  case endsWith_iff => exact ends
  case findLast_of_endsWith =>
    intro i leaves suffix
    obtain ⟨j, same, occurs⟩ := ends.mp suffix
    obtain rfl : j = i := by omega
    refine (last j).mpr ⟨occurs, fun k other => ?_⟩
    -- A later occurrence would reach past the end.
    have bound := other.add_length_le
    rw [String.length_toList, String.length_toList] at bound
    omega
  case first_byte =>
    intro i found
    rw [utf8_toList, utf8_toList, utf8ByteSize_ofList]
    exact Text.isLeast_utf8 ((first i).mp found)
  case last_byte =>
    intro i found
    rw [utf8_toList, utf8_toList, utf8ByteSize_ofList]
    exact Text.isGreatest_utf8 ((last i).mp found)

/--
The positions that searches give are exact positions in characters, whichever way the text is passed.

The first and the last position are the least and the greatest at which the text occurs, and there is none exactly when the
containing text does not contain it. Starting and ending with a text are occurrences at the outermost positions. A search of
the bytes that counts the characters in front of what it finds gives the same positions.
-/
theorem search_exact (s sub : String) (receiver : Native) (text : receiver = ⟨.text, s⟩ ∨ receiver = ⟨.value, .str s⟩) :
    ExactPositions receiver.toValue s sub := by
  -- Both ways to pass the text have it as their value.
  obtain rfl | rfl := text <;> exact exactPositions s sub

/-- Past a character of two bytes and one of four, the last position counts two characters and six bytes. -/
theorem search_exact_wide :
    (Native.toValue ⟨.text, "é😀é"⟩).findLast "é" = 2 ∧
      IsGreatest {k | OccursAt "é".toUTF8.toList "é😀é".toUTF8.toList k} 6 := by
  -- The text ends with the character, which settles the last position; the one in bytes follows from it.
  have positions := search_exact "é😀é" "é" ⟨.text, "é😀é"⟩ (.inl rfl)
  have last := positions.findLast_of_endsWith 2 (by decide) (by decide)
  exact ⟨last, positions.last_byte 2 last⟩

end DynValue.Value
