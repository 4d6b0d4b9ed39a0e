import DynValue.Proofs.Text.Search

/-! Splitting, replacing and counting take the same occurrences: the leftmost ones that do not overlap. -/

namespace DynValue.Text

variable {sep text before after : List Char}

/-- A text is cut at the first occurrence of the separator. -/
theorem cut?_eq_map_find? (sep text : List Char) :
    cut? sep text = (find? sep text).map fun i => (text.take i, text.drop (i + sep.length)) := by
  -- Both go through the text in the same way.
  induction text with
  | nil =>
    simp only [cut?, find?]
    split
    · rename_i empty
      simp [empty]
    · rfl
  | cons c rest ih =>
    simp only [cut?, find?]
    split
    · simp
    · rw [ih, Option.map_map, Option.map_map]
      congr 1
      funext i
      simp [Nat.add_right_comm]

/-- Where a text is cut, the separator stands between its parts, and none stands in the part before it. -/
theorem cut?_eq_some (found : cut? sep text = some (before, after)) :
    before ++ sep ++ after = text ∧ (sep ≠ [] → ∀ i, ¬OccursAt sep before i) := by
  rw [cut?_eq_map_find?, Option.map_eq_some_iff] at found
  obtain ⟨position, first, parts⟩ := found
  obtain ⟨rfl, rfl⟩ := Prod.mk.inj parts
  obtain ⟨occurs, least⟩ := isLeast_of_find? first
  constructor
  · -- The text is what stands before, the separator and what stands behind.
    obtain ⟨front, back, rfl, rfl⟩ := occurs
    simp [List.drop_append, List.drop_eq_nil_of_le]
  · -- An occurrence in the part before would be an earlier one in the text.
    intro nonempty i inside
    have bound := inside.add_length_le
    have positive := List.length_pos_iff.mpr nonempty
    obtain ⟨front, back, rfl, same⟩ := inside
    have earlier : position ≤ front.length := by
      refine least ⟨front, back ++ text.drop position, rfl, ?_⟩
      rw [← List.append_assoc, same, List.take_append_drop]
    rw [List.length_take] at bound
    omega

/-- The scan of a text: its pieces, the text with the separators exchanged, and the number of separators. -/
inductive Scan (sep new : List Char) : List Char → List (List Char) → List Char → Nat → Prop where
  /-- A text that is not cut is its own only piece. -/
  | last {text : List Char} (missing : cut? sep text = none) : Scan sep new text [text] text 0
  /-- A text that is cut goes on after the separator. -/
  | step {text before after replaced : List Char} {pieces : List (List Char)} {count : Nat}
      (found : cut? sep text = some (before, after)) (rest : Scan sep new after pieces replaced count) :
      Scan sep new text (before :: pieces) (before ++ new ++ replaced) (count + 1)

/-- Splitting, replacing and counting are one scan. -/
theorem scan (nonempty : sep ≠ []) (new text : List Char) :
    Scan sep new text (splitOn sep nonempty text) (replaceOn sep nonempty new text) (countOn sep nonempty text) := by
  -- All three cut the text in the same way and go on with what follows the separator.
  fun_induction splitOn sep nonempty text with
  | case1 text missing =>
    rw [replaceOn, countOn]
    split <;> rename_i found
    · exact .last missing
    · simp [missing] at found
  | case2 text before after found _ ih =>
    rw [replaceOn, countOn]
    split <;> rename_i other
    · simp [found] at other
    · obtain ⟨rfl, rfl⟩ := Prod.mk.inj (Option.some.inj (found.symm.trans other))
      exact .step found ih

/-- A text in which the separator does not occur is its only piece. -/
theorem splitOn_of_missing (nonempty : sep ≠ []) (missing : find? sep text = none) :
    splitOn sep nonempty text = [text] := by
  -- The cut fails where the search does.
  have uncut : cut? sep text = none := by
    rw [cut?_eq_map_find?, missing]
    rfl
  rw [splitOn]
  split <;> rename_i found
  · rfl
  · simp [uncut] at found

/-- A text is the piece before the first separator and the pieces of what follows it. -/
theorem splitOn_of_found (nonempty : sep ≠ []) {i : Nat} (found : find? sep text = some i) :
    splitOn sep nonempty text = text.take i :: splitOn sep nonempty (text.drop (i + sep.length)) := by
  -- The cut gives the two sides of the occurrence that the search finds.
  have parts : cut? sep text = some (text.take i, text.drop (i + sep.length)) := by
    rw [cut?_eq_map_find?, found]
    rfl
  rw [splitOn]
  split <;> rename_i other
  · simp [parts] at other
  · obtain ⟨rfl, rfl⟩ := Prod.mk.inj (Option.some.inj (parts.symm.trans other))
    rfl

namespace Scan

variable {new replaced : List Char} {pieces : List (List Char)} {count : Nat}

/-- A scan gives at least one piece. -/
theorem pieces_ne_nil (scan : Scan sep new text pieces replaced count) : pieces ≠ [] := by
  -- A scan ends with a piece, and a step before it only adds another.
  cases scan <;> simp

/-- The pieces joined with the separator are the text. -/
theorem intercalate_pieces (scan : Scan sep new text pieces replaced count) : sep.intercalate pieces = text := by
  -- Each step of the scan puts back what the cut has taken apart.
  induction scan with
  | last missing => exact List.intercalate_singleton
  | step found rest ih => rw [List.intercalate_cons_of_ne_nil rest.pieces_ne_nil, ih, (cut?_eq_some found).1]

/-- The pieces joined with another text are the text with the separators exchanged for it. -/
theorem replaced_eq (scan : Scan sep new text pieces replaced count) : replaced = new.intercalate pieces := by
  -- Behind every piece but the last one stands the new text, which is what joining writes.
  induction scan with
  | last missing => exact List.intercalate_singleton.symm
  | step found rest ih => rw [List.intercalate_cons_of_ne_nil rest.pieces_ne_nil, ← ih]

/-- No piece contains the separator. -/
theorem not_occursAt_piece (nonempty : sep ≠ []) (scan : Scan sep new text pieces replaced count) :
    ∀ piece ∈ pieces, ∀ i, ¬OccursAt sep piece i := by
  induction scan with
  | last missing =>
    -- The last piece is not cut because the separator is not in it.
    rw [cut?_eq_map_find?, Option.map_eq_none_iff] at missing
    exact List.forall_mem_singleton.mpr (not_occursAt_of_find? missing)
  | step found rest ih =>
    -- A cut is made at the first occurrence, so that none stands before it.
    exact List.forall_mem_cons.mpr ⟨(cut?_eq_some found).2 nonempty, ih⟩

/-- There is one piece more than there are separators. -/
theorem count_add_one (scan : Scan sep new text pieces replaced count) : count + 1 = pieces.length := by
  -- Every step counts one separator and gives one piece; the last piece comes without a separator.
  induction scan with
  | last missing => rfl
  | step found rest ih => rw [List.length_cons, ih]

/-- Each separator that is exchanged changes the length by the difference. -/
theorem length_replaced (scan : Scan sep new text pieces replaced count) :
    (replaced.length : Int) = text.length + count * ((new.length : Int) - sep.length) := by
  induction scan with
  | last missing => simp
  | step found rest ih =>
    -- The text has the separator where the replaced text has the new one.
    rw [← (cut?_eq_some found).1]
    simp only [List.length_append, Int.natCast_add, ih, Int.add_mul, Int.natCast_one, Int.one_mul]
    omega

end Scan

/-- An empty text stands before every character and at the end. -/
theorem replace_nil (new text : List Char) :
    replace [] new text = new.intercalate ([] :: (text.map fun c => [c]) ++ [[]]) := by
  -- The induction is on the text, and what it keeps is that one more copy stands in front.
  have general : (text.flatMap fun c => new ++ [c]) ++ new =
      new ++ new.intercalate ((text.map fun c => [c]) ++ [[]]) := by
    induction text with
    | nil => simp
    | cons c rest ih =>
      rw [List.flatMap_cons, List.append_assoc, ih, List.map_cons, List.cons_append,
        List.intercalate_cons_of_ne_nil (by simp)]
      simp
  rw [List.cons_append, List.intercalate_cons_of_ne_nil (by simp), List.nil_append, ← general]
  simp [replace]

/-- The length after a replacement follows from the number of occurrences, of an empty text as well. -/
theorem length_replace (old new text : List Char) :
    ((replace old new text).length : Int) = text.length + count old text * ((new.length : Int) - old.length) := by
  by_cases empty : old = []
  · subst empty
    -- One copy goes with every character, and one more stands at the end.
    have copies : (text.flatMap fun c => new ++ [c]).length = text.length * new.length + text.length := by
      induction text with
      | nil => simp
      | cons c rest ih =>
        simp only [List.flatMap_cons, List.length_append, ih, List.length_cons, List.length_nil, Nat.add_mul]
        omega
    simp only [replace, count, dif_pos, List.length_append, copies, List.length_nil, Int.natCast_add, Int.natCast_mul,
      Int.natCast_one, Int.natCast_zero, Int.sub_zero, Int.add_mul, Int.one_mul]
    omega
  · rw [replace, count, dif_neg empty, dif_neg empty]
    exact (scan empty new text).length_replaced

end DynValue.Text

namespace DynValue.Value

/-- What splitting, replacing and counting make of a text and a separator that is not empty. -/
structure LeftmostScan (s sep : String) : Prop where
  /-- A text in which the separator is not found is its own only piece. -/
  absent : find (.str s) sep = -1 → split (.str s) sep = [s]
  /-- Otherwise the characters before the separator come first, and the rest is split in the same way. -/
  present : ∀ i : Nat, find (.str s) sep = i →
    split (.str s) sep = String.ofList (s.toList.take i) ::
      split (.str (String.ofList (s.toList.drop (i + sep.length)))) sep
  /-- The pieces joined with the separator give the text back. -/
  joined : sep.intercalate (split (.str s) sep) = s
  /-- No piece contains the separator. -/
  free : ∀ piece ∈ split (.str s) sep, contains (.str piece) sep = false
  /-- There is one piece more than there are occurrences. -/
  counted : count (.str s) sep + 1 = (split (.str s) sep).length
  /-- A replacement joins the pieces with the new text. -/
  replaced : ∀ new : String, replace (.str s) sep new = new.intercalate (split (.str s) sep)
  /-- A separator that is replaced by itself leaves the text as it is. -/
  unchanged : replace (.str s) sep sep = s

/-- Texts made of the characters of pieces are joined as the pieces are. -/
theorem intercalate_ofList (sep : String) (pieces : List (List Char)) :
    sep.intercalate (pieces.map String.ofList) = String.ofList (sep.toList.intercalate pieces) := by
  -- Compared by their characters, both sides write the same pieces with the same ones between.
  rw [← String.toList_inj, String.toList_intercalate, String.toList_ofList, List.map_map]
  congr 1
  simp [Function.comp_def]

/-- A text is split as its characters are, if there is a separator to split at. -/
theorem split_str {s sep : String} (nonempty : sep.toList ≠ []) :
    split (.str s) sep = (Text.splitOn sep.toList nonempty s.toList).map String.ofList := by
  -- The empty separator is told apart first and is excluded here.
  show (Text.split sep.toList s.toList).map String.ofList = _
  rw [Text.split, dif_neg nonempty]

/-- Splitting, replacing and counting follow one scan from the left. -/
theorem leftmostScan {s sep : String} (proper : sep ≠ "") : LeftmostScan s sep := by
  have nonempty : sep.toList ≠ [] := by simpa using proper
  have pieces := split_str (s := s) nonempty
  -- One scan of the characters gives the pieces, the replaced text and the count together.
  have scan (new : List Char) := Text.scan nonempty new s.toList
  have replaced (new : String) : replace (.str s) sep new = new.intercalate (split (.str s) sep) := by
    show String.ofList (Text.replace sep.toList new.toList s.toList) = _
    rw [Text.replace, dif_neg nonempty, (scan new.toList).replaced_eq, pieces, intercalate_ofList]
  have joined : sep.intercalate (split (.str s) sep) = s := by
    rw [pieces, intercalate_ofList, (scan []).intercalate_pieces, String.ofList_toList]
  constructor
  case absent =>
    -- Not to be found means to be missing, and then the text is not cut.
    intro absent
    have missing := Text.position_eq_iff.2.mp (find_str s sep ▸ absent)
    rw [pieces, Text.splitOn_of_missing nonempty missing, List.map_singleton, String.ofList_toList]
  case present =>
    -- The position found is where the first cut is made.
    intro i found
    have position := (Text.position_eq_iff.1 i).mp (find_str s sep ▸ found)
    rw [pieces, Text.splitOn_of_found nonempty position, List.map_cons, split_str nonempty, String.toList_ofList,
      String.length_toList]
  case joined => exact joined
  case free =>
    intro piece member
    rw [pieces, List.mem_map] at member
    obtain ⟨characters, member, rfl⟩ := member
    -- That a text is not contained means that it occurs at no position.
    rw [(exactPositions _ sep).absent.2.2, String.toList_ofList]
    exact (scan []).not_occursAt_piece nonempty characters member
  case counted =>
    -- Counting goes along with the pieces and falls one short of them.
    show Text.count sep.toList s.toList + 1 = _
    rw [Text.count, dif_neg nonempty, (scan []).count_add_one, pieces, List.length_map]
  case replaced => exact replaced
  case unchanged => exact (replaced sep).trans joined

/--
Splitting, replacing and counting are one scan for the leftmost occurrences that do not overlap.

A text is split at the first position that is found, and what follows the occurrence is split in the same way. Joining the
pieces gives the text back, or the text with the occurrences replaced, and counting gives one less than there are pieces. An
empty text occurs before every character and at the end. Each occurrence changes the length by the difference of the texts.
-/
theorem scan_leftmost :
    (∀ s sep : String, sep ≠ "" → LeftmostScan s sep) ∧
      (∀ s new : String, replace (.str s) "" new = new.intercalate ("" :: s.toList.map String.singleton ++ [""]) ∧
        count (.str s) "" = s.length + 1) ∧
      ∀ s old new : String, ((replace (.str s) old new).length : Int) =
        s.length + count (.str s) old * ((new.length : Int) - old.length) := by
  refine ⟨fun s sep proper => leftmostScan proper, ?_, ?_⟩
  · intro s new
    refine ⟨?_, ?_⟩
    · -- Between its characters an empty text splits a text into pieces of one character.
      have pieces : "" :: s.toList.map String.singleton ++ [""] =
          ([] :: (s.toList.map fun c => [c]) ++ [[]]).map String.ofList := by
        simp [Function.comp_def]
      rw [pieces, intercalate_ofList, ← Text.replace_nil]
      rfl
    · rw [← String.length_toList]
      rfl
  · intro s old new
    -- Every occurrence exchanges the length of the old text for that of the new one.
    have lengths := Text.length_replace old.toList new.toList s.toList
    simp only [String.length_toList] at lengths
    have result : (replace (.str s) old new).length = (Text.replace old.toList new.toList s.toList).length :=
      String.length_ofList
    rw [result]
    exact lengths

/-- Of the two occurrences that overlap only the first one counts. -/
theorem scan_leftmost_overlapping :
    split (.str "aaa") "aa" = ["", "a"] ∧ count (.str "aaa") "aa" = 1 ∧ replace (.str "aaa") "aa" "b" = "ba" := by
  -- The first occurrence uses up two characters, and in the one that is left there is no second.
  have laws := scan_leftmost.1 "aaa" "aa" (by decide)
  have pieces : split (.str "aaa") "aa" = ["", "a"] := by
    have rest : String.ofList ("aaa".toList.drop (0 + "aa".length)) = "a" := by decide
    rw [laws.present 0 (by decide), rest, (scan_leftmost.1 "a" "aa" (by decide)).absent (by decide)]
    rfl
  refine ⟨pieces, ?_, ?_⟩
  · have counted := laws.counted
    rw [pieces] at counted
    exact Nat.succ.inj counted
  · rw [laws.replaced, pieces]
    rfl

end DynValue.Value
