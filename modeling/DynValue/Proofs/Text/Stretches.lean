import DynValue.Proofs.Text.Scan
import DynValue.Proofs.Text.Trim
import Mathlib.Data.List.Chain
import Mathlib.Data.List.DropRight

/-!
Every text is cut in one way into stretches of white space and words, and all methods on words keep to that cut.

A method goes through the text stretch by stretch: within a stretch every character is of one class, and the next stretch
starts with a character of the other one.
-/

namespace DynValue.Text

/-- A nonempty text in which all characters are white space or none is. -/
@[ext] structure Stretch where
  /-- Whether the characters are white space. -/
  blank : Bool
  /-- The characters. -/
  chars : List Char
  /-- There is at least one. -/
  nonempty : chars ≠ []
  /-- All are of one class. -/
  uniform : ∀ c ∈ chars, isBlank c = blank

/--
The stretches into which a text is cut.

No stretch could be longer, since its neighbours are of the other class.
-/
structure IsCut (text : List Char) (stretches : List Stretch) : Prop where
  /-- Together the stretches are the text. -/
  whole : stretches.flatMap Stretch.chars = text
  /-- White space and words alternate. -/
  alternating : stretches.IsChain fun a b => a.blank ≠ b.blank

namespace Stretch

/-- The stretch with another character of its class in front. -/
def cons (c : Char) (stretch : Stretch) (same : isBlank c = stretch.blank) : Stretch where
  blank := stretch.blank
  chars := c :: stretch.chars
  nonempty := List.cons_ne_nil c _
  uniform := List.forall_mem_cons.mpr ⟨same, stretch.uniform⟩

/-- The stretch of one character. -/
def single (c : Char) : Stretch where
  blank := isBlank c
  chars := [c]
  nonempty := List.cons_ne_nil c []
  uniform := by simp

/-- The stretch read backward. -/
def reverse (stretch : Stretch) : Stretch where
  blank := stretch.blank
  chars := stretch.chars.reverse
  nonempty := by simpa using stretch.nonempty
  uniform := fun c member => stretch.uniform c (List.mem_reverse.mp member)

/-- Read backward twice, a stretch is the same again. -/
theorem reverse_reverse (stretch : Stretch) : stretch.reverse.reverse = stretch :=
  Stretch.ext rfl (List.reverse_reverse stretch.chars)

end Stretch

/-! ## The one way to cut a text -/

namespace IsCut

variable {text : List Char} {stretch : Stretch} {stretches : List Stretch}

/-- Without its first stretch a cut is the cut of the rest of the text. -/
theorem tail (cut : IsCut text (stretch :: stretches)) : IsCut (stretches.flatMap Stretch.chars) stretches :=
  ⟨rfl, cut.alternating.tail⟩

/-- Behind a stretch the text ends or goes on with a character of the other class. -/
theorem head_rest (cut : IsCut text (stretch :: stretches)) :
    ∀ c ∈ (stretches.flatMap Stretch.chars).head?, isBlank c = !stretch.blank := by
  cases stretches with
  | nil => simp
  | cons next others =>
    intro c first
    have differs : stretch.blank ≠ next.blank := (List.isChain_cons_cons.mp cut.alternating).1
    -- The character is one of the next stretch, which is not empty.
    have member : c ∈ next.chars := by
      rw [List.flatMap_cons, List.head?_append_of_ne_nil _ next.nonempty] at first
      exact List.mem_of_mem_head? first
    rw [next.uniform c member]
    exact Bool.eq_not.mpr differs.symm

/-- Every text can be cut. -/
theorem exists_cut (text : List Char) : ∃ stretches, IsCut text stretches := by
  induction text with
  | nil => exact ⟨[], rfl, .nil⟩
  | cons c rest ih =>
    obtain ⟨stretches, whole, alternating⟩ := ih
    cases stretches with
    | nil => exact ⟨[.single c], by rw [← whole]; rfl, .singleton _⟩
    | cons next others =>
      -- A character joins the stretch behind it if it is of its class, and starts one of its own otherwise.
      by_cases same : isBlank c = next.blank
      · refine ⟨next.cons c same :: others, by rw [← whole]; rfl, ?_⟩
        rw [List.isChain_cons] at alternating ⊢
        exact alternating
      · refine ⟨.single c :: next :: others, by rw [← whole]; rfl, ?_⟩
        rw [List.isChain_cons_cons]
        exact ⟨same, alternating⟩

/-- The first stretch reaches as far as characters are of its class. -/
theorem takeWhile_eq (cut : IsCut text (stretch :: stretches)) :
    text.takeWhile (isBlank · == stretch.blank) = stretch.chars := by
  -- The next stretch starts with a character of the other class, and there the class ends.
  have stops : (stretches.flatMap Stretch.chars).takeWhile (isBlank · == stretch.blank) = [] := by
    have first := cut.head_rest
    revert first
    cases stretches.flatMap Stretch.chars with
    | nil => simp
    | cons c rest => simp_all
  rw [← cut.whole, List.flatMap_cons, List.takeWhile_append_of_pos, stops, List.append_nil]
  intro c member
  simpa using stretch.uniform c member

/-- The first character of a text is of the class of the first stretch. -/
theorem head?_eq (cut : IsCut text (stretch :: stretches)) : text.head?.map isBlank = some stretch.blank := by
  -- A stretch has a first character, which is the first one of the text.
  obtain ⟨c, rest, chars⟩ := List.exists_cons_of_ne_nil stretch.nonempty
  have first : isBlank c = stretch.blank := stretch.uniform c (by simp [chars])
  simp [← cut.whole, chars, first]

/-- A text is cut in no other way. -/
theorem unique (first : IsCut text stretches) {others : List Stretch} (second : IsCut text others) :
    stretches = others := by
  -- The first character settles the class of the first stretch, which settles how far it goes.
  induction stretches generalizing text others with
  | nil =>
    cases others with
    | nil => rfl
    | cons b bs =>
      have same := second.whole.trans first.whole.symm
      simp [b.nonempty] at same
  | cons a as ih =>
    cases others with
    | nil =>
      have same := first.whole.trans second.whole.symm
      simp [a.nonempty] at same
    | cons b bs =>
      have blank : a.blank = b.blank := Option.some.inj (first.head?_eq.symm.trans second.head?_eq)
      have chars : a.chars = b.chars := by rw [← first.takeWhile_eq, ← second.takeWhile_eq, blank]
      obtain rfl : a = b := Stretch.ext blank chars
      -- Behind equal first stretches the rest of the text is the same.
      have rest : as.flatMap Stretch.chars = bs.flatMap Stretch.chars := by
        have same := first.whole.trans second.whole.symm
        simpa using same
      rw [ih first.tail (rest ▸ second.tail)]

end IsCut

/-! ## Words -/

variable {blanks word rest : List Char}

/-- White space in front does not change the words. -/
theorem words_blanks (blank : ∀ c ∈ blanks, isBlank c = true) (rest : List Char) :
    words (blanks ++ rest) = words rest := by
  -- No word has begun, so that white space ends none.
  induction blanks with
  | nil => rfl
  | cons c blanks ih =>
    obtain ⟨first, others⟩ := List.forall_mem_cons.mp blank
    rw [← ih others]
    simp [words, wordsAfter, first]

/-- Characters that are no white space go on with the word that has begun. -/
theorem wordsAfter_solid (solid : ∀ c ∈ word, isBlank c = false) (current rest : List Char) :
    wordsAfter current (word ++ rest) = wordsAfter (word.reverse ++ current) rest := by
  -- The word that has begun is kept backward, so that each character comes in front of it.
  induction word generalizing current with
  | nil => rfl
  | cons c word ih =>
    obtain ⟨first, others⟩ := List.forall_mem_cons.mp solid
    rw [List.cons_append, wordsAfter, first, List.reverse_cons, List.append_assoc]
    exact ih others (c :: current)

/-- A word that has begun ends with the text or with white space. -/
theorem wordsAfter_ended {current : List Char} (begun : current ≠ []) (ended : ∀ c ∈ rest.head?, isBlank c = true) :
    wordsAfter current rest = current.reverse :: words rest := by
  -- At the end of the text and at white space the word is given out in the right order.
  cases rest with
  | nil => simp [words, wordsAfter, begun]
  | cons c rest => simp [words, wordsAfter, begun, ended c rfl]

/-- A word in front of white space is the first of the words. -/
theorem words_word (nonempty : word ≠ []) (solid : ∀ c ∈ word, isBlank c = false)
    (ended : ∀ c ∈ rest.head?, isBlank c = true) : words (word ++ rest) = word :: words rest := by
  -- The word is gathered in reverse, and turned back where it ends.
  have begun : word.reverse ≠ [] := by simpa using nonempty
  rw [words, wordsAfter_solid solid, List.append_nil, wordsAfter_ended begun ended, List.reverse_reverse]

/-! ## Titles -/

/-- White space in front stays as it is when a title is made. -/
theorem title_blanks (blank : ∀ c ∈ blanks, isBlank c = true) (rest : List Char) :
    title (blanks ++ rest) = blanks ++ title rest := by
  -- White space is written unchanged, and behind it a word may still begin.
  induction blanks with
  | nil => rfl
  | cons c blanks ih =>
    obtain ⟨first, others⟩ := List.forall_mem_cons.mp blank
    rw [List.cons_append, List.cons_append, ← ih others]
    simp [title, titleFrom, first]

/-- Inside a word every character becomes a lower-case one. -/
theorem titleFrom_solid (solid : ∀ c ∈ word, isBlank c = false) (rest : List Char) :
    titleFrom false (word ++ rest) = word.flatMap lowerChar ++ titleFrom false rest := by
  -- The mark that a word has begun stays while no white space comes.
  induction word with
  | nil => rfl
  | cons c word ih =>
    obtain ⟨first, others⟩ := List.forall_mem_cons.mp solid
    simp [titleFrom, first, ih others]

/-- White space ends a word, and at the end of the text none starts. -/
theorem titleFrom_ended (ended : ∀ c ∈ rest.head?, isBlank c = true) : titleFrom false rest = title rest := by
  -- White space resets the mark that a word has begun, and the empty text does not look at it.
  cases rest with
  | nil => rfl
  | cons c rest => simp [title, titleFrom, ended c rfl]

/-- A word in front of white space is capitalized by itself. -/
theorem title_word (nonempty : word ≠ []) (solid : ∀ c ∈ word, isBlank c = false)
    (ended : ∀ c ∈ rest.head?, isBlank c = true) : title (word ++ rest) = capitalize word ++ title rest := by
  -- The first character gets its upper case, and from then on the word goes on until white space.
  obtain ⟨c, others, rfl⟩ := List.exists_cons_of_ne_nil nonempty
  obtain ⟨first, solid⟩ := List.forall_mem_cons.mp solid
  rw [List.cons_append, title, titleFrom, first, titleFrom_solid solid, titleFrom_ended ended, capitalize]
  simp

/-! ## Methods that go through a text stretch by stretch -/

namespace IsCut

variable {text : List Char} {stretches : List Stretch}

/-- What is done to white space and to words, one after the other, is done to the stretches of a text. -/
theorem eq_flatMap {α : Type} (f onBlanks onWord : List Char → List α) (empty : f [] = [])
    (stepBlanks : ∀ {blanks : List Char}, (∀ c ∈ blanks, isBlank c = true) → ∀ rest : List Char,
      f (blanks ++ rest) = onBlanks blanks ++ f rest)
    (stepWord : ∀ {word rest : List Char}, word ≠ [] → (∀ c ∈ word, isBlank c = false) →
      (∀ c ∈ rest.head?, isBlank c = true) → f (word ++ rest) = onWord word ++ f rest) (cut : IsCut text stretches) :
    f text = stretches.flatMap fun stretch => if stretch.blank then onBlanks stretch.chars else onWord stretch.chars := by
  -- The cut is gone through stretch by stretch, and each stretch is a step of the function.
  induction stretches generalizing text with
  | nil => rw [← cut.whole, List.flatMap_nil, List.flatMap_nil, empty]
  | cons stretch rest ih =>
    rw [← cut.whole, List.flatMap_cons, List.flatMap_cons, ← ih cut.tail]
    have uniform := stretch.uniform
    have ended := cut.head_rest
    cases kind : stretch.blank with
    | true =>
      rw [kind] at uniform
      exact stepBlanks uniform _
    | false =>
      -- What follows a word is the end of the text or white space.
      rw [kind] at uniform ended
      exact stepWord stretch.nonempty uniform ended

/-- What leaves white space out is done to the words only. -/
theorem flatMap_solid {α : Type} (onWord : List Char → List α) (stretches : List Stretch) :
    (stretches.flatMap fun stretch => if stretch.blank then [] else onWord stretch.chars) =
      (stretches.filter (!·.blank)).flatMap fun stretch => onWord stretch.chars := by
  -- A stretch of white space gives nothing, and leaving it out gives nothing as well.
  induction stretches with
  | nil => rfl
  | cons stretch rest ih => cases kind : stretch.blank <;> simp [kind, ih]

/-- The words of a text are its stretches without white space. -/
theorem words_eq (cut : IsCut text stretches) : words text = (stretches.filter (!·.blank)).map Stretch.chars := by
  -- Going through the cut, white space gives no word and every other stretch gives one.
  rw [cut.eq_flatMap words (fun _ => []) (fun word => [word]) rfl words_blanks words_word, List.map_eq_flatMap]
  exact flatMap_solid (fun word => [word]) stretches

/-- A title has its words capitalized and its white space as it was. -/
theorem title_eq (cut : IsCut text stretches) :
    title text = stretches.flatMap fun stretch => if stretch.blank then stretch.chars else capitalize stretch.chars :=
  cut.eq_flatMap title id capitalize rfl title_blanks title_word

end IsCut

/-- Words are not empty and have no white space in them. -/
theorem solid_of_mem_words {text piece : List Char} (member : piece ∈ words text) :
    piece ≠ [] ∧ ∀ c ∈ piece, isBlank c = false := by
  -- A word is a stretch, which is not empty and of one class.
  obtain ⟨stretches, cut⟩ := IsCut.exists_cut text
  rw [cut.words_eq] at member
  obtain ⟨stretch, kept, rfl⟩ := List.mem_map.mp member
  have solid : stretch.blank = false := by simpa using (List.mem_filter.mp kept).2
  exact ⟨stretch.nonempty, fun c inside => (stretch.uniform c inside).trans solid⟩

/-- The words of a text, one behind the other, are what is left of it without white space. -/
theorem flatten_words (text : List Char) : (words text).flatten = text.filter (!isBlank ·) := by
  obtain ⟨stretches, cut⟩ := IsCut.exists_cut text
  -- Leaving white space out goes through the stretches as well, and keeps all of a word.
  have kept : text.filter (!isBlank ·) = stretches.flatMap fun stretch => if stretch.blank then [] else stretch.chars := by
    refine cut.eq_flatMap (List.filter (!isBlank ·)) (fun _ => []) id rfl ?_ ?_
    · intro blanks blank rest
      rw [List.filter_append, List.filter_eq_nil_iff.mpr (by simpa using blank)]
    · intro word rest _ solid _
      rw [List.filter_append, List.filter_eq_self.mpr (by simpa using solid), id]
  rw [kept, cut.words_eq, ← List.flatMap_def]
  exact (IsCut.flatMap_solid id stretches).symm

/-- Words that are joined by single spaces are split into the same words. -/
theorem words_intercalate {pieces : List (List Char)}
    (solid : ∀ piece ∈ pieces, piece ≠ [] ∧ ∀ c ∈ piece, isBlank c = false) :
    words ([' '].intercalate pieces) = pieces := by
  -- The last piece ends with the text, and every other one with a space.
  induction pieces with
  | nil => rfl
  | cons piece others ih =>
    obtain ⟨⟨nonempty, first⟩, solid⟩ := List.forall_mem_cons.mp solid
    cases others with
    | nil =>
      have alone : words (piece ++ []) = piece :: words [] := words_word nonempty first (by simp)
      rw [List.append_nil] at alone
      rw [List.intercalate_singleton, alone]
      rfl
    | cons next others =>
      -- The space ends the piece in front of it and belongs to no other.
      have space : ∀ c ∈ [' '], isBlank c = true := by simp; rfl
      have ended : ∀ c ∈ ([' '] ++ [' '].intercalate (next :: others)).head?, isBlank c = true := by simp; rfl
      rw [List.intercalate_cons_cons, List.append_assoc, words_word nonempty first ended, words_blanks space, ih solid]

/-! ## White space at the ends -/

/-- The stretches without the first one, where that is white space. -/
def withoutFirstBlank : List Stretch → List Stretch
  | [] => []
  | stretch :: rest => if stretch.blank then rest else stretch :: rest

/-- The stretches without the last one, where that is white space. -/
def withoutLastBlank (stretches : List Stretch) : List Stretch := (withoutFirstBlank stretches.reverse).reverse

/-- Reading stretches backward keeps the class of the first one. -/
theorem withoutFirstBlank_map (stretches : List Stretch) :
    withoutFirstBlank (stretches.map Stretch.reverse) = (withoutFirstBlank stretches).map Stretch.reverse := by
  -- Only the class decides whether a stretch is taken off.
  cases stretches with
  | nil => rfl
  | cons stretch rest =>
    show (if stretch.blank then _ else _) = List.map _ (if stretch.blank then _ else _)
    split <;> rfl

/-- Of several stretches, the first is not the last. -/
theorem withoutLastBlank_cons (stretch : Stretch) {rest : List Stretch} (more : rest ≠ []) :
    withoutLastBlank (stretch :: rest) = stretch :: withoutLastBlank rest := by
  -- Read backward, the list starts with the last of the others.
  obtain ⟨last, others, reversed⟩ := List.exists_cons_of_ne_nil (List.reverse_ne_nil_iff.mpr more)
  rw [withoutLastBlank, withoutLastBlank, List.reverse_cons, reversed, List.cons_append, withoutFirstBlank,
    withoutFirstBlank]
  split <;> simp

/-- White space at the two ends may be taken off in either order. -/
theorem withoutBlanks_comm (stretches : List Stretch) :
    withoutFirstBlank (withoutLastBlank stretches) = withoutLastBlank (withoutFirstBlank stretches) := by
  cases stretches with
  | nil => rfl
  | cons stretch rest =>
    by_cases more : rest = []
    · -- The only stretch is the first and the last one.
      subst more
      cases kind : stretch.blank <;> simp [withoutLastBlank, withoutFirstBlank, kind]
    · -- What is done to the first stretch leaves the last one alone.
      rw [withoutLastBlank_cons stretch more, withoutFirstBlank, withoutFirstBlank]
      split
      · rfl
      · rw [withoutLastBlank_cons stretch more]

/-- Taking white space off in front takes no word. -/
theorem filter_withoutFirstBlank (stretches : List Stretch) :
    (withoutFirstBlank stretches).filter (!·.blank) = stretches.filter (!·.blank) := by
  -- If the first stretch comes off, it is one that is left out anyway.
  cases stretches with
  | nil => rfl
  | cons stretch rest => cases kind : stretch.blank <;> simp [withoutFirstBlank, kind]

/-- Taking white space off at the end takes no word. -/
theorem filter_withoutLastBlank (stretches : List Stretch) :
    (withoutLastBlank stretches).filter (!·.blank) = stretches.filter (!·.blank) := by
  -- Read backward, the last stretch is the first one.
  rw [withoutLastBlank, List.filter_reverse, filter_withoutFirstBlank, List.filter_reverse, List.reverse_reverse]

namespace IsCut

variable {text : List Char} {stretches : List Stretch}

/-- Read backward, a text is cut into the same stretches read backward. -/
theorem reverse (cut : IsCut text stretches) : IsCut text.reverse (stretches.map Stretch.reverse).reverse where
  -- The stretches come in the opposite order, and each of them is read backward.
  whole := by
    rw [← cut.whole, List.reverse_flatMap, ← List.map_reverse, List.flatMap_map]
    rfl
  -- That neighbours differ does not depend on the direction.
  alternating := by
    rw [List.isChain_reverse, List.isChain_map]
    exact cut.alternating.imp fun _ _ differs => differs.symm

/-- White space comes off in front with the first stretch. -/
theorem trimStart (cut : IsCut text stretches) : IsCut (trimStart text) (withoutFirstBlank stretches) := by
  cases stretches with
  | nil =>
    rw [← cut.whole]
    exact ⟨rfl, .nil⟩
  | cons stretch rest =>
    have uniform := stretch.uniform
    have next := cut.head_rest
    have first := cut.head?_eq
    rw [withoutFirstBlank]
    split
    · -- Behind the white space there is the end of the text or a word.
      rename_i blank
      rw [blank] at uniform next
      rw [← cut.whole, List.flatMap_cons, trimStart_blanks uniform, trimStart_of_solid next]
      exact cut.tail
    · -- The text starts with a word, and nothing comes off.
      rename_i solid
      have head : ∀ c ∈ text.head?, isBlank c = false := by
        intro c isHead
        rw [isHead, Option.map_some, Option.some.injEq] at first
        rw [first]
        exact Bool.eq_false_iff.mpr solid
      rw [trimStart_of_solid head]
      exact cut

/-- White space comes off at the end with the last stretch, as it does in front when the text is read backward. -/
theorem trimEnd (cut : IsCut text stretches) : IsCut (trimEnd text) (withoutLastBlank stretches) := by
  have back := cut.reverse.trimStart.reverse
  simp only [← List.map_reverse, withoutFirstBlank_map, List.map_map] at back
  -- A stretch turned around twice is the stretch.
  have twice : Stretch.reverse ∘ Stretch.reverse = id := funext Stretch.reverse_reverse
  rw [twice, List.map_id] at back
  exact back

/-- What is left between white space at both ends are the stretches between the first and the last one. -/
theorem trim (cut : IsCut text stretches) : IsCut (trim text) (withoutLastBlank (withoutFirstBlank stretches)) :=
  cut.trimStart.trimEnd

end IsCut

/-- It does not matter at which end white space comes off first. -/
theorem trimStart_trimEnd (text : List Char) : trimStart (trimEnd text) = trim text := by
  -- On the cut the two removals are at different ends, or at a single stretch.
  obtain ⟨stretches, cut⟩ := IsCut.exists_cut text
  rw [← cut.trimEnd.trimStart.whole, withoutBlanks_comm, cut.trim.whole]

/-- White space comes off in front at once. -/
theorem trimStart_trimStart (text : List Char) : trimStart (trimStart text) = trimStart text :=
  List.dropWhile_idempotent isBlank text

/-- White space comes off at the end at once. -/
theorem trimEnd_trimEnd (text : List Char) : trimEnd (trimEnd text) = trimEnd text := by
  -- Read backward the end is in front, where nothing is left after the first time.
  rw [trimEnd, trimEnd, List.reverse_reverse, List.dropWhile_idempotent]

/-- White space comes off both ends at once. -/
theorem trim_trim (text : List Char) : trim (trim text) = trim text :=
  -- The two ends change places until each is trimmed twice in a row.
  calc trim (trim text) = trimEnd (trimStart (trimStart (trimEnd text))) := by rw [trim, trimStart_trimEnd]
    _ = trimEnd (trimStart (trimEnd text)) := by rw [trimStart_trimStart]
    _ = trimEnd (trimEnd (trimStart text)) := by rw [trimStart_trimEnd, trim]
    _ = trim text := by rw [trimEnd_trimEnd, trim]

/-- Trimming does not change the words. -/
theorem words_trim (text : List Char) : words (trim text) = words text := by
  -- The words are the stretches that are no white space, and none of these comes off.
  obtain ⟨stretches, cut⟩ := IsCut.exists_cut text
  rw [cut.trim.words_eq, filter_withoutLastBlank, filter_withoutFirstBlank, cut.words_eq]

/-- The text of a stretch. -/
def Stretch.text (stretch : Stretch) : String := String.ofList stretch.chars

end DynValue.Text

/-! ## The methods of values -/

namespace DynValue.Value

open Text

/-- The methods on words see a text as the stretches it is cut into. -/
structure FollowsCut (text : String) (stretches : List Stretch) : Prop where
  /-- The words are the stretches without white space, in their order. -/
  words : (Value.str text).words = (stretches.filter (!·.blank)).map Stretch.text
  /-- No word is empty or has white space in it. -/
  solid : ∀ word ∈ (Value.str text).words, word ≠ "" ∧ ∀ c ∈ word.toList, isBlank c = false
  /-- One behind the other, the words are the text without its white space. -/
  joined : String.join (Value.str text).words = String.ofList (text.toList.filter (!isBlank ·))
  /-- Joined by single spaces, the words are the words again. -/
  rejoined : (Value.str (" ".intercalate (Value.str text).words)).words = (Value.str text).words
  /-- Stripping takes off the first and the last stretch, where these are white space. -/
  strip : (Value.str text).strip = String.join ((withoutLastBlank (withoutFirstBlank stretches)).map Stretch.text)
  /-- It can be done at the end first. -/
  stripEndFirst : (Value.str text).strip = (Value.str (Value.str text).stripEnd).stripStart
  /-- It can be done in front first. -/
  stripStartFirst : (Value.str text).strip = (Value.str (Value.str text).stripStart).stripEnd
  /-- Stripping again changes nothing. -/
  stripAgain : (Value.str (Value.str text).strip).strip = (Value.str text).strip
  /-- Stripping keeps the words. -/
  stripWords : (Value.str (Value.str text).strip).words = (Value.str text).words
  /-- A title has every word capitalized by itself and all white space as it was. -/
  title : (Value.str text).title = String.join (stretches.map fun stretch =>
    if stretch.blank then stretch.text else (Value.str stretch.text).capitalize)

/-- The words of a text are those of its characters. -/
theorem words_ofList (chars : List Char) :
    (Value.str (String.ofList chars)).words = (Text.words chars).map String.ofList := by
  -- Splitting looks at the characters alone.
  show (Text.words (String.ofList chars).toList).map String.ofList = _
  rw [String.toList_ofList]

/-- Texts one behind the other have the characters of all of them. -/
theorem join_ofList {α : Type} (chars : α → List Char) (items : List α) :
    String.join (items.map fun item => String.ofList (chars item)) = String.ofList (items.flatMap chars) := by
  -- Compared by their characters, both sides write the items in order.
  rw [← String.toList_inj, String.toList_join, String.toList_ofList, List.flatMap_map]
  simp only [String.toList_ofList]

/-- All methods on words follow the cut of a text. -/
theorem followsCut {text : String} {stretches : List Stretch} (cut : IsCut text.toList stretches) :
    FollowsCut text stretches := by
  have pieces : (Value.str text).words = (Text.words text.toList).map String.ofList := rfl
  have stripped : (Value.str text).strip = String.ofList (Text.trim text.toList) := rfl
  refine {
    words := ?words
    solid := ?solid
    joined := ?joined
    rejoined := ?rejoined
    strip := ?strip
    stripEndFirst := ?stripEndFirst
    stripStartFirst := ?stripStartFirst
    stripAgain := ?stripAgain
    stripWords := ?stripWords
    title := ?title }
  case words =>
    rw [pieces, cut.words_eq, List.map_map]
    rfl
  -- Every word is made of the characters of a stretch that is no white space.
  case solid =>
    intro word member
    rw [pieces] at member
    obtain ⟨chars, found, rfl⟩ := List.mem_map.mp member
    obtain ⟨nonempty, solid⟩ := solid_of_mem_words found
    rw [String.toList_ofList]
    exact ⟨by simpa using nonempty, solid⟩
  case joined =>
    rw [pieces, ← flatten_words, ← List.flatMap_id]
    exact join_ofList id (Text.words text.toList)
  case rejoined =>
    -- The pieces are words, which is all that joining and splitting them asks for.
    rw [pieces, intercalate_ofList, words_ofList]
    exact congrArg (List.map String.ofList) (words_intercalate fun piece member => solid_of_mem_words member)
  -- Stripping leaves the stretches between the two ends, and these are written in order.
  case strip =>
    rw [stripped, ← cut.trim.whole]
    exact (join_ofList Stretch.chars _).symm
  -- The order of the two ends does not matter, and the strip itself starts in front.
  case stripEndFirst =>
    show _ = mapText trimStart (.str (String.ofList (trimEnd text.toList)))
    rw [stripped, mapText_ofList, trimStart_trimEnd]
  case stripStartFirst =>
    show _ = mapText trimEnd (.str (String.ofList (trimStart text.toList)))
    rw [stripped, mapText_ofList, Text.trim]
  case stripAgain =>
    rw [stripped, Value.strip, mapText_ofList, trim_trim]
  case stripWords =>
    rw [stripped, words_ofList, words_trim, pieces]
  case title =>
    -- Both sides write one stretch after the other.
    have written : (Value.str text).title = String.ofList (Text.title text.toList) := rfl
    rw [written, cut.title_eq, ← join_ofList]
    refine congrArg String.join (List.map_congr_left fun stretch _ => ?_)
    split
    · rfl
    · exact (mapText_ofList Text.capitalize stretch.chars).symm

/--
The methods on words agree on how a text is cut into white space and words.

There is one way to cut it into stretches that alternate. The words are the stretches without white space, stripping takes
white space off at the ends, and a title changes the words and nothing else.
-/
theorem word_stretches (text : String) :
    ∃ stretches, IsCut text.toList stretches ∧ (∀ others, IsCut text.toList others → others = stretches) ∧
      FollowsCut text stretches := by
  -- Cutting at every change of class gives one cut, and all others are equal to it.
  obtain ⟨stretches, cut⟩ := IsCut.exists_cut text.toList
  exact ⟨stretches, cut, fun others other => other.unique cut, followsCut cut⟩

/-- One character may become two, and the word goes on behind both. -/
example : (Value.str "\tßA  b ").title = "\tSSa  B " ∧ (Value.str "\tßA  b ").words = ["ßA", "b"] := by decide +kernel

end DynValue.Value
