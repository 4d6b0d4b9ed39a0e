import DynValue.Proofs.Decimal.Respelled
import DynValue.Proofs.Text.Quoted
import DynValue.Proofs.Value.Equality
import DynValue.Proofs.Value.Parts
import DynValue.Value.Render

/-!
The literal form of a value without NaNs determines the value.

The first character of a literal tells its kind, except that some scalars start alike. A scalar without quotes ends where a
delimiter follows, a text at its quote and a container at its bracket, so that what follows a literal cannot be taken for
a part of it.
-/

namespace DynValue.Value

/-- Whether a value is a NaN. -/
def isNan : Value → Bool
  | .float number => number.isNan
  | _ => false

/-- No part of the value is a NaN. -/
def NanFree (value : Value) : Prop := ∀ part ∈ value.parts, part.isNan = false

/-- The parts of a value can be tested for NaNs. -/
instance (value : Value) : Decidable value.NanFree :=
  inferInstanceAs (Decidable (∀ part ∈ value.parts, part.isNan = false))

/-- A value without NaNs is none itself. -/
theorem NanFree.number {value : Value} (free : value.NanFree) : value.isNan = false :=
  (forall_inside.mp free).1

/-- Nothing directly inside of a value without NaNs has one. -/
theorem NanFree.child {value : Value} (free : value.NanFree) : ∀ child ∈ value.children true, child.NanFree :=
  (forall_inside.mp free).2

/-- The keys and the values of a dict without NaNs have none. -/
theorem NanFree.entry {entries : List (Value × Value)} (free : (Value.dict entries).NanFree) :
    ∀ entry ∈ entries, entry.1.NanFree ∧ entry.2.NanFree :=
  fun entry member => ((forall_children_dict.mp free.child) entry member).imp_left (· rfl)

/-- Whether a character occurs in the literals of scalars without quotes. -/
def isBare (c : Char) : Bool := c.isAlphanum || c = '-' || c = '+' || c = '.'

/-- What follows a literal is nothing or starts with a delimiter. -/
def Ended (rest : List Char) : Prop := ∀ c ∈ rest.head?, isBare c = false

/-- What the first character of a literal tells about it. -/
inductive Opening where
  /-- A scalar without quotes. -/
  | bare
  /-- A text. -/
  | quote
  /-- A list. -/
  | bracket
  /-- A tuple. -/
  | parenthesis
  /-- A dict. -/
  | brace
deriving DecidableEq

/-- What a character tells about the literal that it starts, if it can start one. -/
def Opening.of? (c : Char) : Option Opening :=
  if isBare c then some .bare
  else
    match c with
    | '\'' | '"' => some .quote
    | '[' => some .bracket
    | '(' => some .parenthesis
    | '\x7b' => some .brace
    | _ => none

/-- What the literal of a value starts with. -/
def opening : Value → Opening
  | .str _ => .quote
  | .list _ => .bracket
  | .tuple _ => .parenthesis
  | .dict _ => .brace
  | _ => .bare

/-- The characters of numbers are characters of scalars without quotes. -/
theorem isBare_of_isNumeral {c : Char} (numeral : Layout.isNumeral c = true) : isBare c = true := by
  -- Digits are, and so are the signs, the point and the letters of the mark and of infinity.
  simp only [Layout.isNumeral, Bool.or_eq_true, List.contains_eq_mem, decide_eq_true_eq] at numeral
  rcases numeral with digit | other
  · simp [isBare, Char.isAlphanum, digit]
  · simp only [List.mem_cons, List.not_mem_nil, or_false] at other
    rcases other with rfl | rfl | rfl | rfl | rfl | rfl | rfl <;> rfl

/-- The characters of an integer are digits and a sign. -/
theorem of_mem_integerText {n : Int} {c : Char} (member : c ∈ integerText n) :
    Layout.isNumeral c = true ∧ Layout.isMark c = false := by
  have character : c = '-' ∨ c.isDigit = true := by
    unfold integerText at member
    dsimp only at member
    split at member
    · rcases List.mem_cons.mp member with minus | digit
      · exact .inl minus
      · exact .inr (Nat.isDigit_of_mem_toDigits (by decide) (by decide) digit)
    · exact .inr (Nat.isDigit_of_mem_toDigits (by decide) (by decide) member)
  rcases character with rfl | digit
  · decide
  · refine ⟨by simp [Layout.isNumeral, digit], ?_⟩
    -- A mark would be no digit.
    rw [Bool.eq_false_iff]
    intro mark
    simp only [Layout.isMark, Bool.or_eq_true, decide_eq_true_eq, or_assoc] at mark
    rcases mark with rfl | rfl | rfl <;> cases digit

/-- Whether a text has the characters of a number alone, and whether it has a mark. -/
def traits (text : List Char) : Bool × Bool := (text.all Layout.isNumeral, text.any Layout.isMark)

/-- The traits of the literal of a scalar without quotes. -/
def literalTraits : Value → Bool × Bool
  | .int _ => (true, false)
  | .float _ => (true, true)
  -- The names of the other scalars have a capital letter, and each of them has a mark.
  | _ => (false, true)

/-- A float is written in the literal layout. -/
theorem literalText_float (x : Binary64) : (Value.float x).literalText = Layout.literal.text x := by
  -- The respelled compact text is that of the literal layout.
  rw [literalText, Decimal.respelledText_eq]

/-- The traits of the literal of a scalar without quotes are those that its kind asks for. -/
theorem traits_literalText {value : Value} (bare : value.opening = .bare) (number : value.isNan = false) :
    traits value.literalText = value.literalTraits := by
  -- The words for absence and truth have other letters; integers have no mark, and floats have one.
  cases value with
  | null => decide
  | bool truth => cases truth <;> decide
  | int n =>
    have numerals : (integerText n.toInt).all Layout.isNumeral = true := by
      rw [List.all_eq_true]
      exact fun c member => (of_mem_integerText member).1
    have unmarked : (integerText n.toInt).any Layout.isMark = false := by
      rw [List.any_eq_false]
      exact fun c member => by simp [(of_mem_integerText member).2]
    rw [traits, literalText, numerals, unmarked, literalTraits]
  | float x =>
    have numerals := Layout.all_isNumeral_text Layout.literal number
    have marked : (Layout.literal.text x).any Layout.isMark = true := by
      rw [List.any_eq_true]
      exact Layout.exists_mark_text Layout.literal rfl number
    rw [traits, literalText_float, numerals, marked, literalTraits]
  | str | list | tuple | dict => cases bare

/-- A scalar without quotes is written with bare characters, at least one. -/
theorem literalText_of_bare {value : Value} (bare : value.opening = .bare) (number : value.isNan = false) :
    value.literalText ≠ [] ∧ value.literalText.all isBare = true := by
  have known := traits_literalText bare number
  -- All numerals are bare.
  have numeric {text : List Char} (numerals : text.all Layout.isNumeral = true) : text.all isBare = true := by
    rw [List.all_eq_true] at numerals ⊢
    exact fun c member => isBare_of_isNumeral (numerals c member)
  cases value with
  | null => decide
  | bool truth => cases truth <;> decide
  | int n =>
    refine ⟨?_, numeric (congrArg Prod.fst known)⟩
    simp only [literalText, integerText]
    split <;> simp [Nat.toDigits_ne_nil]
  | float x =>
    refine ⟨?_, numeric (congrArg Prod.fst known)⟩
    -- An empty text would have no mark.
    intro empty
    rw [empty] at known
    cases known
  | str | list | tuple | dict => cases bare

/-- The literal determines a scalar without quotes. -/
theorem eq_of_bare {a b : Value} (bareA : a.opening = .bare) (bareB : b.opening = .bare)
    (numberA : a.isNan = false) (numberB : b.isNan = false) (same : a.literalText = b.literalText) :
    a = b := by
  -- The traits tell the kinds apart except for absence and the truth values, which are single words.
  have alike : a.literalTraits = b.literalTraits := by
    rw [← traits_literalText bareA numberA, ← traits_literalText bareB numberB, same]
  cases a with
  | null =>
    cases b with
    | null => rfl
    | bool other => cases other <;> simp [literalText] at same
    | int | float => cases alike
    | str | list | tuple | dict => cases bareB
  | bool truth =>
    cases b with
    | null => cases truth <;> simp [literalText] at same
    | bool other => cases truth <;> cases other <;> first | rfl | simp [literalText] at same
    | int | float => cases alike
    | str | list | tuple | dict => cases bareB
  | int m =>
    cases b with
    | int n =>
      have written : integerText m.toInt = integerText n.toInt := by simpa only [literalText] using same
      -- An integer is read back from its digits.
      have reads := Decimal.readInteger?_integerText m.toInt
      rw [written, Decimal.readInteger?_integerText, Option.some.injEq] at reads
      rw [Word.toInt_inj reads]
    | null | bool | float => cases alike
    | str | list | tuple | dict => cases bareB
  | float x =>
    cases b with
    | float y =>
      rw [literalText_float, literalText_float] at same
      rw [Layout.text_inj numberA numberB same]
    | null | bool | int => cases alike
    | str | list | tuple | dict => cases bareB
  | str | list | tuple | dict => cases bareA

/-- Bare characters end where a delimiter follows. -/
theorem bare_append_inj {s t u v : List Char} (bareS : s.all isBare = true) (bareT : t.all isBare = true)
    (endedU : Ended u) (endedV : Ended v) (same : s ++ u = t ++ v) : s = t ∧ u = v := by
  -- The bare characters at the start of either side are the first part of it.
  have taken {text rest : List Char} (bare : text.all isBare = true) (ended : Ended rest) :
      (text ++ rest).takeWhile isBare = text := by
    rw [List.takeWhile_append_of_pos (List.all_eq_true.mp bare)]
    cases rest with
    | nil => simp
    | cons c rest => simp [ended c rfl]
  have first : s = t := by rw [← taken bareS endedU, same, taken bareT endedV]
  subst first
  exact ⟨rfl, List.append_cancel_left same⟩

/-- The literals of elements, element by element. -/
theorem literalItems_eq_map (items : List Value) : literalItems items = items.map literalText := by
  -- The recursion on the list of elements is a map.
  induction items with
  | nil => rfl
  | cons item rest ih => rw [literalItems, ih, List.map_cons]

/-- The literal form of an entry. -/
def literalEntry (entry : Value × Value) : List Char := entryText entry.1.literalText entry.2.literalText

/-- The literals of entries, entry by entry. -/
theorem literalEntries_eq_map (entries : List (Value × Value)) :
    literalEntries entries = entries.map literalEntry := by
  -- The recursion on the list of entries is a map.
  induction entries with
  | nil => rfl
  | cons entry rest ih => rw [literalEntries, ih, List.map_cons, literalEntry]

/-- The end of a tuple, with a comma behind a single element. -/
def tupleEnd (items : List Value) : List Char := if items.length = 1 then [',', ')'] else [')']

/-- A tuple is written between parentheses, a single element with a comma behind it. -/
theorem literalText_tuple (items : List Value) :
    (Value.tuple items).literalText = '(' :: (commaSeparated (items.map literalText) ++ tupleEnd items) := by
  -- The empty tuple and the single element have clauses of their own.
  match items with
  | [] => rfl
  | [item] => simp [literalText, tupleEnd, commaSeparated, List.intercalate]
  | first :: second :: rest => simp [literalText, tupleEnd, literalItems_eq_map]

/-- A literal starts with a character that tells its kind. -/
theorem exists_opening {value : Value} (number : value.isNan = false) :
    ∃ c rest, value.literalText = c :: rest ∧ Opening.of? c = some value.opening := by
  -- A scalar without quotes starts with one of its characters, and the others with a quote or a bracket.
  by_cases bare : value.opening = .bare
  · obtain ⟨nonempty, all⟩ := literalText_of_bare bare number
    obtain ⟨c, rest, written⟩ := List.exists_cons_of_ne_nil nonempty
    rw [written, List.all_cons, Bool.and_eq_true] at all
    refine ⟨c, rest, written, ?_⟩
    unfold Opening.of?
    rw [if_pos all.1, bare]
  · cases value with
    | str text =>
      refine ⟨_, _, rfl, ?_⟩
      rcases Text.Quoted.quoteFor_cases text.toList with quote | quote <;> rw [quote] <;> rfl
    | list items => exact ⟨_, _, by rw [literalText], rfl⟩
    | tuple items => exact ⟨_, _, literalText_tuple items, rfl⟩
    | dict entries => exact ⟨_, _, by rw [literalText], rfl⟩
    | null | bool | int | float => exact absurd rfl bare

/-- The literal of a value without NaNs starts with a character that opens a literal. -/
theorem exists_opening_of_nanFree (value : Value) (free : value.NanFree) :
    ∃ c rest, value.literalText = c :: rest ∧ Opening.of? c ≠ none := by
  -- A value without NaNs is none itself.
  obtain ⟨c, rest, written, isOpening⟩ := exists_opening free.number
  exact ⟨c, rest, written, by simp [isOpening]⟩

/-- Literals that start alike have the same opening. -/
theorem opening_eq {a b : Value} (numberA : a.isNan = false) (numberB : b.isNan = false) {u v : List Char}
    (same : a.literalText ++ u = b.literalText ++ v) : a.opening = b.opening := by
  -- The first characters are the same, and they tell the openings.
  obtain ⟨c, restA, writtenA, opensA⟩ := exists_opening numberA
  obtain ⟨d, restB, writtenB, opensB⟩ := exists_opening numberB
  rw [writtenA, writtenB, List.cons_append, List.cons_append, List.cons.injEq] at same
  rw [← same.1, opensA] at opensB
  exact Option.some.inj opensB

section Separated

variable {α : Type} (text : α → List Char) (good : α → Prop)

/-- The text of something tells it from all that is good and ends by itself. -/
def Determined (x : α) : Prop :=
  ∀ y, good y → ∀ u v, Ended u → Ended v → text x ++ u = text y ++ v → x = y ∧ u = v

/-- A container ends with a bracket, which may have a comma in front of it. -/
def Closing (rest : List Char) : Prop :=
  ∃ c more, (rest = c :: more ∨ rest = ',' :: c :: more) ∧ (c = ']' ∨ c = ')' ∨ c = '\x7d')

/-- What closes a container ends a scalar without quotes. -/
theorem Closing.ended {rest : List Char} (closing : Closing rest) : Ended rest := by
  -- Neither a bracket nor a comma is a character of such a scalar.
  obtain ⟨c, more, rfl | rfl, isBracket⟩ := closing
  · intro d head
    cases head
    rcases isBracket with rfl | rfl | rfl <;> rfl
  · intro d head
    cases head
    rfl

/-- No literal starts like the end of a container. -/
theorem Closing.opening {c : Char} {rest : List Char} (closing : Closing (c :: rest)) :
    Opening.of? c = none := by
  -- Neither a bracket that closes nor a comma opens a literal.
  obtain ⟨d, more, here | here, isBracket⟩ := closing
  · cases here
    rcases isBracket with rfl | rfl | rfl <;> rfl
  · cases here
    rfl

/-- No container ends like a separator. -/
theorem not_closing_separator (rest : List Char) : ¬Closing (',' :: ' ' :: rest) := by
  -- Where a comma closes a tuple a bracket follows it, and here it is a space.
  rintro ⟨c, more, here | here, isBracket⟩
  · cases here
    simp at isBracket
  · cases here
    simp at isBracket

/-- The parts of a separated text behind the first one. -/
def furtherText (parts : List (List Char)) : List Char := parts.flatMap fun part => ',' :: ' ' :: part

/-- Parts with commas between are the first one and the further ones, each behind a comma. -/
theorem commaSeparated_cons (part : List Char) (parts : List (List Char)) :
    commaSeparated (part :: parts) = part ++ furtherText parts := by
  -- The commas between the parts are moved to the front of the part that follows.
  induction parts generalizing part with
  | nil => simp [commaSeparated, furtherText, List.intercalate]
  | cons next parts ih =>
    have tail := ih next
    simp_all [commaSeparated, furtherText, List.intercalate]

/-- Further parts and what closes the container end a scalar without quotes. -/
theorem ended_furtherText (parts : List (List Char)) {rest : List Char} (closing : Closing rest) :
    Ended (furtherText parts ++ rest) := by
  -- Behind the scalar there is the comma of the next part, or the end of the container.
  cases parts with
  | nil => exact closing.ended
  | cons part parts =>
    intro c head
    cases head
    rfl

variable {text good}

/-- What is separated behind a first part can be told from the end that follows. -/
theorem furtherText_append_inj {xs ys : List α} (determined : ∀ x ∈ xs, Determined text good x)
    (fine : ∀ y ∈ ys, good y) {u v : List Char} (closingU : Closing u) (closingV : Closing v)
    (same : furtherText (xs.map text) ++ u = furtherText (ys.map text) ++ v) : xs = ys ∧ u = v := by
  induction xs generalizing ys with
  | nil =>
    cases ys with
    | nil => exact ⟨rfl, same⟩
    | cons y ys =>
      -- One side ends where the other goes on.
      have ends : u = ',' :: ' ' :: (text y ++ (furtherText (ys.map text) ++ v)) := by
        simpa [furtherText] using same
      exact absurd (ends ▸ closingU) (not_closing_separator _)
  | cons x xs ih =>
    obtain ⟨determinedX, determined⟩ := List.forall_mem_cons.mp determined
    cases ys with
    | nil =>
      have ends : v = ',' :: ' ' :: (text x ++ (furtherText (xs.map text) ++ u)) := by
        simpa [furtherText] using same.symm
      exact absurd (ends ▸ closingV) (not_closing_separator _)
    | cons y ys =>
      obtain ⟨fineY, fineRest⟩ := List.forall_mem_cons.mp fine
      -- Behind the separators, both sides start with an element.
      have parts : text x ++ (furtherText (xs.map text) ++ u) = text y ++ (furtherText (ys.map text) ++ v) := by
        simpa [furtherText] using same
      obtain ⟨rfl, others⟩ := determinedX y fineY _ _ (ended_furtherText _ closingU)
        (ended_furtherText _ closingV) parts
      obtain ⟨rfl, rest⟩ := ih determined fineRest others
      exact ⟨rfl, rest⟩

/-- What is separated by commas can be told from the end that follows. -/
theorem commaSeparated_append_inj {xs ys : List α} (opens : ∀ x, good x → ∃ c rest, text x = c :: rest ∧
    Opening.of? c ≠ none) (fineX : ∀ x ∈ xs, good x) (fineY : ∀ y ∈ ys, good y)
    (determined : ∀ x ∈ xs, Determined text good x) {u v : List Char} (closingU : Closing u)
    (closingV : Closing v)
    (same : commaSeparated (xs.map text) ++ u = commaSeparated (ys.map text) ++ v) : xs = ys ∧ u = v := by
  -- The end of a container is not the start of a part.
  have apart {x : α} (fine : good x) {rest w : List Char} (closing : Closing w) : text x ++ rest ≠ w := by
    obtain ⟨c, more, written, isOpening⟩ := opens x fine
    rintro rfl
    rw [written] at closing
    exact isOpening closing.opening
  cases xs with
  | nil =>
    cases ys with
    | nil => exact ⟨rfl, same⟩
    | cons y ys =>
      rw [List.map_cons, commaSeparated_cons, List.append_assoc] at same
      exact absurd same.symm (apart (fineY y List.mem_cons_self) closingU)
  | cons x xs =>
    cases ys with
    | nil =>
      rw [List.map_cons, commaSeparated_cons, List.append_assoc] at same
      exact absurd same (apart (fineX x List.mem_cons_self) closingV)
    | cons y ys =>
      -- The first elements are told apart from what follows them, and then the further ones.
      simp only [List.map_cons, commaSeparated_cons, List.append_assoc] at same
      obtain ⟨determinedX, determined⟩ := List.forall_mem_cons.mp determined
      obtain ⟨fineY, fineRest⟩ := List.forall_mem_cons.mp fineY
      obtain ⟨rfl, others⟩ := determinedX y fineY _ _ (ended_furtherText _ closingU)
        (ended_furtherText _ closingV) same
      obtain ⟨rfl, rest⟩ := furtherText_append_inj determined fineRest closingU closingV others
      exact ⟨rfl, rest⟩

end Separated

/-- The key and the value of an entry are told apart by the colon. -/
theorem determined_entry {entry : Value × Value} (key : Determined literalText NanFree entry.1)
    (value : Determined literalText NanFree entry.2) :
    Determined literalEntry (fun other => other.1.NanFree ∧ other.2.NanFree) entry := by
  intro other free u v endedU endedV same
  -- The colon is no bare character, so that it ends the key.
  have colon (rest : List Char) : Ended (':' :: ' ' :: rest) := by
    intro c head
    cases head
    rfl
  simp only [literalEntry, entryText, List.append_assoc, List.cons_append] at same
  obtain ⟨keys, rest⟩ := key other.1 free.1 _ _ (colon _) (colon _) same
  simp only [List.cons.injEq, true_and] at rest
  obtain ⟨values, rest⟩ := value other.2 free.2 _ _ endedU endedV rest
  exact ⟨Prod.ext keys values, rest⟩

/-- The literal of a scalar without quotes determines it. -/
theorem determined_of_bare {a : Value} (bare : a.opening = .bare) (number : a.isNan = false) :
    Determined literalText NanFree a := by
  -- The other value starts alike, so that it is such a scalar too, and both end where their characters do.
  intro b free u v endedU endedV same
  have bareB : b.opening = .bare := by rw [← opening_eq number free.number same, bare]
  obtain ⟨texts, rest⟩ := bare_append_inj (literalText_of_bare bare number).2
    (literalText_of_bare bareB free.number).2 endedU endedV same
  exact ⟨eq_of_bare bare bareB number free.number texts, rest⟩

/-- The literal of a text determines it. -/
theorem determined_str {text : String} : Determined literalText NanFree (.str text) := by
  -- The other value starts with a quote, so that it is a text too, and quoted texts end by themselves.
  intro b free u v endedU endedV same
  have quoted := opening_eq rfl free.number same
  cases b with
  | str other =>
    simp only [literalText] at same
    obtain ⟨texts, rest⟩ := Text.Quoted.encode_append_inj same
    exact ⟨by rw [String.toList_inj.mp texts], rest⟩
  | null | bool | int | float | list | tuple | dict => cases quoted

/-- The literal of a list determines it, if those of its elements do. -/
theorem determined_list {items : List Value} (free : ∀ item ∈ items, item.NanFree)
    (determined : ∀ item ∈ items, Determined literalText NanFree item) :
    Determined literalText NanFree (.list items) := by
  -- The other value starts with the same bracket, and the elements are told apart one by one.
  intro b freeB u v endedU endedV same
  have bracketed := opening_eq rfl freeB.number same
  have closing (rest : List Char) : Closing (']' :: rest) := ⟨']', rest, .inl rfl, .inl rfl⟩
  cases b with
  | list others =>
    have freeOthers := freeB.child
    simp only [literalText, literalItems_eq_map, List.cons_append, List.append_assoc, List.nil_append,
      List.cons.injEq, true_and] at same
    obtain ⟨rfl, rest⟩ := commaSeparated_append_inj exists_opening_of_nanFree free freeOthers determined
      (closing u) (closing v) same
    exact ⟨rfl, (List.cons.inj rest).2⟩
  | null | bool | int | float | str | tuple | dict => cases bracketed

/-- The literal of a tuple determines it, if those of its elements do. -/
theorem determined_tuple {items : List Value} (free : ∀ item ∈ items, item.NanFree)
    (determined : ∀ item ∈ items, Determined literalText NanFree item) :
    Determined literalText NanFree (.tuple items) := by
  intro b freeB u v endedU endedV same
  have parenthesized := opening_eq rfl freeB.number same
  -- The comma behind a single element is not followed by a space.
  have closing (items : List Value) (rest : List Char) : Closing (tupleEnd items ++ rest) := by
    unfold tupleEnd
    split
    · exact ⟨')', rest, .inr rfl, .inr (.inl rfl)⟩
    · exact ⟨')', rest, .inl rfl, .inr (.inl rfl)⟩
  cases b with
  | tuple others =>
    have freeOthers := freeB.child
    simp only [literalText_tuple, List.cons_append, List.append_assoc, List.cons.injEq, true_and] at same
    obtain ⟨rfl, rest⟩ := commaSeparated_append_inj exists_opening_of_nanFree free freeOthers determined
      (closing items u) (closing others v) same
    exact ⟨rfl, List.append_cancel_left rest⟩
  | null | bool | int | float | str | list | dict => cases parenthesized

/-- The literal of a dict determines it, if those of its keys and values do. -/
theorem determined_dict {entries : List (Value × Value)}
    (free : ∀ entry ∈ entries, entry.1.NanFree ∧ entry.2.NanFree)
    (determined : ∀ entry ∈ entries,
      Determined literalText NanFree entry.1 ∧ Determined literalText NanFree entry.2) :
    Determined literalText NanFree (.dict entries) := by
  intro b freeB u v endedU endedV same
  have braced := opening_eq rfl freeB.number same
  have closing (rest : List Char) : Closing ('\x7d' :: rest) := ⟨'\x7d', rest, .inl rfl, .inr (.inr rfl)⟩
  -- An entry starts like its key.
  have opens (entry : Value × Value) (free : entry.1.NanFree ∧ entry.2.NanFree) :
      ∃ c rest, literalEntry entry = c :: rest ∧ Opening.of? c ≠ none := by
    obtain ⟨c, rest, written, isOpening⟩ := exists_opening_of_nanFree entry.1 free.1
    exact ⟨c, _, by rw [literalEntry, entryText, written, List.cons_append], isOpening⟩
  cases b with
  | dict others =>
    have freeOthers := freeB.entry
    simp only [literalText, literalEntries_eq_map, List.cons_append, List.append_assoc, List.nil_append,
      List.cons.injEq, true_and] at same
    obtain ⟨rfl, rest⟩ := commaSeparated_append_inj opens free freeOthers
      (fun entry member => determined_entry (determined entry member).1 (determined entry member).2)
      (closing u) (closing v) same
    exact ⟨rfl, (List.cons.inj rest).2⟩
  | null | bool | int | float | str | list | tuple => cases braced

/-- The literal of a value without NaNs ends by itself and determines the value. -/
theorem determined_literalText (a : Value) (free : a.NanFree) : Determined literalText NanFree a := by
  -- A scalar is settled by itself, and a container by everything that it holds.
  induction a using nestedInduction with
  | null => exact determined_of_bare rfl rfl
  | bool truth => exact determined_of_bare rfl rfl
  | int n => exact determined_of_bare rfl rfl
  | float x => exact determined_of_bare rfl free.number
  | str text => exact determined_str
  | list items ih =>
    exact determined_list free.child fun item member => ih item member (free.child item member)
  | tuple items ih =>
    exact determined_tuple free.child fun item member => ih item member (free.child item member)
  | dict entries ih =>
    refine determined_dict free.entry fun entry member => ⟨?_, ?_⟩
    · exact (ih entry member).1 (free.entry entry member).1
    · exact (ih entry member).2 (free.entry entry member).2

/--
Values without NaNs that have the same literal form are the same, down to the order of the entries of every dict.

They are equal as soon as no dict in them has two equal keys.
-/
theorem literal_unambiguous (a b : Value) (freeA : a.NanFree) (freeB : b.NanFree) (same : a.literal = b.literal) :
    a = b ∧ (a.WellFormed → (a == b) = true) := by
  -- Behind a whole literal there is nothing, which ends it.
  have texts : a.literalText ++ [] = b.literalText ++ [] := by
    simpa [literal] using congrArg String.toList same
  have nothing : Ended [] := by simp [Ended]
  obtain ⟨rfl, _⟩ := determined_literalText a freeA b freeB [] [] nothing nothing texts
  exact ⟨rfl, beq_refl_of_wellFormed⟩

/-- Quotes, a bracket and an escape in a key and a whole float beside an empty list do not hide what a dict holds. -/
theorem literal_unambiguous_nested :
    (Value.dict [(.tuple [.str "it's \"1, 2]\"\n"], .list [.float (.ofInt .double 1), .list []])]).literal =
        "\x7b('it\\'s \"1, 2]\"\\n',): [1.0, []]\x7d" ∧
      (Value.dict (Entries.insert [] (.tuple [.str "it's \"1, 2]\"\n"])
          (.list [.float (.ofInt .double 1), .list []])) ==
        .dict [(.tuple [.str "it's \"1, 2]\"\n"], .list [.float (.ofInt .double 1), .list []])]) = true := by
  -- The insertion into an empty dict gives the dict itself, and so the same literal.
  refine ⟨by decide +kernel, ?_⟩
  exact (literal_unambiguous _ _ (by decide +kernel) (by decide +kernel) rfl).2 (by decide +kernel)

end DynValue.Value
