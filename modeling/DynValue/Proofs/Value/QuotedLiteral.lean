import DynValue.Proofs.Text.Quoted
import DynValue.Value.Render

/-!
The literal of a text is a well-formed quoted form of it.

Inside the quotes every character is written as one unit: itself, a backslash and a letter, or a backslash and two digits.
Units keep backslashes in pairs, except for the one in front of a quote, and no unit has a control character.
-/

namespace DynValue

namespace Text.Quoted

/-- The number of backslashes at the end of a text. -/
def trailingBackslashes (text : List Char) : Nat := (text.reverse.takeWhile (· = '\\')).length

/-- What follows a text is escaped if a backslash is left over when those at its end are taken in pairs. -/
def Escapes (text : List Char) : Prop := trailingBackslashes text % 2 = 1

/-- The backslashes at the end can be counted. -/
instance (text : List Char) : Decidable (Escapes text) :=
  inferInstanceAs (Decidable (trailingBackslashes text % 2 = 1))

/-- A hexadecimal digit is neither a quote, a backslash nor a control character. -/
theorem digitChar_plain {n : Nat} (small : n < 16) :
    (Nat.digitChar n ≠ '\'' ∧ Nat.digitChar n ≠ '"') ∧ Nat.digitChar n ≠ '\\' ∧ isControl (Nat.digitChar n) = false := by
  -- Each of the sixteen digits is looked at, and there is no seventeenth.
  rcases n with _ | _ | _ | _ | _ | _ | _ | _ | _ | _ | _ | _ | _ | _ | _ | _ | n
  all_goals first | decide | omega

/-- The written forms of single characters inside a quote. -/
inductive IsUnit (quote : Char) : List Char → Prop where
  /-- A backslash and a letter, another backslash or the quote. -/
  | letter {mark : Char} (known : mark = '\\' ∨ mark = 'n' ∨ mark = 'r' ∨ mark = 't' ∨ mark = quote) :
      IsUnit quote ['\\', mark]
  /-- The code of a control character in two digits. -/
  | code {high low : Nat} (smallHigh : high < 16) (smallLow : low < 16) :
      IsUnit quote ['\\', 'x', Nat.digitChar high, Nat.digitChar low]
  /-- A character that stands for itself. -/
  | plain {c : Char} (notBackslash : c ≠ '\\') (notQuote : c ≠ quote) (notControl : isControl c = false) :
      IsUnit quote [c]

variable {quote : Char} {unit : List Char}

/-- Every character is written as one unit. -/
theorem isUnit_encodeChar (quote c : Char) : IsUnit quote (encodeChar quote c) := by
  -- The cases are those of the writer, in its order.
  unfold encodeChar
  split
  · exact .letter (.inl rfl)
  · exact .letter (.inr (.inl rfl))
  · exact .letter (.inr (.inr (.inl rfl)))
  · exact .letter (.inr (.inr (.inr (.inl rfl))))
  · rename_i backslash _ _ _
    split
    · rename_i same
      exact .letter (.inr (.inr (.inr (.inr same))))
    · rename_i different
      split
      · rename_i control
        have small := toNat_lt_of_isControl control
        exact .code (by omega) (by omega)
      · rename_i control
        exact .plain backslash different (by simpa using control)

/-- A backslash at the end is counted with those before it, and any other character ends the count. -/
theorem trailingBackslashes_append_singleton (text : List Char) (c : Char) :
    trailingBackslashes (text ++ [c]) = if c = '\\' then trailingBackslashes text + 1 else 0 := by
  -- Read backward, the last character comes first.
  simp only [trailingBackslashes, List.reverse_append, List.reverse_singleton, List.singleton_append, List.takeWhile_cons]
  split <;> simp_all

/-- A unit leaves the backslashes in pairs. -/
theorem IsUnit.pairs (isUnit : IsUnit quote unit) {done : List Char}
    (paired : ¬Escapes done) : ¬Escapes (done ++ unit) := by
  -- Only a pair of backslashes ends with one, and anything else starts the count anew.
  have ends {front : List Char} {c : Char} (other : c ≠ '\\') : ¬Escapes (front ++ [c]) := by
    simp [Escapes, trailingBackslashes_append_singleton, other]
  cases isUnit with
  | @letter mark _ =>
    rw [List.append_cons]
    by_cases backslash : mark = '\\'
    · subst backslash
      -- Two more backslashes keep the parity of their number.
      unfold Escapes at paired ⊢
      rw [trailingBackslashes_append_singleton, trailingBackslashes_append_singleton]
      simp only [if_true]
      omega
    · exact ends backslash
  | @code high low _ smallLow =>
    have last : ¬Escapes (done ++ ['\\', 'x', Nat.digitChar high] ++ [Nat.digitChar low]) :=
      ends (digitChar_plain smallLow).2.1
    simpa using last
  | plain notBackslash => exact ends notBackslash

/-- A quote in a unit stands behind one backslash. -/
theorem IsUnit.quote_escaped (isUnit : IsUnit quote unit) (isQuote : quote = '\'' ∨ quote = '"')
    {before after : List Char} (parts : unit = before ++ quote :: after) : before = ['\\'] := by
  have member : quote ∈ unit := by simp [parts]
  have notBackslash : quote ≠ '\\' := by rcases isQuote with rfl | rfl <;> decide
  have notMark : quote ≠ 'x' := by rcases isQuote with rfl | rfl <;> decide
  have notDigit {n : Nat} (small : n < 16) : quote ≠ Nat.digitChar n := by
    obtain ⟨notSingle, notDouble⟩ := (digitChar_plain small).1
    rcases isQuote with rfl | rfl
    · exact notSingle.symm
    · exact notDouble.symm
  cases isUnit with
  | letter =>
    -- The quote is not the backslash itself, so that it is the mark behind it.
    match before with
    | [] => exact absurd (List.cons.inj parts).1.symm notBackslash
    | [first] => rw [(List.cons.inj parts).1]
    | _ :: _ :: _ => simp at parts
  | code smallHigh smallLow =>
    -- None of the four characters is the quote.
    simp [notBackslash, notMark, notDigit smallHigh, notDigit smallLow] at member
  | plain _ notQuote => exact absurd (List.mem_singleton.mp member).symm notQuote

/-- No unit has a control character. -/
theorem IsUnit.not_control (isUnit : IsUnit quote unit) (isQuote : quote = '\'' ∨ quote = '"') :
    ∀ c ∈ unit, isControl c = false := by
  -- The control characters themselves are written as codes, whose digits are none.
  have backslash : isControl '\\' = false := rfl
  have letters : isControl 'n' = false ∧ isControl 'r' = false ∧ isControl 't' = false ∧ isControl 'x' = false :=
    ⟨rfl, rfl, rfl, rfl⟩
  have quoted : isControl quote = false := by rcases isQuote with rfl | rfl <;> rfl
  cases isUnit with
  | letter known => rcases known with rfl | rfl | rfl | rfl | rfl <;> simp [*]
  | code smallHigh smallLow => simp [backslash, letters, digitChar_plain smallHigh, digitChar_plain smallLow]
  | plain _ _ notControl => simpa using notControl

/-- Among the units of a text, every quote is escaped. -/
theorem escapes_before_quote (isQuote : quote = '\'' ∨ quote = '"') {text done before after : List Char}
    (paired : ¬Escapes done) (parts : text.flatMap (encodeChar quote) = before ++ quote :: after) :
    Escapes (done ++ before) := by
  -- The units that are passed are counted as done, which leaves their backslashes in pairs.
  induction text generalizing done before with
  | nil => simp at parts
  | cons c text ih =>
    have isUnit := isUnit_encodeChar quote c
    have passed := isUnit.pairs paired
    rw [List.flatMap_cons, List.append_eq_append_iff] at parts
    rcases parts with ⟨further, rfl, parts⟩ | ⟨rest, parts, tail⟩
    · rw [← List.append_assoc]
      exact ih passed parts
    · cases rest with
      | nil =>
        -- The quote starts the next unit.
        rw [List.append_nil] at parts
        have next := ih passed (show _ = [] ++ quote :: after from tail.symm)
        rwa [List.append_nil, parts] at next
      | cons first rest =>
        -- The quote stands in this unit, and one backslash is added to the pairs before it.
        obtain ⟨rfl, _⟩ := List.cons.inj tail
        rw [isUnit.quote_escaped isQuote parts]
        unfold Escapes at paired ⊢
        rw [trailingBackslashes_append_singleton, if_pos rfl]
        omega

/-- The double quote is taken where a single quote occurs and no double one. -/
theorem quoteFor_eq_double_iff (text : List Char) : quoteFor text = '"' ↔ '\'' ∈ text ∧ '"' ∉ text := by
  -- The choice tests the same two memberships.
  unfold quoteFor
  split <;> simp_all

end Text.Quoted

namespace Value

open Text.Quoted

/--
The literal of a text is a correct quoted form of it.

It stands between two quotes of one kind, double ones where that saves escaping single ones. In between there is no quote of
that kind that is not escaped and no control character. A reader that knows the escapes gets the text back, and it finds the
end of the literal by itself, whatever follows.
-/
theorem quoted_literal (text : String) : ∃ (quote : Char) (body : List Char),
    (Value.str text).literal = String.ofList (quote :: (body ++ [quote])) ∧
      (quote = '\'' ∨ quote = '"') ∧ (quote = '"' ↔ '\'' ∈ text.toList ∧ '"' ∉ text.toList) ∧
      (∀ before after : List Char, body = before ++ quote :: after → Escapes before) ∧
      (∀ c ∈ body, isControl c = false) ∧
      ∀ rest : List Char, readBody? quote (body ++ quote :: rest) = some (text.toList, rest) := by
  have isQuote := quoteFor_cases text.toList
  have written : (Value.str text).literal = String.ofList (encode text.toList) := by rw [literal, literalText]
  refine ⟨quoteFor text.toList, text.toList.flatMap (encodeChar (quoteFor text.toList)), written, isQuote,
    quoteFor_eq_double_iff text.toList, ?_, ?_, readBody?_encode isQuote text.toList⟩
  · intro before after parts
    have escaped : Escapes ([] ++ before) := escapes_before_quote isQuote (by decide) parts
    exact escaped
  · intro c member
    obtain ⟨source, _, written⟩ := List.mem_flatMap.mp member
    exact (isUnit_encodeChar _ source).not_control isQuote c written

-- A backslash in front of a letter, both quotes, and a control character in front of what could be a third digit.
example : (Value.str "\\n'\"\x01f").literal = "'\\\\n\\'\"\\x01f'" := by decide

end Value

end DynValue
