import DynValue.Decimal.Reader
import DynValue.Json.Basic

/-! The tokens of JSON text. -/

namespace DynValue.Json

/-- A token of JSON text. -/
inductive Token where
  /-- The start of an array. -/
  | openArray
  /-- The end of an array. -/
  | closeArray
  /-- The start of an object. -/
  | openObject
  /-- The end of an object. -/
  | closeObject
  /-- The comma between items and members. -/
  | comma
  /-- The colon between a key and its value. -/
  | colon
  /-- A text, which may be a key. -/
  | text (text : String)
  /-- A number, a truth value or null. -/
  | scalar (tree : Json)

/-- What the next character of a quoted text belongs to. -/
inductive TextState where
  /-- A character by itself. -/
  | plain
  /-- The letter of an escape. -/
  | escape
  /-- The next of four hexadecimal digits, after the first half of a surrogate pair if there was one. -/
  | digits (high : Option Nat) (count value : Nat)
  /-- The backslash of the second half of a surrogate pair. -/
  | lowEscape (high : Nat)
  /-- The letter of the second half of a surrogate pair. -/
  | lowMark (high : Nat)

/-- The value of a hexadecimal digit in either case. -/
def hexDigit? (c : Char) : Option Nat :=
  if c.isDigit then some (c.toNat - '0'.toNat)
  else if 'a' ≤ c ∧ c ≤ 'f' then some (c.toNat - 'a'.toNat + 10)
  else if 'A' ≤ c ∧ c ≤ 'F' then some (c.toNat - 'A'.toNat + 10)
  else none

/-- The character of an escape of one letter. -/
def escaped? : Char → Option Char
  | '"' => some '"'
  | '\\' => some '\\'
  | '/' => some '/'
  | 'b' => some '\x08'
  | 'f' => some '\x0c'
  | 'n' => some '\n'
  | 'r' => some '\r'
  | 't' => some '\t'
  | _ => none

/-- Whether a code unit is the first half of a surrogate pair. -/
def isHighSurrogate (unit : Nat) : Bool := 0xD800 ≤ unit && unit < 0xDC00

/-- Whether a code unit is the second half of a surrogate pair. -/
def isLowSurrogate (unit : Nat) : Bool := 0xDC00 ≤ unit && unit < 0xE000

/-- The content of a quoted text behind its first quote, and what follows its last quote. -/
def scanText (state : TextState) : List Char → Option (List Char × List Char)
  | [] => none
  | c :: rest =>
    let emit (decoded : Char) :=
      (scanText .plain rest).map fun (content, after) => (decoded :: content, after)
    match state with
    | .plain =>
      if c = '"' then some ([], rest)
      else if c = '\\' then scanText .escape rest
      else if c.toNat < 0x20 then none
      else emit c
    | .escape =>
      if c = 'u' then scanText (.digits none 0 0) rest else (escaped? c).bind emit
    | .digits high count value =>
      (hexDigit? c).bind fun digit =>
        let unit := 16 * value + digit
        if count < 3 then scanText (.digits high (count + 1) unit) rest
        else
          match high with
          | none =>
            -- A first half must be followed by an escape of a second half.
            if isHighSurrogate unit then scanText (.lowEscape unit) rest
            else if isLowSurrogate unit then none
            else emit (Char.ofNat unit)
          | some first =>
            if isLowSurrogate unit then
              emit (Char.ofNat (0x10000 + (first - 0xD800) * 0x400 + (unit - 0xDC00)))
            else none
    | .lowEscape high => if c = '\\' then scanText (.lowMark high) rest else none
    | .lowMark high => if c = 'u' then scanText (.digits (some high) 0 0) rest else none

/-- The tree of a float, which must be finite. -/
def finite? (number : Binary64) : Option Json :=
  if number.isFinite then some (.float number) else none

/-- The tree of an integer: negative zero and integers out of range are floats. -/
def ofInteger? (negative : Bool) (size : Nat) : Option Json :=
  let n : Int := if negative then -size else size
  -- No integer has the sign of negative zero.
  if negative ∧ size = 0 then some (.float (Binary.zero true))
  else
    match Word.ofInt? .int64 n with
    | some number => some (.int number)
    | none => finite? (Binary.ofInt .double n)

/-- The digits of a fraction, none without a point, and what follows them. -/
def scanFraction : List Char → Option (List Char × List Char)
  | '.' :: rest =>
    match Decimal.splitDigits rest with
    | ([], _) => none
    | found => some found
  | other => some ([], other)

/-- The exponent, if there is a mark for one, and what follows it. -/
def scanExponent (text : List Char) : Option (Option Int × List Char) :=
  match text with
  | [] => some (none, [])
  | mark :: rest =>
    if mark = 'e' ∨ mark = 'E' then
      let (negative, afterSign) := Decimal.splitSign rest
      match Decimal.splitDigits afterSign with
      | ([], _) => none
      | (digits, after) =>
        let size : Int := Nat.ofDigitChars 10 digits 0
        some (some (if negative then -size else size), after)
    else some (none, text)

/-- The tree of a number in parts: without a fraction and an exponent it is an integer. -/
def ofParts? (negative : Bool) (whole fraction : List Char) (exponent : Option Int) : Option Json :=
  let size := Nat.ofDigitChars 10 (whole ++ fraction) 0
  if fraction = [] ∧ exponent = none then ofInteger? negative size
  else finite? (Binary.ofDecimal .double negative size (exponent.getD 0 - fraction.length))

/-- Whether digits may stand in front of a point: there is one, and a zero in front stands alone. -/
def isWhole (digits : List Char) : Bool :=
  digits.head? ≠ none && (digits.head? ≠ some '0' || digits.length = 1)

/-- A number without its sign, and what follows it. -/
def scanNumber (negative : Bool) (text : List Char) : Option (Json × List Char) :=
  let (whole, afterWhole) := Decimal.splitDigits text
  if isWhole whole then do
    let (fraction, afterFraction) ← scanFraction afterWhole
    let (exponent, after) ← scanExponent afterFraction
    let tree ← ofParts? negative whole fraction exponent
    some (tree, after)
  else none

/-- The token that starts with a character, and what follows it. -/
def token? (c : Char) (rest : List Char) : Option (Token × List Char) :=
  match c with
  | '[' => some (.openArray, rest)
  | ']' => some (.closeArray, rest)
  | '\x7b' => some (.openObject, rest)
  | '\x7d' => some (.closeObject, rest)
  | ',' => some (.comma, rest)
  | ':' => some (.colon, rest)
  | '"' => (scanText .plain rest).map fun (content, after) => (.text (String.ofList content), after)
  | '-' => (scanNumber true rest).map fun (tree, after) => (.scalar tree, after)
  | 't' => if "rue".toList.isPrefixOf rest then some (.scalar (.bool true), rest.drop 3) else none
  | 'f' => if "alse".toList.isPrefixOf rest then some (.scalar (.bool false), rest.drop 4) else none
  | 'n' => if "ull".toList.isPrefixOf rest then some (.scalar .null, rest.drop 3) else none
  | c => (scanNumber false (c :: rest)).map fun (tree, after) => (.scalar tree, after)

/-- A quoted text takes at least its last quote. -/
theorem length_scanText_lt {state : TextState} {text content after : List Char}
    (found : scanText state text = some (content, after)) : after.length < text.length := by
  -- Every state passes over one character and goes on behind it, or stops there.
  induction text generalizing state content with
  | nil => simp [scanText] at found
  | cons c rest ih =>
    -- The induction hypothesis, at the state that the next character is read in.
    have behind {next : TextState} {inner : List Char}
        (scanned : scanText next rest = some (inner, after)) : after.length < (c :: rest).length :=
      Nat.lt_succ_of_lt (ih scanned)
    -- A character that is decoded is put in front of what is scanned behind it.
    have emitted {decoded : Char}
        (mapped : (scanText .plain rest).map (fun (content, after) => (decoded :: content, after)) =
          some (content, after)) : after.length < (c :: rest).length := by
      obtain ⟨⟨inner, tail⟩, scanned, pair⟩ := Option.map_eq_some_iff.mp mapped
      obtain ⟨_, rfl⟩ := Prod.mk.inj pair
      exact behind scanned
    cases state with
    | plain =>
      simp only [scanText] at found
      split at found
      · obtain ⟨_, rfl⟩ := Prod.mk.inj (Option.some.inj found)
        simp
      · split at found
        · exact behind found
        · split at found
          · simp at found
          · exact emitted found
    | escape =>
      simp only [scanText] at found
      split at found
      · exact behind found
      · obtain ⟨_, _, mapped⟩ := Option.bind_eq_some_iff.mp found
        exact emitted mapped
    -- Four digits are a character, or the first half of one, which asks for another escape.
    | digits high count value =>
      simp only [scanText] at found
      obtain ⟨digit, _, next⟩ := Option.bind_eq_some_iff.mp found
      split at next
      · exact behind next
      · split at next
        · split at next
          · exact behind next
          · split at next
            · simp at next
            · exact emitted next
        · split at next
          · exact emitted next
          · simp at next
    | lowEscape high | lowMark high =>
      simp only [scanText] at found
      split at found
      · exact behind found
      · simp at found

/-- A fraction adds nothing to a text. -/
theorem length_scanFraction_le {text digits after : List Char}
    (found : scanFraction text = some (digits, after)) : after.length ≤ text.length := by
  -- The digits behind a point are dropped along with it.
  unfold scanFraction at found
  split at found
  · split at found
    · simp at found
    · obtain ⟨_, rfl⟩ := Prod.mk.inj (Option.some.inj found)
      exact Nat.le_succ_of_le (List.dropWhile_suffix _).length_le
  · obtain ⟨_, rfl⟩ := Prod.mk.inj (Option.some.inj found)
    exact Nat.le_refl _

/-- An exponent adds nothing to a text. -/
theorem length_scanExponent_le {text after : List Char} {exponent : Option Int}
    (found : scanExponent text = some (exponent, after)) : after.length ≤ text.length := by
  -- The mark, the sign and the digits are dropped one after the other.
  unfold scanExponent at found
  split at found
  · obtain ⟨_, rfl⟩ := Prod.mk.inj (Option.some.inj found)
    exact Nat.le_refl _
  · next mark rest =>
    split at found
    · split at found
      next sign afterSign signSplit =>
      split at found
      · simp at found
      · next digits tail _ digitSplit =>
        obtain ⟨_, rfl⟩ := Prod.mk.inj (Option.some.inj found)
        -- Digits and what follows them make up what follows the sign.
        have parts := congrArg List.length (Decimal.splitDigits_append afterSign)
        have signed := Decimal.length_splitSign_le rest
        simp only [digitSplit, List.length_append] at parts
        simp only [signSplit] at signed
        simp only [List.length_cons]
        omega
    · obtain ⟨_, rfl⟩ := Prod.mk.inj (Option.some.inj found)
      exact Nat.le_refl _

/-- A number takes at least one digit. -/
theorem length_scanNumber_lt {negative : Bool} {text after : List Char} {tree : Json}
    (found : scanNumber negative text = some (tree, after)) : after.length < text.length := by
  -- The whole part is not empty, and what follows it only gets shorter.
  unfold scanNumber at found
  split at found
  next whole afterWhole digitSplit =>
  split at found
  · next valid =>
    obtain ⟨⟨fraction, afterFraction⟩, fractionFound, rest⟩ := Option.bind_eq_some_iff.mp found
    obtain ⟨⟨exponent, tail⟩, exponentFound, rest⟩ := Option.bind_eq_some_iff.mp rest
    obtain ⟨_, _, pair⟩ := Option.bind_eq_some_iff.mp rest
    obtain ⟨_, rfl⟩ := Prod.mk.inj (Option.some.inj pair)
    have afterPoint := length_scanFraction_le fractionFound
    have afterMark := length_scanExponent_le exponentFound
    -- A number without digits in front is refused.
    have nonempty : whole ≠ [] := by
      rintro rfl
      simp [isWhole] at valid
    have positive := List.length_pos_iff.mpr nonempty
    have parts := congrArg List.length (Decimal.splitDigits_append text)
    simp only [digitSplit, List.length_append] at parts
    omega
  · simp at found

/-- A token takes at least its first character. -/
theorem length_token?_le {c : Char} {rest after : List Char} {token : Token}
    (found : token? c rest = some (token, after)) : after.length ≤ rest.length := by
  -- Single characters leave the rest alone, words drop letters, and the others are scanned.
  have number {negative : Bool} {text : List Char}
      (mapped : (scanNumber negative text).map (fun (tree, after) => (Token.scalar tree, after)) =
        some (token, after)) : after.length < text.length := by
    obtain ⟨⟨tree, tail⟩, scanned, pair⟩ := Option.map_eq_some_iff.mp mapped
    obtain ⟨_, rfl⟩ := Prod.mk.inj pair
    exact length_scanNumber_lt scanned
  -- The cases are those of the first character.
  unfold token? at found
  split at found
  iterate 6
    · obtain ⟨_, rfl⟩ := Prod.mk.inj (Option.some.inj found)
      exact Nat.le_refl _
  · obtain ⟨⟨content, tail⟩, scanned, pair⟩ := Option.map_eq_some_iff.mp found
    obtain ⟨_, rfl⟩ := Prod.mk.inj pair
    exact Nat.le_of_lt (length_scanText_lt scanned)
  · exact Nat.le_of_lt (number found)
  iterate 3
    · split at found
      · obtain ⟨_, rfl⟩ := Prod.mk.inj (Option.some.inj found)
        exact (List.drop_suffix _ _).length_le
      · simp at found
  · exact Nat.le_of_lt_succ (number found)

/-- Whether a character may stand between tokens. -/
def isSpace (c : Char) : Bool := c = ' ' || c = '\t' || c = '\n' || c = '\r'

/-- The tokens of a text. -/
def tokens? (text : List Char) : Option (List Token) :=
  match text with
  | [] => some []
  | c :: rest =>
    if isSpace c then tokens? rest
    else
      match found : token? c rest with
      | none => none
      | some (token, after) =>
        have := length_token?_le found
        (tokens? after).map (token :: ·)
termination_by text.length
decreasing_by all_goals simp only [List.length_cons]; omega

end DynValue.Json
