import DynValue.Json.Token
import DynValue.Text.Quoted

/-!
Quoted texts read back.

A reader that knows the escapes finds the quote that ends a text, so that the quoted form determines the text whatever
follows it.
-/

namespace DynValue.Text.Quoted

/-- The character of an escape of one letter. -/
def escaped? : Char → Option Char
  | '\\' => some '\\'
  | 'n' => some '\n'
  | 'r' => some '\r'
  | 't' => some '\t'
  | '\'' => some '\''
  | '"' => some '"'
  | _ => none

/-- The character of an escape of two hexadecimal digits. -/
def hexEscaped? (high low : Char) : Option Char := do
  let high ← Json.hexDigit? high
  let low ← Json.hexDigit? low
  return Char.ofNat (16 * high + low)

/-- The text up to the first quote that is not escaped, and what follows the quote. -/
def readBody? (quote : Char) : List Char → Option (List Char × List Char)
  | [] => none
  | '\\' :: 'x' :: high :: low :: rest =>
    (hexEscaped? high low).bind fun c => (readBody? quote rest).map (Prod.map (c :: ·) id)
  | '\\' :: mark :: rest =>
    (escaped? mark).bind fun c => (readBody? quote rest).map (Prod.map (c :: ·) id)
  | c :: rest =>
    if c = quote then some ([], rest) else (readBody? quote rest).map (Prod.map (c :: ·) id)

/-- The text between two quotes of one kind, and what follows them. -/
def read? : List Char → Option (List Char × List Char)
  | [] => none
  | quote :: rest => if quote = '\'' ∨ quote = '"' then readBody? quote rest else none

/-- A character that starts no escape ends the text or stands for itself. -/
theorem readBody?_cons {c : Char} (plain : c ≠ '\\') (quote : Char) (rest : List Char) :
    readBody? quote (c :: rest) =
      if c = quote then some ([], rest) else (readBody? quote rest).map (Prod.map (c :: ·) id) := by
  -- Of the cases of the reader, only a backslash looks at more than one character.
  rw [readBody?.eq_def]
  split <;> simp_all

/-- The quote of a text is one of the two. -/
theorem quoteFor_cases (text : List Char) : quoteFor text = '\'' ∨ quoteFor text = '"' := by
  -- Double quotes are chosen in one case and single ones in all others.
  unfold quoteFor
  split <;> simp

/-- A digit below sixteen reads back. -/
theorem hexDigit?_digitChar {n : Nat} (small : n < 16) : Json.hexDigit? (Nat.digitChar n) = some n := by
  -- Each of the sixteen digits is looked up, and there is no seventeenth.
  rcases n with _ | _ | _ | _ | _ | _ | _ | _ | _ | _ | _ | _ | _ | _ | _ | _ | n
  all_goals first | rfl | omega

/-- The code of a control character takes no more than two hexadecimal digits. -/
theorem toNat_lt_of_isControl {c : Char} (control : isControl c = true) : c.toNat < 256 := by
  -- The last control character has the code 159.
  simp only [isControl, Bool.or_eq_true, Bool.and_eq_true, decide_eq_true_eq] at control
  omega

/-- The two digits of a control character read back as the character. -/
theorem hexEscaped?_digits {c : Char} (control : isControl c = true) :
    hexEscaped? (Nat.digitChar (c.toNat / 16)) (Nat.digitChar (c.toNat % 16)) = some c := by
  -- Both digits are below sixteen, and together they are the code again.
  have small := toNat_lt_of_isControl control
  have digits : 16 * (c.toNat / 16) + c.toNat % 16 = c.toNat := Nat.div_add_mod ..
  simp [hexEscaped?, hexDigit?_digitChar (show c.toNat / 16 < 16 by omega),
    hexDigit?_digitChar (show c.toNat % 16 < 16 by omega), digits, Char.ofNat_toNat]

/-- The written form of a character reads back as the character, in front of any rest. -/
theorem readBody?_encodeChar {quote : Char} (isQuote : quote = '\'' ∨ quote = '"') (c : Char)
    (rest : List Char) :
    readBody? quote (encodeChar quote c ++ rest) = (readBody? quote rest).map (Prod.map (c :: ·) id) := by
  unfold encodeChar
  split
  -- The backslash and the three whitespace characters have escapes of one letter.
  · simp [readBody?, escaped?]
  · simp [readBody?, escaped?]
  · simp [readBody?, escaped?]
  · simp [readBody?, escaped?]
  · rename_i backslash _ _ _
    split
    · rename_i same
      -- The quote itself is escaped, so that it does not end the text.
      subst same
      rcases isQuote with rfl | rfl <;> simp [readBody?, escaped?]
    · rename_i different
      split
      · -- A control character is written by its code.
        rename_i control
        simp [readBody?, hexEscaped?_digits control]
      · rw [List.singleton_append, readBody?_cons backslash, if_neg different]

/-- A text written inside a quote reads back up to the quote that ends it. -/
theorem readBody?_encode {quote : Char} (isQuote : quote = '\'' ∨ quote = '"') (text rest : List Char) :
    readBody? quote (text.flatMap (encodeChar quote) ++ quote :: rest) = some (text, rest) := by
  -- Character after character is taken off in front, and the quote behind them is not escaped.
  induction text with
  | nil => rcases isQuote with rfl | rfl <;> simp [readBody?]
  | cons c text ih => simp [readBody?_encodeChar isQuote, ih]

/-- A quoted text reads back as the text, and what follows it is left. -/
theorem read?_encode (text rest : List Char) : read? (encode text ++ rest) = some (text, rest) := by
  -- The text is opened by one of the two quotes, and reading the body ends at the same one.
  have isQuote := quoteFor_cases text
  simp [encode, read?, isQuote, readBody?_encode isQuote]

/-- The quoted form determines the text, whatever follows it. -/
theorem encode_append_inj {s t u v : List Char} (same : encode s ++ u = encode t ++ v) : s = t ∧ u = v := by
  -- The reader gives back the text and the rest, and it reads the same characters on both sides.
  have reads := read?_encode s u
  rw [same, read?_encode t v] at reads
  simpa [eq_comm] using reads

end DynValue.Text.Quoted
