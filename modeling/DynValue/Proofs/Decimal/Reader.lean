import DynValue.Decimal.Layout
import DynValue.Decimal.Reader

/-! Numbers that are written with digits, a point and an exponent read back part by part. -/

namespace DynValue.Decimal

/-- Digits in front of something else are split off as they are. -/
theorem splitDigits_digits {digits rest : List Char} (all : digits.all Char.isDigit = true)
    (stops : ∀ c ∈ rest.head?, c.isDigit = false) : splitDigits (digits ++ rest) = (digits, rest) := by
  rw [List.all_eq_true] at all
  -- All of the digits are taken, and nothing of what follows them.
  have none : rest.takeWhile Char.isDigit = [] ∧ rest.dropWhile Char.isDigit = rest := by
    cases rest with
    | nil => simp
    | cons c rest => simp [stops c rfl]
  rw [splitDigits, List.takeWhile_append_of_pos all, List.dropWhile_append_of_pos all, none.1, none.2,
    List.append_nil]

/-- The codes of digits are consecutive. -/
theorem toNat_of_isDigit {c : Char} (digit : c.isDigit = true) : 48 ≤ c.toNat ∧ c.toNat ≤ 57 := by
  -- The digits are a range of characters, whose ends have these codes.
  simpa [Char.isDigit, UInt32.le_iff_toNat_le] using digit

/-- A natural number is written with digits only. -/
theorem all_isDigit_toDigits (n : Nat) : (Nat.toDigits 10 n).all Char.isDigit = true := by
  -- In the base ten every digit has one of the ten characters.
  rw [List.all_eq_true]
  exact fun c member => Nat.isDigit_of_mem_toDigits (by decide) (by decide) member

/-- The digits of a positive number do not start with a zero. -/
theorem head?_toDigits {n : Nat} (positive : 0 < n) : (Nat.toDigits 10 n).head? ≠ some '0' := by
  -- The leading digit is the one of the number without its last digit, down to a single digit.
  induction n using Nat.strongRecOn with
  | ind n ih =>
    by_cases small : n < 10
    · rw [Nat.toDigits_of_lt_base small, List.head?_cons, ne_eq, Option.some.injEq, Nat.digitChar_eq_zero]
      omega
    · have shorter := ih (n / 10) (by omega) (by omega)
      obtain ⟨leading, rest, digits⟩ := List.exists_cons_of_ne_nil (Nat.toDigits_ne_nil (n := n / 10) (b := 10))
      rw [Nat.toDigits_of_base_le (by decide) (by omega), digits]
      rwa [digits] at shorter

/-- The digits of a natural number read back, zeros in front of them adding nothing. -/
theorem readNatural?_padded (zeros n : Nat) :
    readNatural? (List.replicate zeros '0' ++ Nat.toDigits 10 n) = some n := by
  -- Read from the left, zeros keep the number at zero until its own digits come.
  have nonempty : List.replicate zeros '0' ++ Nat.toDigits 10 n ≠ [] := by simp [Nat.toDigits_ne_nil]
  have all : (List.replicate zeros '0' ++ Nat.toDigits 10 n).all Char.isDigit = true := by
    simp [all_isDigit_toDigits]
  rw [readNatural?, if_pos ⟨nonempty, all⟩, Nat.ofDigitChars_append, Nat.ofDigitChars_replicate_zero,
    Nat.mul_zero, Nat.ofDigitChars_ten_toDigits]

/-- Digits do not start with a sign. -/
theorem splitSign_padded (zeros n : Nat) :
    splitSign (List.replicate zeros '0' ++ Nat.toDigits 10 n) =
      (false, List.replicate zeros '0' ++ Nat.toDigits 10 n) := by
  -- The first character is a digit, or there is none.
  have all : (List.replicate zeros '0' ++ Nat.toDigits 10 n).all Char.isDigit = true := by
    simp [all_isDigit_toDigits]
  unfold splitSign
  split <;> simp_all

/-- A number without a sign reads back as itself, and behind a minus as its negative. -/
theorem readInteger?_padded (zeros n : Nat) :
    readInteger? (List.replicate zeros '0' ++ Nat.toDigits 10 n) = some (n : Int) ∧
      readInteger? ('+' :: (List.replicate zeros '0' ++ Nat.toDigits 10 n)) = some (n : Int) ∧
      readInteger? ('-' :: (List.replicate zeros '0' ++ Nat.toDigits 10 n)) = some (-n : Int) := by
  -- The digits read back as the number, and the sign is split off before they are looked at.
  have digits := readNatural?_padded zeros n
  have unsigned := splitSign_padded zeros n
  generalize List.replicate zeros '0' ++ Nat.toDigits 10 n = text at *
  refine ⟨?_, ?_, ?_⟩
  · simp [readInteger?, unsigned, digits]
  · simp [readInteger?, splitSign, digits]
  · simp [readInteger?, splitSign, digits]

/-- An integer reads back from its text. -/
theorem readInteger?_integerText (n : Int) : readInteger? (integerText n) = some n := by
  -- The text has a minus for negative integers and no sign otherwise, and no zeros in front.
  obtain ⟨plain, _, negative⟩ := readInteger?_padded 0 n.natAbs
  simp only [List.replicate_zero, List.nil_append] at plain negative
  unfold integerText
  dsimp only
  split
  · rw [negative]
    congr 1
    omega
  · rw [plain]
    congr 1
    omega

/-- An exponent reads back in every layout. -/
theorem readInteger?_exponentText (layout : Layout) (exponent : Int) :
    readInteger? (layout.exponentText exponent) = some exponent := by
  -- The layout chooses how many zeros stand in front and whether there is a plus; neither changes what is read.
  unfold Layout.exponentText
  dsimp only
  obtain ⟨plain, positive, negative⟩ := readInteger?_padded
    (layout.exponentWidth - (Nat.toDigits 10 exponent.natAbs).length) exponent.natAbs
  split
  · rw [negative]
    congr 1
    omega
  · have size : (exponent.natAbs : Int) = exponent := by omega
    split
    · rw [positive, size]
    · rw [plain, size]

/-- An exponent starts with its mark. -/
theorem mark_of_readExponent? {tail : List Char} {exponent : Int}
    (reads : readExponent? tail = some exponent) : ∀ c ∈ tail.head?, c = 'e' ∨ c = 'E' := by
  -- A text that starts with something else is rejected.
  cases tail with
  | nil => simp
  | cons mark rest =>
    simp only [readExponent?] at reads
    split at reads
    · rename_i isMark
      simpa using isMark
    · cases reads

/-- The mark of an exponent is no digit. -/
theorem stops_of_readExponent? {tail : List Char} {exponent : Int}
    (reads : readExponent? tail = some exponent) : ∀ c ∈ tail.head?, c.isDigit = false := by
  -- Neither of the two marks is a digit.
  intro c head
  rcases mark_of_readExponent? reads c head with rfl | rfl <;> rfl

/-- Digits in front of an exponent read as a whole number of powers of ten. -/
theorem readUnsigned?_whole {whole tail : List Char} {exponent : Int} (nonempty : whole ≠ [])
    (all : whole.all Char.isDigit = true) (reads : readExponent? tail = some exponent) :
    readUnsigned? (whole ++ tail) = some ⟨Nat.ofDigitChars 10 whole 0, exponent⟩ := by
  unfold readUnsigned?
  rw [splitDigits_digits all (stops_of_readExponent? reads)]
  dsimp only
  -- The mark of an exponent is no point, so that there are no digits behind one.
  split
  · rcases mark_of_readExponent? reads '.' rfl with mark | mark <;> cases mark
  · simp [nonempty, reads]

/-- Digits around a point read as one number, whose last digit stands as far behind the ones as it is from the point. -/
theorem readUnsigned?_fraction {whole fraction tail : List Char} {exponent : Int} (nonempty : whole ≠ [])
    (allWhole : whole.all Char.isDigit = true) (allFraction : fraction.all Char.isDigit = true)
    (reads : readExponent? tail = some exponent) :
    readUnsigned? (whole ++ '.' :: (fraction ++ tail)) =
      some ⟨Nat.ofDigitChars 10 (whole ++ fraction) 0, exponent - fraction.length⟩ := by
  -- The digits in front end at the point, and those behind it at the mark of the exponent or at the end.
  have before : splitDigits (whole ++ '.' :: (fraction ++ tail)) = (whole, '.' :: (fraction ++ tail)) :=
    splitDigits_digits allWhole (by simp)
  have behind : splitDigits (fraction ++ tail) = (fraction, tail) :=
    splitDigits_digits allFraction (stops_of_readExponent? reads)
  simp [readUnsigned?, before, behind, nonempty, reads]

end DynValue.Decimal
