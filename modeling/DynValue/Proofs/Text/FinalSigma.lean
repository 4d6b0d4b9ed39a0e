import DynValue.Text.Case
import DynValue.Value.Methods
import Mathlib.Data.List.Forall2

/-!
Capitalizing a text agrees with the upper and lower case of its parts, up to capital sigmas at the end of words.

The lower case of a whole text looks at the surroundings of a sigma, and capitalizing looks at one character at a time. No
other character is treated differently by the two.
-/

namespace DynValue.Text

/-! ## Sigmas at the end of words -/

/-- The first character that is not passed over has a case. -/
def LeadsCased (text : List Char) : Prop :=
  ∃ passed c rest, text = passed ++ c :: rest ∧ (∀ d ∈ passed, isCaseIgnorable d = true) ∧
    isCaseIgnorable c = false ∧ isCased c = true

/-- What stands between two texts is the last letter of a word: another goes before it, and none comes after it. -/
def EndsWord (before after : List Char) : Prop := LeadsCased before.reverse ∧ ¬LeadsCased after

/-- A capital sigma in the text is the last letter of a word. -/
def HasFinalSigma (text : List Char) : Prop :=
  ∃ before after, text = before ++ 'Σ' :: after ∧ EndsWord before after

/-- The test looks past characters that do not count and finds a letter with case exactly if there is one. -/
theorem meetsCased_iff (text : List Char) : meetsCased text = true ↔ LeadsCased text := by
  rw [meetsCased]
  constructor
  · intro meets
    -- What is passed over is the longest piece in front in which every character is.
    cases stopped : text.dropWhile isCaseIgnorable with
    | nil => simp [stopped] at meets
    | cons c rest =>
      refine ⟨text.takeWhile isCaseIgnorable, c, rest, ?_, ?_, ?_, ?_⟩
      · rw [← stopped, List.takeWhile_append_dropWhile]
      · exact List.all_eq_true.mp List.all_takeWhile
      · have head := List.head?_dropWhile_not isCaseIgnorable text
        simpa [stopped] using head
      · simpa [stopped] using meets
  · -- Whatever may be passed over is, and the next character may not.
    rintro ⟨passed, c, rest, rfl, ignorable, stop, cased⟩
    rw [List.dropWhile_append_of_pos ignorable, List.dropWhile_cons_of_neg (by simp [stop])]
    exact cased

/-- A capital sigma has two lower-case forms, and the one that also stands inside words is not for the end of one. -/
theorem lowerSigma_eq_iff (before after : List Char) :
    lowerSigma before.reverse after = 'σ' ↔ ¬EndsWord before after := by
  -- The form is chosen by what the two scans away from the sigma meet.
  rw [EndsWord, ← meetsCased_iff, ← meetsCased_iff, lowerSigma]
  cases meetsCased before.reverse <;> cases meetsCased after <;> decide

/-- By itself a capital sigma becomes the form inside words. -/
theorem lowerChar_sigma : lowerChar 'Σ' = ['σ'] := by
  -- The table gives the form inside words, whatever surrounds the letter.
  decide

/-! ## Lower case in context and by itself -/

/-- The lower-case form of a character that follows a text, read backward, and is followed by another. -/
def lowerBetween (before : List Char) (c : Char) (after : List Char) : List Char :=
  if c = 'Σ' then [lowerSigma before after] else lowerChar c

/-- The lower case of a text is that of its first character in context and of the rest behind it. -/
theorem lowerAfter_cons (before : List Char) (c : Char) (rest : List Char) :
    lowerAfter before (c :: rest) = lowerBetween before c rest ++ lowerAfter (c :: before) rest := rfl

/-- In context a character becomes as many characters as by itself. -/
theorem length_lowerBetween (before : List Char) (c : Char) (after : List Char) :
    (lowerBetween before c after).length = (lowerChar c).length := by
  -- Both lower forms of a sigma are one character, and no other character looks at its surroundings.
  rw [lowerBetween]
  split
  · rename_i sigma
    rw [sigma, lowerChar_sigma]
    rfl
  · rfl

/-- Context changes the lower case of a character only if it is a capital sigma that ends a word. -/
theorem lowerBetween_eq_iff (before : List Char) (c : Char) (after : List Char) :
    lowerBetween before.reverse c after = lowerChar c ↔ ¬(c = 'Σ' ∧ EndsWord before after) := by
  -- The sigma is the only character for which the surroundings are looked at.
  rw [lowerBetween]
  split
  · rename_i sigma
    rw [sigma, lowerChar_sigma, List.singleton_inj, lowerSigma_eq_iff]
    simp
  · rename_i other
    simp [other]

/-- Character by character a text becomes what it becomes in context unless a sigma in it ends a word. -/
theorem lowerAfter_eq_iff (context text : List Char) :
    lowerAfter context.reverse text = text.flatMap lowerChar ↔
      ∀ before after, text = before ++ 'Σ' :: after → ¬EndsWord (context ++ before) after := by
  -- The context grows by each character that is passed, so that the sigma sees all that goes before it.
  induction text generalizing context with
  | nil => simp [lowerAfter]
  | cons c rest ih =>
    have grown := ih (context ++ [c])
    rw [List.reverse_append, List.reverse_singleton, List.singleton_append] at grown
    -- Pieces of one length are equal one by one.
    have pieces : lowerAfter context.reverse (c :: rest) = (c :: rest).flatMap lowerChar ↔
        lowerBetween context.reverse c rest = lowerChar c ∧
          lowerAfter (c :: context.reverse) rest = rest.flatMap lowerChar := by
      rw [lowerAfter_cons, List.flatMap_cons]
      exact ⟨fun same => List.append_inj same (length_lowerBetween _ _ _), fun ⟨first, others⟩ => by rw [first, others]⟩
    rw [pieces, lowerBetween_eq_iff, grown]
    constructor
    · rintro ⟨here, later⟩ before after parts
      cases before with
      | nil =>
        -- The sigma is the first character, and all that goes before it is the context.
        obtain ⟨rfl, rfl⟩ := List.cons.inj parts
        rw [List.append_nil]
        exact fun ends => here ⟨rfl, ends⟩
      | cons d before =>
        -- The sigma comes later, behind a context that has grown by the first character.
        obtain ⟨rfl, rfl⟩ := List.cons.inj parts
        have further := later before after rfl
        rwa [List.append_assoc, List.singleton_append] at further
    · intro none
      refine ⟨?_, ?_⟩
      · rintro ⟨rfl, ends⟩
        exact none [] rest rfl (by rwa [List.append_nil])
      · rintro before after rfl
        rw [List.append_assoc, List.singleton_append]
        exact none (c :: before) after rfl

/-- The form of a character inside words, which the form for the end of a word may be exchanged for. -/
def Loosened (inContext alone : Char) : Prop := alone = inContext ∨ inContext = 'ς' ∧ alone = 'σ'

/-- In context and by itself, a character becomes the same but for the form of a sigma. -/
theorem loosened_lowerBetween (before : List Char) (c : Char) (after : List Char) :
    List.Forall₂ Loosened (lowerBetween before c after) (lowerChar c) := by
  rw [lowerBetween]
  split
  · rename_i sigma
    rw [sigma, lowerChar_sigma, lowerSigma]
    -- The form for the end of a word is the only one that is exchanged.
    split
    · exact .cons (.inr ⟨rfl, rfl⟩) .nil
    · exact .cons (.inl rfl) .nil
  · exact List.forall₂_same.mpr fun d _ => .inl rfl

/-- In context and by itself, every character becomes the same but for the form of a sigma. -/
theorem loosened_lowerAfter (before text : List Char) :
    List.Forall₂ Loosened (lowerAfter before text) (text.flatMap lowerChar) := by
  -- What is already passed grows by the character, and the results are compared piece by piece.
  induction text generalizing before with
  | nil => exact .nil
  | cons c rest ih =>
    rw [lowerAfter_cons, List.flatMap_cons]
    exact List.rel_append (loosened_lowerBetween before c rest) (ih (c :: before))

/-- Character by character a whole text becomes its lower case unless a sigma in it ends a word. -/
theorem lower_eq_iff (text : List Char) : lower text = text.flatMap lowerChar ↔ ¬HasFinalSigma text := by
  -- Nothing goes before a whole text.
  have empty := lowerAfter_eq_iff [] text
  simp only [List.reverse_nil, List.nil_append] at empty
  rw [lower, empty, HasFinalSigma]
  simp only [not_exists, not_and]

end DynValue.Text

namespace DynValue.Value

open Text

/-- Behind the first character every other one is put into lower case by itself. -/
theorem capitalize_cons (c : Char) (rest : String) :
    (Value.str (String.singleton c ++ rest)).capitalize =
      (Value.str (String.singleton c)).upper ++ String.ofList (rest.toList.flatMap lowerChar) := by
  -- The first character is put into upper case alone, and a text of one character is the same as that character.
  show String.ofList (Text.capitalize (String.singleton c ++ rest).toList) =
    String.ofList (Text.upper (String.singleton c).toList) ++ _
  rw [String.toList_append, String.toList_singleton, List.singleton_append, Text.capitalize, Text.upper,
    List.flatMap_singleton, String.ofList_append]

/-- The characters of a text in lower case are its characters in lower case. -/
theorem toList_lower (text : String) : (Value.str text).lower.toList = Text.lower text.toList :=
  String.toList_ofList

/--
A capitalized text is the upper case of its first character and the lower case of the others, unless a capital sigma among
these is the last letter of a word.

Such a sigma gets the form that it has inside words. Nothing else is ever different.
-/
theorem capitalize_eq_upper_lower_iff (c : Char) (rest : String) :
    ((Value.str (String.singleton c ++ rest)).capitalize =
        (Value.str (String.singleton c)).upper ++ (Value.str rest).lower ↔ ¬HasFinalSigma rest.toList) ∧
      ∃ others : String, (Value.str (String.singleton c ++ rest)).capitalize =
          (Value.str (String.singleton c)).upper ++ others ∧
        List.Forall₂ Loosened (Value.str rest).lower.toList others.toList := by
  refine ⟨?_, String.ofList (rest.toList.flatMap lowerChar), capitalize_cons c rest, ?_⟩
  · -- Both sides start with the same upper case, so that the rest of them decides.
    rw [capitalize_cons, ← lower_eq_iff, ← String.toList_inj, String.toList_append, String.toList_append,
      List.append_cancel_left_eq, String.toList_ofList, toList_lower]
    exact eq_comm
  · rw [toList_lower, String.toList_ofList]
    exact loosened_lowerAfter [] rest.toList

/-- A sigma that ends a word is not put into the form for the end of a word, as the lower case of the others has it. -/
theorem capitalize_final_sigma :
    (Value.str "ΟΔΟΣ").capitalize = "Οδοσ" ∧ (Value.str "Ο").upper ++ (Value.str "ΔΟΣ").lower = "Οδος" ∧
      (Value.str "ΟΔΟΣ").capitalize ≠ (Value.str "Ο").upper ++ (Value.str "ΔΟΣ").lower := by
  -- The two spellings differ in their last letter.
  decide +kernel

end DynValue.Value
