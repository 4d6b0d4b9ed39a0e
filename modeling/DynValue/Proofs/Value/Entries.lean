import DynValue.Proofs.Value.Equality

/-! Looking up, inserting and removing entries: a change is seen under its own key and under no other. -/

namespace DynValue.Entries

/-- The search for a key stops at the first entry whose key equals it. -/
theorem find?_cons (key : Value) (entry : Value × Value) (rest : Entries) :
    find? (entry :: rest) key = if key == entry.1 then some entry.2 else find? rest key := by
  -- The look-up compares the key with that of the first entry.
  obtain ⟨other, value⟩ := entry
  rw [find?, List.lookup_cons]
  cases key == other <;> rfl

/-- An insertion replaces the first entry whose key equals the given one. -/
theorem insert_cons (key value : Value) (entry : Value × Value) (rest : Entries) :
    insert (entry :: rest) key value =
      if key == entry.1 then (entry.1, value) :: rest else entry :: insert rest key value := rfl

/-- The value inserted last is found under its key. -/
theorem find?_insert_self {key : Value} (reflexive : (key == key) = true) (entries : Entries)
    (value : Value) : find? (insert entries key value) key = some value := by
  induction entries with
  | nil => simp [insert, find?_cons, reflexive]
  | cons entry rest ih =>
    rw [insert_cons]
    -- The entry that is replaced keeps its key, so that the search stops at it again.
    cases equal : key == entry.1 with
    | true => simp [find?_cons, equal]
    | false => simp [find?_cons, equal, ih]

/-- What is found under other keys does not change, if no key of the entries equals both. -/
theorem find?_insert_other {key other : Value} (different : (other == key) = false) {entries : Entries}
    (apart : ∀ entry ∈ entries, (key == entry.1) = true → (other == entry.1) = false) (value : Value) :
    find? (insert entries key value) other = find? entries other := by
  induction entries with
  | nil => simp [insert, find?_cons, different]
  | cons entry rest ih =>
    obtain ⟨head, tail⟩ := List.forall_mem_cons.mp apart
    rw [insert_cons]
    cases equal : key == entry.1 with
    | true =>
      -- The search passes over the entry that is replaced, whatever its value.
      simp [find?_cons, head equal]
    | false => simp [find?_cons, ih tail]

/-- Putting back what is found under a key changes nothing. -/
theorem insert_of_find? {entries : Entries} {key value : Value}
    (found : find? entries key = some value) : insert entries key value = entries := by
  induction entries with
  | nil => simp [find?] at found
  | cons entry rest ih =>
    rw [find?_cons] at found
    rw [insert_cons]
    -- The search and the insertion stop at the same entry.
    cases equal : key == entry.1 with
    | true =>
      simp only [equal, if_true, Option.some.injEq] at found
      simp [← found]
    | false =>
      simp only [equal, Bool.false_eq_true, if_false] at found
      simp [ih found]

/-- An insertion under a present key changes the value of the first entry with an equal key, and nothing else. -/
theorem exists_split_of_find? {entries : Entries} {key value : Value}
    (found : find? entries key = some value) :
    ∃ front other back, entries = front ++ (other, value) :: back ∧ (key == other) = true ∧
      (∀ entry ∈ front, (key == entry.1) = false) ∧
      ∀ new, insert entries key new = front ++ (other, new) :: back := by
  -- The entries in front of the split are those that the search has passed over.
  induction entries with
  | nil => simp [find?] at found
  | cons entry rest ih =>
    rw [find?_cons] at found
    cases head : key == entry.1 with
    | true =>
      simp only [head, if_true, Option.some.injEq] at found
      subst found
      exact ⟨[], entry.1, rest, rfl, head, by simp, fun new => by simp [insert_cons, head]⟩
    | false =>
      -- The search passes over the first entry, and so does the insertion.
      simp only [head, Bool.false_eq_true, if_false] at found
      obtain ⟨front, other, back, rfl, equal, passed, changed⟩ := ih found
      refine ⟨entry :: front, other, back, rfl, equal, ?_, ?_⟩
      · exact List.forall_mem_cons.mpr ⟨head, passed⟩
      · intro new
        simp [insert_cons, head, changed new]

/-- A key that is missing is added at the end. -/
theorem insert_of_missing {entries : Entries} {key : Value} (missing : find? entries key = none)
    (value : Value) : insert entries key value = entries ++ [(key, value)] := by
  -- No key on the way equals the new one, so that the end is reached.
  induction entries with
  | nil => rfl
  | cons entry rest ih =>
    rw [find?_cons] at missing
    rw [insert_cons]
    cases equal : key == entry.1 with
    | true => simp [equal] at missing
    | false =>
      simp only [equal, Bool.false_eq_true, if_false] at missing
      simp [ih missing]

/-- Of two insertions under one key the second stands. -/
theorem insert_insert {key : Value} (reflexive : (key == key) = true) (entries : Entries)
    (first second : Value) :
    insert (insert entries key first) key second = insert entries key second := by
  induction entries with
  | nil => simp [insert, reflexive]
  | cons entry rest ih =>
    rw [insert_cons, insert_cons]
    -- The second insertion stops where the first one did, since the entry there kept its key.
    cases equal : key == entry.1 with
    | true => simp [insert_cons, equal]
    | false => simp [insert_cons, equal, ih]

/-- Equal keys find the same value. -/
theorem find?_congr {key other : Value} {entries : Entries}
    (agree : ∀ entry ∈ entries, (key == entry.1) = (other == entry.1)) :
    find? entries key = find? entries other := by
  -- Both searches decide in the same way at every entry.
  induction entries with
  | nil => rfl
  | cons entry rest ih =>
    obtain ⟨head, tail⟩ := List.forall_mem_cons.mp agree
    rw [find?_cons, find?_cons, head, ih tail]

/-- A key is missing when it equals the key of no entry. -/
theorem find?_eq_none_iff {entries : Entries} {key : Value} :
    find? entries key = none ↔ ∀ entry ∈ entries, (key == entry.1) = false := by
  -- The search fails if it stops at no entry.
  induction entries with
  | nil => simp [find?]
  | cons entry rest ih =>
    rw [find?_cons, List.forall_mem_cons, ← ih]
    cases key == entry.1 <;> simp

/-- What is found under a key is the value of an entry with an equal key. -/
theorem mem_of_find? {entries : Entries} {key value : Value} (found : find? entries key = some value) :
    ∃ other, (other, value) ∈ entries ∧ (key == other) = true := by
  -- The entries are split where the search has stopped.
  obtain ⟨front, other, back, rfl, equal, _, _⟩ := exists_split_of_find? found
  exact ⟨other, by simp, equal⟩

/-- The removal of a key that is missing changes nothing. -/
theorem erase_of_missing {entries : Entries} {key : Value} (missing : find? entries key = none) :
    erase entries key = entries := by
  -- No entry has an equal key, so that all of them are kept.
  rw [erase, List.filter_eq_self]
  intro entry member
  rw [find?_eq_none_iff.mp missing entry member]
  rfl

end DynValue.Entries
