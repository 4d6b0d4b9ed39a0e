import DynValue.Proofs.Value.Entries
import DynValue.Proofs.Value.Stream

/-!
Entries in buckets by the hash of their keys.

Equal keys have one hash, so that a key is looked for, written and removed in its own bucket alone, whatever the hash function.
-/

namespace DynValue.Entries

variable {hash : List UInt8 → UInt64}

/-- The entries whose keys have a given hash, in order. -/
def bucket (hash : List UInt8 → UInt64) (code : UInt64) (entries : Entries) : Entries :=
  entries.filter fun entry => hash entry.1.stream = code

/-- An entry is in the bucket of its hash. -/
theorem bucket_cons_of_eq {code : UInt64} (entry : Value × Value) (rest : Entries) (here : hash entry.1.stream = code) :
    bucket hash code (entry :: rest) = entry :: bucket hash code rest :=
  List.filter_cons_of_pos (decide_eq_true here)

/-- An entry is in no other bucket than that of its hash. -/
theorem bucket_cons_of_ne {code : UInt64} (entry : Value × Value) (rest : Entries)
    (elsewhere : hash entry.1.stream ≠ code) : bucket hash code (entry :: rest) = bucket hash code rest :=
  List.filter_cons_of_neg (by simpa using elsewhere)

/-- A key is found in the bucket of its hash as among all entries. -/
theorem find?_bucket (entries : Entries) (key : Value) :
    (bucket hash (hash key.stream) entries).find? key = entries.find? key := by
  induction entries with
  | nil => rfl
  | cons entry rest ih =>
    by_cases here : hash entry.1.stream = hash key.stream
    · rw [bucket_cons_of_eq _ _ here, find?_cons, find?_cons, ih]
    · -- An entry that is elsewhere cannot be the one looked for.
      have different : (key == entry.1) = false := by
        rw [Bool.eq_false_iff]
        exact fun equal => here (congrArg hash (Value.stream_eq_of_beq equal).symm)
      rw [bucket_cons_of_ne _ _ here, ih, find?_cons, different]
      rfl

/-- A text is found in the bucket of its hash, which is taken without building its value. -/
theorem findText?_bucket (entries : Entries) (text : String) :
    (bucket hash (hash (Value.textKeyStream text)) entries).findText? text = entries.findText? text := by
  -- The bytes of the text as a key are those of its value.
  rw [findText?_eq, findText?_eq]
  exact find?_bucket entries (.str text)

/-- An insertion is one into the bucket of its key. -/
theorem bucket_insert_self (entries : Entries) (key value : Value) :
    bucket hash (hash key.stream) (entries.insert key value) =
      (bucket hash (hash key.stream) entries).insert key value := by
  induction entries with
  | nil => exact bucket_cons_of_eq (key, value) [] rfl
  | cons entry rest ih =>
    rw [insert_cons]
    cases equal : key == entry.1 with
    | true =>
      -- The entry that is replaced is in the bucket, before and after.
      have here : hash entry.1.stream = hash key.stream := congrArg hash (Value.stream_eq_of_beq equal).symm
      rw [if_pos rfl, bucket_cons_of_eq (entry.1, value) rest here, bucket_cons_of_eq entry rest here, insert_cons, equal,
        if_pos rfl]
    | false =>
      rw [if_neg Bool.false_ne_true]
      by_cases here : hash entry.1.stream = hash key.stream
      · rw [bucket_cons_of_eq _ _ here, bucket_cons_of_eq _ _ here, insert_cons, equal, if_neg Bool.false_ne_true, ih]
      · rw [bucket_cons_of_ne _ _ here, bucket_cons_of_ne _ _ here, ih]

/-- An insertion does not show in the other buckets. -/
theorem bucket_insert_other {code : UInt64} {key : Value} (elsewhere : hash key.stream ≠ code) (entries : Entries)
    (value : Value) : bucket hash code (entries.insert key value) = bucket hash code entries := by
  induction entries with
  | nil => exact bucket_cons_of_ne (key, value) [] elsewhere
  | cons entry rest ih =>
    rw [insert_cons]
    cases equal : key == entry.1 with
    | true =>
      -- The entry that is replaced has the hash of the key, and so is not in the bucket.
      have other : hash entry.1.stream ≠ code := Value.stream_eq_of_beq equal ▸ elsewhere
      rw [if_pos rfl, bucket_cons_of_ne (entry.1, value) rest other, bucket_cons_of_ne entry rest other]
    | false =>
      rw [if_neg Bool.false_ne_true, bucket, List.filter_cons, ← bucket, ih, bucket, bucket, List.filter_cons]

/-- A removal is one from the bucket of its key. -/
theorem bucket_erase_self (entries : Entries) (key : Value) :
    bucket hash (hash key.stream) (entries.erase key) = (bucket hash (hash key.stream) entries).erase key := by
  -- Both are filters, which may change places.
  rw [bucket, erase, bucket, erase, List.filter_filter, List.filter_filter]
  exact List.filter_congr fun entry _ => Bool.and_comm ..

/-- A removal does not show in the other buckets. -/
theorem bucket_erase_other {code : UInt64} {key : Value} (elsewhere : hash key.stream ≠ code) (entries : Entries) :
    bucket hash code (entries.erase key) = bucket hash code entries := by
  rw [bucket, erase, bucket, List.filter_filter]
  refine List.filter_congr fun entry _ => ?_
  -- An entry that is removed has the hash of the key, and so is not in the bucket.
  cases equal : key == entry.1 with
  | true => simp [← Value.stream_eq_of_beq equal, elsewhere]
  | false => simp

/-- A table of buckets is a table of entries: every access by a key is one to the bucket of its hash. -/
structure Hashed (hash : List UInt8 → UInt64) (entries : Entries) : Prop where
  /-- A key is found in its bucket. -/
  found : ∀ key : Value, (bucket hash (hash key.stream) entries).find? key = entries.find? key
  /-- A text is found in the bucket of the hash that is taken of the text itself. -/
  foundText : ∀ text : String,
    (bucket hash (hash (Value.textKeyStream text)) entries).findText? text = entries.findText? text
  /-- An insertion changes the bucket of its key, by the same insertion, and no other one. -/
  inserted : ∀ (key value : Value) (code : UInt64), bucket hash code (entries.insert key value) =
    if hash key.stream = code then (bucket hash code entries).insert key value else bucket hash code entries
  /-- A removal changes the bucket of its key, by the same removal, and no other one. -/
  erased : ∀ (key : Value) (code : UInt64), bucket hash code (entries.erase key) =
    if hash key.stream = code then (bucket hash code entries).erase key else bucket hash code entries

/-- Whatever the hash function, buckets hold what the entries hold. -/
theorem hashed (hash : List UInt8 → UInt64) (entries : Entries) : Hashed hash entries where
  found := find?_bucket entries
  foundText := findText?_bucket entries
  -- A change of a bucket is a change of the entries in it, and no other bucket sees it.
  inserted key value code := by
    split
    case isTrue here => exact here ▸ bucket_insert_self entries key value
    case isFalse elsewhere => exact bucket_insert_other elsewhere entries value
  erased key code := by
    split
    case isTrue here => exact here ▸ bucket_erase_self entries key
    case isFalse elsewhere => exact bucket_erase_other elsewhere entries

end DynValue.Entries
