import DynValue.Proofs.Value.Equality
import DynValue.Value.Stream
import Mathlib.Algebra.Group.Nat.Defs

/-!
The bytes of a value end by themselves and determine it up to the entries of its dicts.

Every part of the bytes has a fixed width, announces its length, or is ended by a byte that it does not contain, so that
what follows a value cannot be taken for a part of it.
-/

namespace DynValue.Value

mutual

/-- The value with the entries of every dict in it taken away. -/
def hollow : Value → Value
  | .list items => .list (hollowItems items)
  | .tuple items => .tuple (hollowItems items)
  | .dict _ => .dict []
  | other => other

/-- The elements with the entries of every dict in them taken away. -/
def hollowItems : List Value → List Value
  | [] => []
  | item :: rest => hollow item :: hollowItems rest

end

mutual

/-- The greatest length of a list or tuple in the value, those inside of dicts left aside. -/
def longest : Value → Nat
  | .list items => max items.length (longestItems items)
  | .tuple items => max items.length (longestItems items)
  | _ => 0

/-- The greatest length of a list or tuple in the elements. -/
def longestItems : List Value → Nat
  | [] => 0
  | item :: rest => max (longest item) (longestItems rest)

end

mutual

/-- Whether there is no dict in the value. -/
def isDictFree : Value → Bool
  | .list items => areDictFree items
  | .tuple items => areDictFree items
  | .dict _ => false
  | _ => true

/-- Whether there is no dict in the elements. -/
def areDictFree : List Value → Bool
  | [] => true
  | item :: rest => isDictFree item && areDictFree rest

end

/-- What the loop of bytes to a list has still to add are the bytes from its position on. -/
theorem byteArray_toList_loop (bytes : ByteArray) (position : Nat) (seen : List UInt8) :
    ByteArray.toList.loop bytes position seen = seen.reverse ++ bytes.data.toList.drop position := by
  -- Each step moves one byte from those still to come to those seen.
  fun_induction ByteArray.toList.loop bytes position seen with
  | case1 position seen inside ih =>
    have inside : position < bytes.data.toList.length := inside
    have byte : bytes.get! position = bytes.data.toList[position] :=
      getElem!_pos bytes.data position inside
    rw [ih, byte, List.reverse_cons, List.append_assoc, List.drop_eq_getElem_cons inside]
    rfl
  | case2 position seen outside =>
    have outside : bytes.data.toList.length ≤ position := Nat.le_of_not_lt outside
    rw [List.drop_eq_nil_of_le outside, List.append_nil]

/-- The bytes of a text are those of its characters one after the other. -/
theorem utf8_toList (text : String) :
    text.toUTF8.toList = text.toList.flatMap String.utf8EncodeChar := by
  -- The text is kept as the encodings of its characters.
  rw [ByteArray.toList, byteArray_toList_loop, String.toUTF8_eq_toByteArray, ← String.utf8Encode_toList,
    List.utf8Encode, List.toList_data_toByteArray]
  rfl

/-- The bytes determine a text. -/
theorem utf8_inj {s t : String} (same : s.toUTF8.toList = t.toUTF8.toList) : s = t := by
  -- Lists of bytes are told apart as the arrays they are taken from.
  have data (text : String) : text.toUTF8.toList = text.toByteArray.data.toList := by
    rw [ByteArray.toList, byteArray_toList_loop]
    rfl
  rw [data, data, Array.toList_inj] at same
  exact String.toByteArray_inj.mp (ByteArray.ext same)

/-- The byte that ends a text is no byte of a character. -/
theorem end_notMem_utf8EncodeChar (c : Char) : (0xFF : UInt8) ∉ String.utf8EncodeChar c := by
  -- A first byte is below 0xF8 and a further one below 0xC0, for one to four bytes.
  unfold String.utf8EncodeChar
  generalize c.val.toNat = code
  dsimp only
  split
  · simp [← UInt8.toNat_inj]
    omega
  · split
    · simp [← UInt8.toNat_inj]
      omega
    · split <;> simp [← UInt8.toNat_inj] <;> omega

/-- The byte that ends a text is no byte of a text. -/
theorem end_notMem_utf8 (text : String) : (0xFF : UInt8) ∉ text.toUTF8.toList := by
  -- The byte is none of those that the encoding of a character consists of.
  rw [utf8_toList, List.mem_flatMap]
  rintro ⟨c, _, member⟩
  exact end_notMem_utf8EncodeChar c member

/-- Lists that are ended by something they do not contain can be told from what follows. -/
theorem append_end_inj {α : Type} {stop : α} {xs ys u v : List α} (first : stop ∉ xs) (second : stop ∉ ys)
    (same : xs ++ stop :: u = ys ++ stop :: v) : xs = ys ∧ u = v := by
  -- If one list ended before the other, the other would contain the end.
  induction xs generalizing ys with
  | nil =>
    cases ys with
    | nil => exact ⟨rfl, by simpa using same⟩
    | cons y ys =>
      simp only [List.nil_append, List.cons_append, List.cons.injEq] at same
      exact absurd (by simp [same.1]) second
  | cons x xs ih =>
    cases ys with
    | nil =>
      simp only [List.nil_append, List.cons_append, List.cons.injEq] at same
      exact absurd (by simp [same.1]) first
    | cons y ys =>
      simp only [List.cons_append, List.cons.injEq] at same
      obtain ⟨rfl, same⟩ := same
      -- The first elements are the same, and neither rest contains the end.
      obtain ⟨rfl, rest⟩ := ih (by simp_all) (by simp_all) same
      exact ⟨rfl, rest⟩

/-- The bytes of texts can be told from what follows. -/
theorem textBytes_append_inj {s t : String} {u v : List UInt8}
    (same : textBytes s ++ u = textBytes t ++ v) : s = t ∧ u = v := by
  -- The byte that ends a text occurs in neither of them, so that its first occurrence is the end of both.
  simp only [textBytes, List.append_assoc, List.singleton_append] at same
  obtain ⟨texts, rest⟩ := append_end_inj (end_notMem_utf8 s) (end_notMem_utf8 t) same
  exact ⟨utf8_inj texts, rest⟩

/-- Eight bytes determine a number that fits into them. -/
theorem wordBytes_inj {m n : Nat} (smallM : m < 2 ^ 64) (smallN : n < 2 ^ 64)
    (same : wordBytes m = wordBytes n) : m = n := by
  -- Each byte is a digit of the number in base 256.
  simp only [wordBytes, List.range, List.range.loop, List.map_cons, List.map_nil, List.cons.injEq,
    ← UInt8.toNat_inj, Nat.toUInt8_eq, UInt8.toNat_ofNat', Nat.pow_eq, Nat.reducePow, and_true] at same
  omega

/-- The bytes of numbers can be told from what follows. -/
theorem wordBytes_append_inj {m n : Nat} {u v : List UInt8} (smallM : m < 2 ^ 64) (smallN : n < 2 ^ 64)
    (same : wordBytes m ++ u = wordBytes n ++ v) : m = n ∧ u = v := by
  -- All numbers take the same number of bytes.
  have widths : (wordBytes m).length = (wordBytes n).length := by simp [wordBytes]
  obtain ⟨words, rest⟩ := List.append_inj same widths
  exact ⟨wordBytes_inj smallM smallN words, rest⟩

/-- The bits of a float fit into eight bytes. -/
theorem toBits_lt (x : Binary64) : x.toBits < 2 ^ 64 := by
  -- The magnitude takes the lower bits and the sign the one above them.
  have magnitude : x.magnitude < 2 ^ 63 := x.magnitude_lt
  have weight : Format.double.magnitudes = 2 ^ 63 := rfl
  rw [Binary.toBits, weight]
  split <;> omega

/-- The bits determine a float. -/
theorem toBits_inj {x y : Binary64} (same : x.toBits = y.toBits) : x = y := by
  obtain ⟨signX, magnitudeX, boundX⟩ := x
  obtain ⟨signY, magnitudeY, boundY⟩ := y
  -- The sign is worth more than every magnitude.
  have : magnitudeX = magnitudeY ∧ signX = signY := by
    cases signX <;> cases signY <;> simp [Binary.toBits] at same ⊢ <;> omega
  obtain ⟨rfl, rfl⟩ := this
  rfl

mutual

/-- Taking away the entries of dicts does not show in the bytes. -/
theorem stream_hollow (value : Value) : value.hollow.stream = value.stream := by
  -- Of a dict only its kind goes into the bytes; sequences write their length and their elements.
  cases value with
  | list items => simp only [hollow, stream, streamItems_hollow items, length_hollowItems items]
  | tuple items => simp only [hollow, stream, streamItems_hollow items, length_hollowItems items]
  | dict entries => rfl
  | _ => rfl

/-- Taking away the entries of dicts in the elements does not show in the bytes. -/
theorem streamItems_hollow (items : List Value) : streamItems (hollowItems items) = streamItems items := by
  -- Each element keeps its bytes.
  cases items with
  | nil => rfl
  | cons item rest => simp only [hollowItems, streamItems, stream_hollow item, streamItems_hollow rest]

/-- Taking away the entries of dicts keeps the number of elements. -/
theorem length_hollowItems (items : List Value) : (hollowItems items).length = items.length := by
  -- An element without its entries is still an element.
  cases items with
  | nil => rfl
  | cons item rest => simp only [hollowItems, List.length_cons, length_hollowItems rest]

end

mutual

/--
The bytes of a value can be told from what follows, and determine the value up to the entries of its dicts.

The first byte gives the kind, and the kind says how the content is delimited.
-/
theorem stream_append_inj {a b : Value} {u v : List UInt8} (fitsA : a.longest < 2 ^ 64)
    (fitsB : b.longest < 2 ^ 64) (same : a.stream ++ u = b.stream ++ v) :
    a.hollow = b.hollow ∧ u = v := by
  -- Values of different kinds differ in the first byte already.
  cases a <;> cases b <;> simp [stream, Kind.rank] at same
  case null.null => exact ⟨rfl, same⟩
  case bool.bool a b =>
    refine ⟨?_, same.2⟩
    cases a <;> cases b <;> simp_all [Bool.toUInt8]
  case int.int a b =>
    obtain ⟨bits, rest⟩ := wordBytes_append_inj a.bits.isLt b.bits.isLt same
    have words : a = b := congrArg Word.mk (BitVec.eq_of_toNat_eq bits)
    rw [words]
    exact ⟨rfl, rest⟩
  case float.float a b =>
    obtain ⟨bits, rest⟩ := wordBytes_append_inj (toBits_lt a) (toBits_lt b) same
    rw [toBits_inj bits]
    exact ⟨rfl, rest⟩
  case str.str a b =>
    obtain ⟨rfl, rest⟩ := textBytes_append_inj same
    exact ⟨rfl, rest⟩
  -- The lengths come first, and sequences of one length end together.
  case list.list xs ys =>
    simp only [longest, Nat.max_lt] at fitsA fitsB
    obtain ⟨lengths, same⟩ := wordBytes_append_inj fitsA.1 fitsB.1 same
    obtain ⟨items, rest⟩ := streamItems_append_inj lengths fitsA.2 fitsB.2 same
    exact ⟨by rw [hollow, hollow, items], rest⟩
  case tuple.tuple xs ys =>
    simp only [longest, Nat.max_lt] at fitsA fitsB
    obtain ⟨lengths, same⟩ := wordBytes_append_inj fitsA.1 fitsB.1 same
    obtain ⟨items, rest⟩ := streamItems_append_inj lengths fitsA.2 fitsB.2 same
    exact ⟨by rw [hollow, hollow, items], rest⟩
  case dict.dict => exact ⟨rfl, same⟩

/-- The bytes of sequences of one length can be told from what follows. -/
theorem streamItems_append_inj {xs ys : List Value} {u v : List UInt8} (lengths : xs.length = ys.length)
    (fitsX : longestItems xs < 2 ^ 64) (fitsY : longestItems ys < 2 ^ 64)
    (same : streamItems xs ++ u = streamItems ys ++ v) : hollowItems xs = hollowItems ys ∧ u = v := by
  -- Both sequences announce the same length, so that they are taken apart together.
  cases xs with
  | nil =>
    cases ys with
    | nil => exact ⟨rfl, same⟩
    | cons y ys => simp at lengths
  | cons x xs =>
    cases ys with
    | nil => simp at lengths
    | cons y ys =>
      -- The first elements end at the same byte, and the rest follows.
      simp only [longestItems, Nat.max_lt] at fitsX fitsY
      simp only [streamItems, List.append_assoc] at same
      obtain ⟨heads, same⟩ := stream_append_inj fitsX.1 fitsY.1 same
      obtain ⟨tails, rest⟩ := streamItems_append_inj (Nat.succ.inj lengths) fitsX.2 fitsY.2 same
      exact ⟨by rw [hollowItems, hollowItems, heads, tails], rest⟩

end

mutual

/-- A value without the entries of its dicts is in canonical form and well formed. -/
theorem canonical_hollow (value : Value) : value.hollow.WellFormed ∧ value.hollow.canonical = value.hollow := by
  -- A dict without entries has no keys that could be equal and nothing to be put in order.
  cases value with
  | null => exact ⟨.null, rfl⟩
  | bool truth => exact ⟨.bool truth, rfl⟩
  | int number => exact ⟨.int number, rfl⟩
  | float number => exact ⟨.float number, rfl⟩
  | str text => exact ⟨.str text, rfl⟩
  | list items =>
    obtain ⟨members, same⟩ := canonicalItems_hollow items
    exact ⟨.list members, by rw [hollow, canonical, same]⟩
  | tuple items =>
    obtain ⟨members, same⟩ := canonicalItems_hollow items
    exact ⟨.tuple members, by rw [hollow, canonical, same]⟩
  | dict entries => exact ⟨.dict .nil (by simp) (by simp), by simp [hollow, canonical, canonicalEntries]⟩

/-- Elements without the entries of their dicts are in canonical form and well formed. -/
theorem canonicalItems_hollow (items : List Value) :
    (∀ item ∈ hollowItems items, item.WellFormed) ∧
      canonicalItems (hollowItems items) = hollowItems items := by
  -- Each element is in canonical form, and so is the sequence of them.
  cases items with
  | nil => exact ⟨by simp [hollowItems], rfl⟩
  | cons item rest =>
    obtain ⟨head, same⟩ := canonical_hollow item
    obtain ⟨tail, others⟩ := canonicalItems_hollow rest
    exact ⟨List.forall_mem_cons.mpr ⟨head, tail⟩, by rw [hollowItems, canonicalItems, same, others]⟩

end

/-- Without the entries of dicts, values are equal only when they are the same. -/
theorem beq_hollow_iff (a b : Value) : (a.hollow == b.hollow) = true ↔ a.hollow = b.hollow := by
  -- Equality is sameness of canonical forms, and these values are their own.
  rw [beq_iff_canonical (canonical_hollow a).1, (canonical_hollow a).2, (canonical_hollow b).2]

mutual

/-- Equal values are the same without the entries of their dicts. -/
theorem hollow_eq_of_beq {a b : Value} (equal : beq a b = true) : a.hollow = b.hollow := by
  -- Nothing is asked of the dicts, since they lose their entries on both sides.
  cases a <;> cases b <;> simp [beq] at equal
  case null.null => rfl
  case bool.bool a b => rw [equal]
  case int.int a b => rw [equal]
  case float.float a b => rw [equal]
  case str.str a b => rw [equal]
  case list.list xs ys => rw [hollow, hollow, hollowItems_eq_of_beqItems equal]
  case tuple.tuple xs ys => rw [hollow, hollow, hollowItems_eq_of_beqItems equal]
  case dict.dict => rfl

/-- Equal sequences are the same without the entries of their dicts. -/
theorem hollowItems_eq_of_beqItems {xs ys : List Value} (equal : beqItems xs ys = true) :
    hollowItems xs = hollowItems ys := by
  -- Equal sequences have equal elements at the same places.
  cases xs <;> cases ys <;> simp [beqItems] at equal
  case nil.nil => rfl
  case cons.cons x xs y ys =>
    rw [hollowItems, hollowItems, hollow_eq_of_beq equal.1, hollowItems_eq_of_beqItems equal.2]

end

mutual

/-- A value without dicts has nothing to be taken away. -/
theorem hollow_of_dictFree {value : Value} (free : value.isDictFree = true) : value.hollow = value := by
  -- The only values that lose something are dicts.
  cases value with
  | list items => rw [hollow, hollowItems_of_dictFree (by simpa only [isDictFree] using free)]
  | tuple items => rw [hollow, hollowItems_of_dictFree (by simpa only [isDictFree] using free)]
  | dict entries => simp [isDictFree] at free
  | _ => rfl

/-- Elements without dicts have nothing to be taken away. -/
theorem hollowItems_of_dictFree {items : List Value} (free : areDictFree items = true) :
    hollowItems items = items := by
  -- No element has a dict in it.
  cases items with
  | nil => rfl
  | cons item rest =>
    simp only [areDictFree, Bool.and_eq_true] at free
    rw [hollowItems, hollow_of_dictFree free.1, hollowItems_of_dictFree free.2]

end

/-- Values have the same bytes exactly when they are the same without the entries of their dicts. -/
theorem stream_eq_iff {a b : Value} (fitsA : a.longest < 2 ^ 64) (fitsB : b.longest < 2 ^ 64) :
    a.stream = b.stream ↔ a.hollow = b.hollow := by
  -- Bytes that end by themselves can be compared with nothing behind them.
  constructor
  · intro same
    have padded : a.stream ++ [] = b.stream ++ [] := by rw [same]
    exact (stream_append_inj fitsA fitsB padded).1
  · intro same
    rw [← stream_hollow a, same, stream_hollow b]

/-- Equal values have the same bytes. -/
theorem stream_eq_of_beq {a b : Value} (equal : (a == b) = true) : a.stream = b.stream := by
  -- Equal values can differ in their dicts only, and these do not show in the bytes.
  rw [← stream_hollow a, hollow_eq_of_beq equal, stream_hollow]

/--
The bytes of values are unambiguous.

The bytes of one value start those of another exactly when the values are equal without the entries of their dicts, and
then all bytes are the same. So equal values have the same hash, values without dicts are equal when their bytes are the
same, and a text as a key has the bytes of its value.
-/
theorem stream_unambiguous (a b : Value) (fitsA : a.longest < 2 ^ 64) (fitsB : b.longest < 2 ^ 64) :
    (a.stream <+: b.stream ↔ (a.hollow == b.hollow) = true) ∧
      (a.stream <+: b.stream → a.stream = b.stream) ∧
      ((a == b) = true → a.digest = b.digest) ∧
      (a.isDictFree = true → b.isDictFree = true → (a.stream = b.stream ↔ (a == b) = true)) ∧
      ∀ text, textKeyStream text = (Value.str text).stream := by
  -- A beginning leaves a rest, and the rest is empty because the first value has ended by itself.
  have whole : a.stream <+: b.stream → a.stream = b.stream := by
    rintro ⟨rest, same⟩
    have padded : a.stream ++ rest = b.stream ++ [] := by rw [same, List.append_nil]
    obtain ⟨_, rfl⟩ := stream_append_inj fitsA fitsB padded
    rwa [List.append_nil] at same
  refine ⟨?_, whole, ?_, ?_, fun text => rfl⟩
  · rw [beq_hollow_iff, ← stream_eq_iff fitsA fitsB]
    exact ⟨whole, fun same => same ▸ List.prefix_rfl⟩
  · -- Equal values have the same bytes, and the digest is made of them.
    intro equal
    rw [digest, digest, stream_eq_of_beq equal]
  · intro freeA freeB
    rw [stream_eq_iff fitsA fitsB, ← beq_hollow_iff, hollow_of_dictFree freeA, hollow_of_dictFree freeB]

/-- Texts that run together into the same characters do not run together in the bytes. -/
theorem stream_unambiguous_texts :
    ¬(Value.list [.str "ab", .str "c"]).stream <+: (Value.list [.str "a", .str "bc"]).stream := by
  -- The bytes would begin alike only if the lists were the same.
  rw [(stream_unambiguous _ _ (by decide) (by decide)).1]
  decide

end DynValue.Value
