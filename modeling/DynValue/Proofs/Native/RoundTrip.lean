import DynValue.Native.Convert
import DynValue.Proofs.Model.RoundTrip

/-!
Native data are read back from their values, however deeply their types are nested.

A dict does not tell in which order its entries were put in, so that data are read back from every value that equals theirs.
-/

namespace DynValue

namespace KeyMap

variable {α β : Type} [Ord α] [Std.TransOrd α] [Std.LawfulEqOrd α]

omit [Std.LawfulEqOrd α] in
/-- What comes before something is not the same. -/
theorem ne_of_compare_lt {a b : α} (below : compare a b = .lt) : a ≠ b := by
  -- Nothing comes before itself.
  intro same
  have self : compare b b = .eq := Std.ReflCmp.compare_self
  rw [same, self] at below
  contradiction

omit [Std.TransOrd α] [Std.LawfulEqOrd α] in
/-- A key that is not there yet gets an entry of its own. -/
theorem insertEntry_perm {key : α} {entries : List (α × β)} (fresh : ∀ entry ∈ entries, compare key entry.1 ≠ .eq)
    (value : β) : (insertEntry key value entries).Perm ((key, value) :: entries) := by
  induction entries with
  | nil => exact .refl _
  | cons head rest ih =>
    obtain ⟨other, tail⟩ := List.forall_mem_cons.mp fresh
    rw [insertEntry]
    split
    · exact .refl _
    · contradiction
    · -- Behind the head, the new entry changes places with it.
      exact ((ih tail).cons head).trans (.swap (key, value) head rest)

/-- Inserting pairs with different keys keeps all of them, next to the entries that were there. -/
theorem foldl_insert_perm {pairs : List (α × β)} (different : pairs.Pairwise fun a b => a.1 ≠ b.1) (map : KeyMap α β)
    (fresh : ∀ pair ∈ pairs, ∀ entry ∈ map.entries, pair.1 ≠ entry.1) :
    (pairs.foldl (fun map pair => map.insert pair.1 pair.2) map).entries.Perm (pairs ++ map.entries) := by
  -- The map takes one pair after the other, and those still to come differ from all it has.
  induction pairs generalizing map with
  | nil => exact .refl _
  | cons pair rest ih =>
    obtain ⟨apart, different⟩ := List.pairwise_cons.mp different
    obtain ⟨head, tail⟩ := List.forall_mem_cons.mp fresh
    have inserted : (map.insert pair.1 pair.2).entries.Perm (pair :: map.entries) :=
      insertEntry_perm (fun entry member same => head entry member (Std.LawfulEqCmp.eq_of_compare same)) pair.2
    have still : ∀ later ∈ rest, ∀ entry ∈ (map.insert pair.1 pair.2).entries, later.1 ≠ entry.1 := by
      intro later isLater entry member
      rcases List.mem_cons.mp (inserted.subset member) with new | old
      · exact new ▸ (apart later isLater).symm
      · exact tail later isLater entry old
    exact (ih different _ still).trans ((inserted.append_left rest).trans List.perm_middle)

/-- A map is built from its entries, in whatever order they come. -/
theorem ofList_of_perm {pairs : List (α × β)} {map : KeyMap α β} (moved : pairs.Perm map.entries) :
    ofList pairs = map := by
  -- Keys that ascend are different, and stay so in any order.
  have different : pairs.Pairwise fun a b => a.1 ≠ b.1 :=
    (moved.pairwise_iff fun apart => Ne.symm apart).mpr (map.ascending.imp ne_of_compare_lt)
  have built : (ofList pairs).entries.Perm map.entries := by
    have all := foldl_insert_perm different empty (by simp [empty])
    rw [show (empty : KeyMap α β).entries = [] from rfl, List.append_nil] at all
    exact all.trans moved
  -- Entries in ascending order can be put in one order only.
  have same : (ofList pairs).entries = map.entries := by
    refine built.eq_of_pairwise ?_ (ofList pairs).ascending map.ascending
    intro a b _ _ below above
    have reversed : compare a.1 b.1 = .gt := Std.OrientedCmp.gt_iff_lt.mpr above
    rw [reversed] at below
    contradiction
  obtain ⟨entries, ascending⟩ := map
  generalize ofList pairs = result at same
  obtain ⟨others, _⟩ := result
  obtain rfl : others = entries := same
  rfl

end KeyMap

/-- The types of keys that are read back from their values. -/
inductive KeyTy.Faithful : KeyTy → Prop where
  /-- Words of 32 bits. -/
  | int32 : Faithful (.int .int32)
  /-- Words of 64 bits. -/
  | int64 : Faithful (.int .int64)
  /-- Truth values. -/
  | bool : Faithful .bool
  /-- Texts. -/
  | text : Faithful .text

/-- The types built from numbers, truth values and texts by sequences, maps and data that may be missing. -/
inductive Ty.Faithful : Ty → Prop where
  /-- Words of 32 bits. -/
  | int32 : Faithful (.int .int32)
  /-- Words of 64 bits. -/
  | int64 : Faithful (.int .int64)
  /-- Truth values. -/
  | bool : Faithful .bool
  /-- Floats of 64 bits. -/
  | double : Faithful .double
  /-- Texts. -/
  | text : Faithful .text
  /-- Sequences of data of one such type. -/
  | list {t : Ty} (element : Faithful t) : Faithful (.list t)
  /-- Maps from such keys to data of such a type. -/
  | map {k : KeyTy} {t : Ty} (key : k.Faithful) (content : Faithful t) : Faithful (.map k t)
  /-- A datum that may be missing is not one that may be missing again. -/
  | option {t : Ty} (inner : Faithful t) (certain : ∀ u, t ≠ .option u) : Faithful (.option t)

namespace KeyTy

variable {k : KeyTy}

/-- A word of 32 bits is not changed on its way through 64 bits. -/
theorem convert_clamp_int32 (n : Word .int32) : (Word.clamp .int64 n.toInt).convert .int32 = n := by
  -- A short word is in the range of long ones, and there it has the same integer.
  rw [Word.clamp_int32, Word.convert, Word.toInt_convert_int32, Word.ofInt_toInt]

/-- A word of 64 bits is not changed by becoming an integer of values. -/
theorem convert_clamp_int64 (n : Word64) : (Word.clamp .int64 n.toInt).convert .int64 = n := by
  -- The word is in its own range.
  rw [Word.clamp_toInt, Word.convert_self]

/-- A key is read back from its value. -/
theorem ofValue_toValue (faithful : k.Faithful) (key : k.Carrier) : k.ofValue (k.toValue key) = key := by
  -- Only words are converted on the way, and they come back.
  cases faithful with
  | int32 => exact convert_clamp_int32 key
  | int64 => exact convert_clamp_int64 key
  | bool => rfl
  | text => exact String.ofList_toList

/-- The values of keys are scalars. -/
theorem isScalar_toValue (k : KeyTy) (key : k.Carrier) : (k.toValue key).isScalar = true := by
  -- No type of keys has a value with other values in it.
  cases k <;> rfl

/-- The values of keys are well formed. -/
theorem wellFormed_toValue (k : KeyTy) (key : k.Carrier) : (k.toValue key).WellFormed := by
  -- Scalars have no dicts in them.
  cases k <;> constructor

/-- Different keys have values that are not equal. -/
theorem toValue_beq_false (faithful : k.Faithful) {a b : k.Carrier} (different : a ≠ b) :
    (k.toValue a == k.toValue b) = false := by
  rw [Bool.eq_false_iff, Ne, Value.beq_iff_canonical (k.wellFormed_toValue a)]
  intro same
  -- Scalars with the same form are the same, and the keys are read back from them.
  have values := Value.eq_of_canonical_scalar (k.isScalar_toValue a) same
  apply different
  rw [← ofValue_toValue faithful a, values, ofValue_toValue faithful b]

end KeyTy

namespace Ty

variable {t : Ty}

/-- The value of a key next to the value of what is under it. -/
def pairValue (k : KeyTy) (t : Ty) (entry : k.Carrier × t.Carrier) : Value × Value :=
  (k.toValue entry.1, t.toValue entry.2)

/-- The keys of a map become the keys of a dict, each with an entry of its own. -/
theorem toValue_map {k : KeyTy} (faithful : k.Faithful) (content : ∀ x, (t.toValue x).WellFormed)
    (table : KeyMap k.Carrier t.Carrier) :
    Ty.toValue (.map k t) table = .dict (table.entries.map (pairValue k t)) ∧
      (Value.dict (table.entries.map (pairValue k t))).WellFormed := by
  -- The keys of the map ascend, so that they are different and have different values.
  have whole : (Value.dict (table.entries.map (pairValue k t))).WellFormed := by
    rw [Value.wellFormed_dict_iff, List.forall_mem_map]
    refine ⟨?_, fun entry _ => ⟨k.wellFormed_toValue entry.1, content entry.2⟩⟩
    rw [Entries.Unique, List.pairwise_map]
    exact table.ascending.imp fun below => KeyTy.toValue_beq_false faithful (KeyMap.ne_of_compare_lt below)
  exact ⟨congrArg Value.dict (Entries.ofPairs_of_wellFormed whole), whole⟩

/-- Data of these types have well-formed values. -/
theorem wellFormed_toValue (faithful : t.Faithful) (x : t.Carrier) : (t.toValue x).WellFormed := by
  -- The types are gone through as they are built, and only maps become dicts.
  induction faithful with
  | int32 => exact .int _
  | int64 => exact .int _
  | bool => exact .bool _
  | double => exact .float _
  | text => exact .str _
  | list element ih =>
    rw [toValue, Value.wellFormed_list_iff, List.forall_mem_map]
    exact fun item _ => ih item
  | map key content ih =>
    obtain ⟨dict, whole⟩ := toValue_map key ih x
    exact dict ▸ whole
  | option inner certain ih =>
    cases x with
    | none => exact .null
    | some datum => exact ih datum

/-- Only a missing datum has the absent value. -/
theorem kind_toValue_ne_null (faithful : t.Faithful) (certain : ∀ u, t ≠ .option u) (x : t.Carrier) :
    (t.toValue x).kind ≠ .null := by
  -- Every type but an option gives each datum a value of a kind that is there.
  cases faithful with
  | option inner _ => exact absurd rfl (certain _)
  | _ => simp [toValue, Value.kind]

/-- The type has a reader, which gives a datum for every value that has the form of the datum's value. -/
def ReadsBack (t : Ty) : Prop :=
  ∃ read, t.reader? = some read ∧
    ∀ (x : t.Carrier) (value : Value), (t.toValue x).canonical = value.canonical → read value = x

/-- Data with scalars as values are read back if each is read back from its own value. -/
theorem readsBack_scalar {read : Value → t.Carrier} (found : t.reader? = some read)
    (scalar : ∀ x, (t.toValue x).isScalar = true) (back : ∀ x, read (t.toValue x) = x) : t.ReadsBack := by
  refine ⟨read, found, ?_⟩
  intro x value same
  -- A scalar is the only value with its form.
  rw [← Value.eq_of_canonical_scalar (scalar x) same, back x]

/-- What is read from twins of the values of data are the data. -/
theorem map_eq_of_forall₂ {α β γ : Type} {f : α → γ} {g : β → γ} {read : β → α} {xs : List α} {ys : List β}
    (twins : List.Forall₂ (fun x y => f x = g y) xs ys) (back : ∀ x y, f x = g y → read y = x) :
    ys.map read = xs := by
  -- The two sequences are taken apart together, and each element is read from its twin.
  induction twins with
  | nil => rfl
  | cons same _ ih => rw [List.map_cons, back _ _ same, ih]

/-- Lists are read back if their elements are. -/
theorem readsBack_list (element : t.ReadsBack) : ReadsBack (.list t) := by
  obtain ⟨read, found, back⟩ := element
  refine ⟨_, by rw [reader?, found]; rfl, ?_⟩
  intro xs value same
  rw [toValue] at same
  obtain ⟨ys, rfl, forms⟩ := Value.exists_of_canonical_list same
  rw [List.map_map, Value.map_eq_map_iff_forall₂] at forms
  -- Iteration over a list goes through its elements.
  show (Cursor.start (.list ys)).toList.map read = xs
  rw [Value.toList_start, Value.items]
  exact map_eq_of_forall₂ forms back

/-- Maps are read back if their keys and contents are. -/
theorem readsBack_map {k : KeyTy} (faithful : k.Faithful) (wellFormed : ∀ x, (t.toValue x).WellFormed)
    (content : t.ReadsBack) : ReadsBack (.map k t) := by
  obtain ⟨read, found, back⟩ := content
  refine ⟨_, by rw [reader?, found]; rfl, ?_⟩
  intro table value same
  rw [(toValue_map faithful wellFormed table).1] at same
  obtain ⟨ys, rfl, forms⟩ := Value.exists_of_canonical_dict same
  -- The entries of the value are put in the order of the entries of the map, and then read one by one.
  obtain ⟨moved, twins, order⟩ := Value.exists_moved forms
  rw [List.forall₂_map_left_iff] at twins
  apply KeyMap.ofList_of_perm
  refine (order.map _).symm.trans (.of_eq (map_eq_of_forall₂ twins ?_))
  intro entry other form
  have keys := Value.eq_of_canonical_scalar (k.isScalar_toValue entry.1) (congrArg Prod.fst form)
  refine Prod.ext ?_ (back entry.2 other.2 (congrArg Prod.snd form))
  show k.ofValue other.1 = entry.1
  rw [← keys]
  exact KeyTy.ofValue_toValue faithful entry.1

/-- Data that may be missing are read back if the data are and if these never look missing. -/
theorem readsBack_option (faithful : t.Faithful) (certain : ∀ u, t ≠ .option u) (inner : t.ReadsBack) :
    ReadsBack (.option t) := by
  obtain ⟨read, found, back⟩ := inner
  refine ⟨_, by rw [reader?, found]; rfl, ?_⟩
  intro x value same
  cases x with
  | none =>
    obtain rfl : Value.null = value := Value.eq_of_canonical_scalar rfl same
    rfl
  | some datum =>
    rw [toValue] at same
    -- The value has the kind of the value of the datum, which is there.
    have present : value.kind ≠ .null := by
      rw [← Value.kind_canonical, ← same, Value.kind_canonical]
      exact kind_toValue_ne_null faithful certain datum
    have held := back datum value same
    cases value with
    | null => exact absurd rfl present
    | _ => exact congrArg some held

/-- Data of these types are read back, by induction on the way the types are built. -/
theorem readsBack_of_faithful (faithful : t.Faithful) : t.ReadsBack := by
  -- Scalars are read back from the one value that they have, and the others part by part.
  induction faithful with
  | int32 => exact readsBack_scalar rfl (fun _ => rfl) KeyTy.convert_clamp_int32
  | int64 => exact readsBack_scalar rfl (fun _ => rfl) KeyTy.convert_clamp_int64
  | bool => exact readsBack_scalar rfl (fun _ => rfl) fun _ => rfl
  | double => exact readsBack_scalar rfl (fun _ => rfl) fun _ => rfl
  | text => exact readsBack_scalar rfl (fun _ => rfl) fun _ => String.ofList_toList
  | list element ih => exact readsBack_list ih
  | map key content ih => exact readsBack_map key (wellFormed_toValue content) ih
  | option inner certain ih => exact readsBack_option inner certain ih

/-- Values convert to words as they are read, for the two types to which they convert. -/
theorem reader?_of_wordConversion? {t : IntType} {convert : Value → Word t}
    (converted : wordConversion? t = some convert) : reader? (.int t) = some convert := by
  rw [wordConversion?] at converted
  split at converted
  case isTrue own =>
    subst own
    obtain rfl := Option.some.inj converted
    -- A word of 64 bits is not changed by being taken as one.
    exact congrArg some (funext fun value => value.toInt.convert_self)
  case isFalse =>
    split at converted
    case isTrue short =>
      subst short
      obtain rfl := Option.some.inj converted
      rfl
    case isFalse => contradiction

/-- Where values convert to data of a type, they convert to what is read. -/
theorem reader?_of_conversion? {convert : Value → t.Carrier} (converted : t.conversion? = some convert) :
    t.reader? = some convert := by
  cases t with
  | int t => exact reader?_of_wordConversion? converted
  | text =>
    obtain rfl := Option.some.inj converted
    refine congrArg some (funext fun value => ?_)
    -- A text is displayed as it is.
    cases value with
    | str content => exact String.ofList_toList
    | null | bool | int | float | list | tuple | dict => rfl
  | double | single | bool | value =>
    obtain rfl := Option.some.inj converted
    rfl
  | char | unit | option | list | set | map | tuple => contradiction

/--
Reading undoes the making of values, for every type built from numbers, truth values and texts.

It does so for every value that equals the one that was made, whatever the order of the entries of its dicts. Where values
also convert to data of a type directly, they convert to what is read.
-/
theorem reader_toValue :
    (∀ t : Ty, t.Faithful → ∃ read, t.reader? = some read ∧ ∀ x : t.Carrier, read (t.toValue x) = x ∧
      ∀ value : Value, value.WellFormed → (value == t.toValue x) = true → read value = x) ∧
      (∀ (t : Ty) (convert : Value → t.Carrier), t.conversion? = some convert → t.reader? = some convert) ∧
      ∀ t ∈ ([.int .int32, .int .int64, .bool, .double, .single, .text] : List Ty), t.conversion?.isSome = true := by
  -- A value that equals the one that was made has the same canonical form, which is all that reading needs.
  refine ⟨?_, fun t convert => reader?_of_conversion?, by decide⟩
  · intro t faithful
    obtain ⟨read, found, back⟩ := readsBack_of_faithful faithful
    refine ⟨read, found, fun x => ⟨back x _ rfl, ?_⟩⟩
    intro value whole equal
    exact back x value ((Value.beq_iff_canonical whole _).mp equal).symm

/-- A missing map and a map are read back from a list, also where the dict has its entries the other way round. -/
theorem reader_toValue_nested :
    ∃ read, (Ty.list (.option (.map .bool .text))).reader? = some read ∧
      read (.list [.null, .dict [(.bool true, .str "a"), (.bool false, .str "b")]]) =
        [none, some (KeyMap.ofList [(false, "b"), (true, "a")])] := by
  -- The type is built from types of data that are read back, and an option stands around none.
  have faithful : (Ty.list (.option (.map .bool .text))).Faithful := .list (.option (.map .bool .text) nofun)
  obtain ⟨read, found, back⟩ := reader_toValue.1 _ faithful
  refine ⟨read, found, (back _).2 _ (by decide) ?_⟩
  decide

end Ty

end DynValue
