import Mathlib.Data.List.Forall2
import DynValue.Model.Tree
import DynValue.Proofs.Value.Preservation

/-! Reading trees: sequences and maps are read tree by tree, and whatever is read is well formed. -/

namespace DynValue

/-- A traversal succeeds when each of its steps does. -/
theorem mapM_eq_ok_iff {ε α β : Type} {f : α → Except ε β} {xs : List α} {ys : List β} :
    xs.mapM f = .ok ys ↔ List.Forall₂ (fun x y => f x = .ok y) xs ys := by
  -- If the first step fails, so does the traversal; if not, the rest decides.
  induction xs generalizing ys with
  | nil =>
    rw [List.mapM_nil, List.forall₂_nil_left_iff]
    exact ⟨fun same => (Except.ok.inj same).symm, fun empty => empty ▸ rfl⟩
  | cons x xs ih =>
    rw [List.mapM_cons, List.forall₂_cons_left_iff]
    simp only [← ih]
    cases f x with
    | error fault => simp [bind, Except.bind]
    | ok y =>
      cases xs.mapM f with
      | error fault => simp [bind, Except.bind]
      | ok ys => simp [bind, Except.bind, pure, Except.pure, eq_comm]

/-- A traversal succeeds on elements on each of which it succeeds. -/
theorem exists_mapM_eq_ok_iff {ε α β : Type} {f : α → Except ε β} {xs : List α} :
    (∃ ys, xs.mapM f = .ok ys) ↔ ∀ x ∈ xs, ∃ y, f x = .ok y := by
  -- The results are collected one by one.
  simp only [mapM_eq_ok_iff]
  induction xs with
  | nil => simp
  | cons x xs ih =>
    rw [List.forall_mem_cons, ← ih]
    constructor
    · rintro ⟨_, _ | ⟨head, tail⟩⟩
      exact ⟨⟨_, head⟩, _, tail⟩
    · rintro ⟨⟨y, head⟩, ys, tail⟩
      exact ⟨y :: ys, .cons head tail⟩

/-- Two results are paired when both are there. -/
theorem pair_eq_ok_iff {ε α β : Type} {x : Except ε α} {y : Except ε β} {pair : α × β} :
    (do
      let a ← x
      let b ← y
      Except.ok (a, b)) = .ok pair ↔ x = .ok pair.1 ∧ y = .ok pair.2 := by
  -- A failure on either side leaves no pair.
  obtain ⟨a, b⟩ := pair
  cases x with
  | error fault => simp [bind, Except.bind]
  | ok a => cases y <;> simp [bind, Except.bind]

/-- A result that is changed twice is changed by both changes at once. -/
theorem map_map_except {ε α β γ : Type} (f : α → β) (g : β → γ) (result : Except ε α) :
    (result.map f).map g = result.map fun a => g (f a) := by
  -- A failure passes through both changes.
  cases result <;> rfl

/-- Inserting pairs one after the other keeps a dict well formed. -/
theorem Entries.wellFormed_foldl {entries : Entries} {pairs : List (Value × Value)}
    (dict : (Value.dict entries).WellFormed) (members : ∀ pair ∈ pairs, pair.1.WellFormed ∧ pair.2.WellFormed) :
    (Value.dict (pairs.foldl (fun entries pair => insert entries pair.1 pair.2) entries)).WellFormed := by
  -- Every insertion keeps the dict well formed, and the pairs to come are inserted into its result.
  induction pairs generalizing entries with
  | nil => exact dict
  | cons pair rest ih =>
    obtain ⟨⟨keyed, valued⟩, tail⟩ := List.forall_mem_cons.mp members
    exact ih (wellFormed_insert dict keyed valued) tail

/-- The value of an integer is a number, which is well formed. -/
theorem Value.wellFormed_ofInteger (n : Int) : (ofInteger n).WellFormed := by
  -- An integer becomes an integer value or the float nearest to it.
  unfold ofInteger
  split
  · exact .int _
  · exact .float _

namespace Tree

/-- Whether a tree has no trees in it. -/
def isLeaf : Tree → Bool
  | .present _ => false
  | .wrapped _ => false
  | .sequence _ => false
  | .stream _ => false
  | .map _ => false
  | _ => true

/-- What holds of leaves, and of other trees as soon as it holds of everything in them, holds of every tree. -/
@[elab_as_elim]
theorem nestedInduction {motive : Tree → Prop} (leaf : ∀ tree, tree.isLeaf = true → motive tree)
    (present : ∀ inner, motive inner → motive (.present inner))
    (wrapped : ∀ inner, motive inner → motive (.wrapped inner))
    (sequence : ∀ items, (∀ item ∈ items, motive item) → motive (.sequence items))
    (stream : ∀ items, (∀ item ∈ items, motive item) → motive (.stream items))
    (map : ∀ entries, (∀ entry ∈ entries, motive entry.1 ∧ motive entry.2) → motive (.map entries))
    (tree : Tree) : motive tree := by
  -- A sequence stands for the claim about all its trees, an entry for the claim about its key and value.
  apply @Tree.rec motive (fun items => ∀ item ∈ items, motive item)
    (fun entries => ∀ entry ∈ entries, motive entry.1 ∧ motive entry.2)
    (fun entry => motive entry.1 ∧ motive entry.2)
  case present => exact present
  case wrapped => exact wrapped
  case sequence => exact sequence
  case stream => exact stream
  case map => exact map
  case nil => simp
  case cons =>
    intro item rest head tail
    exact List.forall_mem_cons.mpr ⟨head, tail⟩
  case nil => simp
  case cons =>
    intro entry rest head tail
    exact List.forall_mem_cons.mpr ⟨head, tail⟩
  case mk =>
    intro key content keyHolds contentHolds
    exact ⟨keyHolds, contentHolds⟩
  all_goals
    intros
    exact leaf _ rfl

/-- The values of trees, or the first fault in them. -/
def toValues : List Tree → Except TreeFault (List Value)
  | [] => .ok []
  | item :: rest => do
    let first ← toValue item
    let others ← toValues rest
    .ok (first :: others)

/-- The keys and values of entries, or the first fault in them, a key coming before its value. -/
def toPairs : List (Tree × Tree) → Except TreeFault (List (Value × Value))
  | [] => .ok []
  | (key, content) :: rest => do
    let first ← toValue key
    let second ← toValue content
    let others ← toPairs rest
    .ok ((first, second) :: others)

/-- Filling a sequence adds the values of the trees behind what is there, whatever the room. -/
theorem fillItems_eq (items : List Tree) (filled : Buffer (Array Value) Array.size) :
    (fillItems items filled).map (·.content.toList) = (toValues items).map (filled.content.toList ++ ·) := by
  -- At each step one value moves from those to be read to those filled in.
  induction items generalizing filled with
  | nil => simp [fillItems, toValues, Except.map]
  | cons item rest ih =>
    rw [fillItems, toValues]
    cases item.toValue with
    | error fault => rfl
    | ok value =>
      have step := ih (filled.update (·.push value))
      rw [Buffer.content_update, Array.toList_push] at step
      refine step.trans ?_
      cases toValues rest <;> simp [Except.map, bind, Except.bind]

/-- Filling a dict inserts the keys and values in order into what is there, whatever the room. -/
theorem fillEntries_eq (entries : List (Tree × Tree)) (filled : Buffer Entries List.length) :
    (fillEntries entries filled).map (·.content) = (toPairs entries).map fun pairs =>
      pairs.foldl (fun entries pair => entries.insert pair.1 pair.2) filled.content := by
  induction entries generalizing filled with
  | nil => rfl
  | cons entry rest ih =>
    obtain ⟨key, content⟩ := entry
    rw [fillEntries, toPairs]
    -- A fault in the key hides one in the value, and each of them hides those in later entries.
    cases key.toValue with
    | error fault => rfl
    | ok first =>
      cases content.toValue with
      | error fault => rfl
      | ok second =>
        have step := ih (filled.update (·.insert first second))
        rw [Buffer.content_update] at step
        refine step.trans ?_
        cases toPairs rest <;> rfl

/-- Whatever number is announced, trees are read one by one into a list. -/
theorem readItems_eq (announced : Option Nat) (items : List Tree) :
    readItems announced items = (toValues items).map .list := by
  -- The buffer is empty at the start, so that what it is filled with is all there is in the end.
  have made := congrArg (Except.map Value.list) (fillItems_eq items (.start announced #[] rfl))
  rwa [map_map_except, map_map_except] at made

/-- Whatever number is announced, entries are read one by one and inserted in order. -/
theorem readEntries_eq (announced : Option Nat) (entries : List (Tree × Tree)) :
    readEntries announced entries = (toPairs entries).map fun pairs => .dict (Entries.ofPairs pairs) := by
  -- The buffer starts empty, whatever room is reserved in it.
  have made := congrArg (Except.map Value.dict) (fillEntries_eq entries (.start announced [] rfl))
  rwa [map_map_except, map_map_except] at made

/-- A sequence is read as the list of the values of its trees. -/
theorem toValue_sequence (items : List Tree) : (sequence items).toValue = (toValues items).map .list :=
  readItems_eq (some items.length) items

/-- A sequence that does not know its length is read as one that does. -/
theorem toValue_stream (items : List Tree) : (stream items).toValue = (toValues items).map .list :=
  readItems_eq none items

/-- A map is read as the dict into which its entries are inserted in order. -/
theorem toValue_map (entries : List (Tree × Tree)) :
    (map entries).toValue = (toPairs entries).map fun pairs => .dict (Entries.ofPairs pairs) :=
  readEntries_eq (some entries.length) entries

/-- Sequences are read tree by tree. -/
theorem toValues_eq_ok_iff {items : List Tree} {values : List Value} :
    toValues items = .ok values ↔ List.Forall₂ (fun item value => item.toValue = .ok value) items values := by
  -- The recursion on the list of trees is a traversal.
  have traversed : toValues items = items.mapM toValue := by
    induction items with
    | nil => rfl
    | cons item rest ih =>
      rw [toValues, ih, List.mapM_cons]
      rfl
  rw [traversed, mapM_eq_ok_iff]

/-- The key and the value of an entry, or the first fault in them. -/
def toPair (entry : Tree × Tree) : Except TreeFault (Value × Value) := do
  let key ← entry.1.toValue
  let content ← entry.2.toValue
  .ok (key, content)

/-- Maps are read entry by entry. -/
theorem toPairs_eq_ok_iff {entries : List (Tree × Tree)} {pairs : List (Value × Value)} :
    toPairs entries = .ok pairs ↔
      List.Forall₂ (fun entry pair => entry.1.toValue = .ok pair.1 ∧ entry.2.toValue = .ok pair.2)
        entries pairs := by
  -- Both trees of an entry are read before the next entry is.
  have traversed : toPairs entries = entries.mapM toPair := by
    induction entries with
    | nil => rfl
    | cons entry rest ih =>
      rw [toPairs, ih, List.mapM_cons, toPair]
      cases entry.1.toValue with
      | error fault => rfl
      | ok key => cases entry.2.toValue <;> rfl
  rw [traversed, mapM_eq_ok_iff]
  simp only [toPair, pair_eq_ok_iff]

/-- A result that was made from another one succeeds only if the other one does. -/
theorem exists_of_map_ok {ε α β : Type} {f : α → β} {result : Except ε α} {b : β}
    (mapped : result.map f = .ok b) : ∃ a, result = .ok a ∧ f a = b := by
  -- A failure is not changed into a success.
  cases result with
  | error fault => cases mapped
  | ok a => exact ⟨a, rfl, Except.ok.inj mapped⟩

/-- What relates to elements that satisfy a condition satisfies another one, if each alone does. -/
theorem forall_of_forall₂ {α β : Type} {given : α → Prop} {relation : α → β → Prop} {claim : β → Prop}
    {xs : List α} {ys : List β} (each : List.Forall₂ relation xs ys) (conditions : ∀ x ∈ xs, given x)
    (carried : ∀ x y, given x → relation x y → claim y) : ∀ y ∈ ys, claim y := by
  -- The two sequences are taken apart together.
  induction each with
  | nil => simp
  | cons related _ ih =>
    obtain ⟨head, tail⟩ := List.forall_mem_cons.mp conditions
    exact List.forall_mem_cons.mpr ⟨carried _ _ head related, ih tail⟩

/-- Values that are read from a sequence are well formed if those read from its trees are. -/
theorem wellFormed_toValues {items : List Tree} {values : List Value} (read : toValues items = .ok values)
    (each : ∀ item ∈ items, ∀ value, item.toValue = .ok value → value.WellFormed) :
    ∀ value ∈ values, value.WellFormed :=
  forall_of_forall₂ (toValues_eq_ok_iff.mp read) each fun _ value whole found => whole value found

/-- Keys and values that are read from a map are well formed if those read from its trees are. -/
theorem wellFormed_toPairs {entries : List (Tree × Tree)} {pairs : List (Value × Value)}
    (read : toPairs entries = .ok pairs)
    (each : ∀ entry ∈ entries, (∀ value, entry.1.toValue = .ok value → value.WellFormed) ∧
      ∀ value, entry.2.toValue = .ok value → value.WellFormed) :
    ∀ pair ∈ pairs, pair.1.WellFormed ∧ pair.2.WellFormed :=
  forall_of_forall₂ (toPairs_eq_ok_iff.mp read) each fun _ pair whole found =>
    ⟨whole.1 pair.1 found.1, whole.2 pair.2 found.2⟩

/-- Values that are read from trees are well formed, however often a map gives the same key. -/
theorem wellFormed_toValue {tree : Tree} {value : Value} (read : tree.toValue = .ok value) : value.WellFormed := by
  -- Leaves become values without parts; the parts of the others are well formed before they are put together.
  induction tree using nestedInduction generalizing value with
  | leaf tree bare =>
    cases tree <;> simp [isLeaf, toValue] at bare read <;> rw [← read]
    case int type number => exact Value.wellFormed_ofInteger _
    all_goals constructor
  | present inner ih => exact ih read
  | wrapped inner ih => simp [toValue] at read
  | sequence items ih =>
    rw [toValue_sequence] at read
    obtain ⟨values, found, rfl⟩ := exists_of_map_ok read
    exact .list (wellFormed_toValues found fun item member value => ih item member)
  | stream items ih =>
    rw [toValue_stream] at read
    obtain ⟨values, found, rfl⟩ := exists_of_map_ok read
    exact .list (wellFormed_toValues found fun item member value => ih item member)
  | map entries ih =>
    rw [toValue_map] at read
    obtain ⟨pairs, found, rfl⟩ := exists_of_map_ok read
    -- A key may come twice, and the insertion of its second value keeps the keys distinct.
    have members := wellFormed_toPairs found fun entry member =>
      ⟨fun value => (ih entry member).1, fun value => (ih entry member).2⟩
    exact Entries.wellFormed_foldl (.dict .nil (by simp) (by simp)) members

end Tree

end DynValue
