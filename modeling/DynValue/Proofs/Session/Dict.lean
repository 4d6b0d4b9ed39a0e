import DynValue.Native.Convert
import DynValue.Proofs.Model.Tree
import DynValue.Proofs.Session.Invariant
import DynValue.Proofs.Value.Buckets

/-!
A dict is a finite map from keys, equal ones counting as one, to values.

Every way to write a key changes the map at that key alone, and every way to read a key gives what the map holds there.
-/

namespace DynValue

namespace Entries

variable {entries : Entries} {key other : Value} (dict : (Value.dict entries).WellFormed)
  (keyed : key.WellFormed) (asked : other.WellFormed)

include keyed asked

/-- Equal keys find one and the same value. -/
theorem find?_of_beq (equal : (other == key) = true) : find? entries other = find? entries key :=
  find?_congr fun entry _ => Value.beq_congr_of_wellFormed asked keyed equal entry.1

include dict

/-- After an insertion its key, and every equal one, holds the new value. -/
theorem find?_insert (value : Value) :
    find? (insert entries key value) other = if other == key then some value else find? entries other := by
  cases equal : other == key with
  | true =>
    rw [find?_of_beq keyed asked equal, find?_insert_self (Value.beq_refl_of_wellFormed keyed)]
    rfl
  | false =>
    -- A key that equals the one inserted cannot equal the one asked for as well.
    refine find?_insert_other equal (fun entry member located => ?_) value
    have entryKeyed := ((Value.wellFormed_dict_iff.mp dict).2 entry member).1
    rwa [Value.beq_comm_of_wellFormed asked entryKeyed,
      ← Value.beq_congr_of_wellFormed keyed entryKeyed located, Value.beq_comm_of_wellFormed keyed asked]

/-- After a removal its key, and every equal one, holds nothing. -/
theorem find?_erase :
    find? (erase entries key) other = if other == key then none else find? entries other := by
  -- The induction needs well-formed keys, but not that they are different.
  have members := (Value.wellFormed_dict_iff.mp dict).2
  clear dict
  induction entries with
  | nil => simp [erase, find?]
  | cons entry rest ih =>
    obtain ⟨⟨entryKeyed, _⟩, tail⟩ := List.forall_mem_cons.mp members
    have later := ih tail
    unfold erase at later ⊢
    cases removed : key == entry.1 with
    | true =>
      rw [List.filter_cons_of_neg (by simp [removed]), later, find?_cons]
      -- The entry that goes is found by no key but those that equal the one removed.
      rw [Value.beq_comm_of_wellFormed asked keyed, Value.beq_congr_of_wellFormed keyed entryKeyed removed,
        Value.beq_comm_of_wellFormed entryKeyed asked]
      cases other == entry.1 <;> rfl
    | false =>
      rw [List.filter_cons_of_pos (by simp [removed]), find?_cons, find?_cons, later]
      cases located : other == entry.1 with
      | false => rfl
      | true =>
        -- A key that finds the entry that stays is not the one removed.
        have different : (other == key) = false := by
          rw [Value.beq_congr_of_wellFormed asked entryKeyed located,
            Value.beq_comm_of_wellFormed entryKeyed keyed, removed]
        rw [different]
        rfl

/-- After an insertion where nothing was, a key holds what it held or the new value. -/
theorem find?_insertIfMissing (value : Value) :
    find? (insertIfMissing entries key value) other =
      if other == key then some ((find? entries other).getD value) else find? entries other := by
  unfold insertIfMissing contains
  cases equal : other == key with
  | true =>
    have agree : find? entries other = find? entries key := find?_of_beq keyed asked equal
    -- Whether the key is missing decides for all equal keys.
    cases found : find? entries key with
    | some old => simp [agree, found]
    | none => simp [agree, found, find?_insert dict keyed asked, equal]
  | false =>
    split
    · rfl
    · rw [find?_insert dict keyed asked, equal]
      rfl

end Entries

/-- The steps that write one key of a dict. -/
inductive KeyStep where
  /-- Puts a value under a key. -/
  | insert (key value : Value)
  /-- Removes a key. -/
  | remove (key : Value)
  /-- Assigns to what a subscript of any form selects. -/
  | assign (subscript : Subscript) (value : Value)
  /-- Assigns to what an index selects. -/
  | assignItem (index : Word64) (value : Value)
  /-- Puts a value under a key that has none. -/
  | insertIfMissing (key value : Value)

namespace KeyStep

/-- The step of a session. -/
def toStep : KeyStep → Step
  | .insert key value => .insert key value
  | .remove key => .remove key
  | .assign subscript value => .assignPath [subscript] value
  | .assignItem index value => .assignItem index value
  | .insertIfMissing key value => .editDict (.insertIfMissing key value)

/-- The key that is written. -/
def key : KeyStep → Value
  | .insert key _ => key
  | .remove key => key
  | .assign subscript _ => subscript.key
  | .assignItem index _ => .int index
  | .insertIfMissing key _ => key

/-- What the key holds after the step, by what it held before. -/
def effect : KeyStep → Option Value → Option Value
  | .insert _ value, _ => some value
  | .remove _, _ => none
  | .assign _ value, _ => some value
  | .assignItem _ value, _ => some value
  | .insertIfMissing _ value, held => some (held.getD value)

/-- The entries after the step. -/
def change (entries : Entries) : KeyStep → Entries
  | .insert key value => entries.insert key value
  | .remove key => entries.erase key
  | .assign subscript value => entries.insert subscript.key value
  | .assignItem index value => entries.insert (.int index) value
  | .insertIfMissing key value => entries.insertIfMissing key value

/-- All values that a step brings in are well formed. -/
def Sound (step : KeyStep) : Prop := ∀ argument ∈ step.toStep.arguments, argument.WellFormed

/-- The values that a step brings in can be tested. -/
instance (step : KeyStep) : Decidable step.Sound :=
  inferInstanceAs (Decidable (∀ argument ∈ step.toStep.arguments, argument.WellFormed))

/-- A dict stays a dict. -/
theorem run_dict (step : KeyStep) (entries : Entries) :
    (step.toStep.run (.dict entries)).value.1 = .dict (step.change entries) := by
  -- Each of the steps has a case for dicts.
  cases step <;> rfl

/-- The key of a sound step is well formed. -/
theorem wellFormed_key {step : KeyStep} (sound : step.Sound) : step.key.WellFormed := by
  -- The key is one of the values that the step brings in, or an integer.
  cases step with
  | assignItem index value => exact .int index
  | assign subscript value => exact sound subscript.key (by simp [toStep, Step.arguments])
  | _ => exact sound _ (by simp [toStep, Step.arguments, DictEdit.arguments, key])

/-- A step on a dict changes what its own key holds, and what no other key holds. -/
theorem find?_change {step : KeyStep} {entries : Entries} {asked : Value} (dict : (Value.dict entries).WellFormed)
    (sound : step.Sound) (keyed : asked.WellFormed) :
    Entries.find? (step.change entries) asked =
      if asked == step.key then step.effect (Entries.find? entries asked) else Entries.find? entries asked := by
  -- Each step is an insertion or a removal, for which the effect on all keys is known.
  have written := wellFormed_key sound
  cases step with
  | insert key value => exact Entries.find?_insert dict written keyed value
  | remove key => exact Entries.find?_erase dict written keyed
  | assign subscript value => exact Entries.find?_insert dict written keyed value
  | assignItem index value => exact Entries.find?_insert dict written keyed value
  | insertIfMissing key value => exact Entries.find?_insertIfMissing dict written keyed value

/-- A sound step keeps a dict well formed. -/
theorem wellFormed_change {step : KeyStep} {entries : Entries} (dict : (Value.dict entries).WellFormed)
    (sound : step.Sound) : (Value.dict (step.change entries)).WellFormed := by
  -- The entries are those of the state after the step.
  rw [← run_dict]
  exact Step.wellFormed_run dict sound

/-- What a key holds after steps, each of which changes it if it writes an equal key. -/
def held (asked : Value) (steps : List KeyStep) (start : Option Value) : Option Value :=
  steps.foldl (fun held step => if asked == step.key then step.effect held else held) start

/-- What a key holds is not changed by steps that write other keys. -/
theorem held_untouched {asked : Value} {steps : List KeyStep}
    (untouched : ∀ step ∈ steps, (asked == step.key) = false) (start : Option Value) :
    held asked steps start = start := by
  -- No step on the way writes the key.
  induction steps generalizing start with
  | nil => rfl
  | cons step rest ih =>
    obtain ⟨head, tail⟩ := List.forall_mem_cons.mp untouched
    rw [held, List.foldl_cons, head]
    exact ih tail start

/-- What a key holds is decided by the last step that writes it. -/
theorem held_last {asked : Value} {step : KeyStep} {after : List KeyStep} (written : (asked == step.key) = true)
    (untouched : ∀ later ∈ after, (asked == later.key) = false) (before : List KeyStep) (start : Option Value) :
    held asked (before ++ step :: after) start = step.effect (held asked before start) := by
  -- The steps before it only decide what it starts from, and those after it write other keys.
  rw [held, List.foldl_append, List.foldl_cons, written]
  exact held_untouched untouched _

/-- A run of steps on a dict leaves a dict whose keys hold what the steps say. -/
theorem exists_finalState {steps : List KeyStep} {entries : Entries} (dict : (Value.dict entries).WellFormed)
    (sound : ∀ step ∈ steps, step.Sound) :
    ∃ changed : Entries, finalState (.dict entries) (steps.map toStep) = .dict changed ∧
      (Value.dict changed).WellFormed ∧
      ∀ asked : Value, asked.WellFormed →
        Entries.find? changed asked = held asked steps (Entries.find? entries asked) := by
  induction steps generalizing entries with
  | nil => exact ⟨entries, rfl, dict, fun _ _ => rfl⟩
  | cons step rest ih =>
    obtain ⟨head, tail⟩ := List.forall_mem_cons.mp sound
    obtain ⟨changed, final, whole, reads⟩ := ih (wellFormed_change dict head) tail
    refine ⟨changed, ?_, whole, ?_⟩
    · rw [← final, ← run_dict]
      rfl
    · -- The first step decides what the others start from.
      intro asked keyed
      rw [reads asked keyed, find?_change dict head keyed]
      rfl

end KeyStep

/-- All ways to read a key report what it holds, a key that holds nothing reading as absent. -/
structure Reports (dict key : Value) (held : Option Value) : Prop where
  /-- It is found. -/
  found : dict.get? key = held
  /-- It is present if it holds something. -/
  present : dict.containsKey key = held.isSome
  /-- It is read by every subscript that stands for the key. -/
  picked : ∀ subscript : Subscript, subscript.key = key → dict.pickBy subscript = held.getD .null
  /-- It is selected by every such subscript, with no fault and no record. -/
  selected : ∀ subscript : Subscript, subscript.key = key → dict.select subscript = pure (.ok (held.getD .null))
  /-- A removal answers it. -/
  removed : ((Step.remove key).run dict).value.2 = .ok (.found held)

/-- Dicts report what a search through their entries finds. -/
theorem reports_find? (entries : Entries) (key : Value) :
    Reports (.dict entries) key (Entries.find? entries key) where
  found := rfl
  present := rfl
  -- A subscript is looked up through its key.
  picked := by
    rintro subscript rfl
    exact Value.pickBy_dict entries subscript
  selected := by
    rintro subscript rfl
    rw [Value.select, Value.itemBy_dict]
  removed := rfl

/-- The keys of a dict are those that hold something. -/
theorem contains_keys (entries : Entries) (key : Value) :
    (Value.dict entries).keys.contains key = (Entries.find? entries key).isSome := by
  -- The search for a key and the test of membership compare in the same way.
  show (entries.map Prod.fst).contains key = _
  induction entries with
  | nil => rfl
  | cons entry rest ih =>
    rw [List.map_cons, List.contains_cons, ih, Entries.find?_cons]
    cases key == entry.1 <;> rfl

/-- The dict that results from inserting pairs in order, starting from an empty one. -/
def insertInOrder (pairs : List (Value × Value)) : Value :=
  finalState (.dict []) (pairs.map fun pair => .insert pair.1 pair.2)

/-- Entries that result from pairs are those that result from inserting the pairs one after the other. -/
theorem dict_ofPairs (pairs : List (Value × Value)) : Value.dict (Entries.ofPairs pairs) = insertInOrder pairs := by
  -- The insertions may start from any entries, as they do after the first of them.
  suffices every : ∀ entries : Entries,
      Value.dict (pairs.foldl (fun entries pair => Entries.insert entries pair.1 pair.2) entries) =
        finalState (.dict entries) (pairs.map fun pair => .insert pair.1 pair.2) from every []
  induction pairs with
  | nil => exact fun _ => rfl
  | cons pair rest ih => exact fun entries => ih (entries.insert pair.1 pair.2)

/-- Of the insertions under equal keys the last one stands. -/
theorem held_insertions (key : Value) (pairs : List (Value × Value)) (start : Option Value) :
    KeyStep.held key (pairs.map fun pair => .insert pair.1 pair.2) start =
      ((pairs.reverse.find? fun pair => key == pair.1).map Prod.snd).or start := by
  induction pairs generalizing start with
  | nil => rfl
  | cons pair rest ih =>
    rw [List.map_cons, KeyStep.held, List.foldl_cons, ← KeyStep.held, ih, List.reverse_cons, List.find?_append]
    -- What comes later is looked at first.
    cases rest.reverse.find? fun pair => key == pair.1 with
    | some later => rfl
    | none => cases located : key == pair.1 <;> simp [located, KeyStep.key, KeyStep.effect]

/-- A key of a dict made from pairs holds the value of the last pair with an equal key. -/
theorem get?_insertInOrder {pairs : List (Value × Value)} {key : Value}
    (members : ∀ pair ∈ pairs, pair.1.WellFormed ∧ pair.2.WellFormed) (keyed : key.WellFormed) :
    (insertInOrder pairs).get? key = (pairs.reverse.find? fun pair => key == pair.1).map Prod.snd := by
  -- Inserting pairs is a run like any other.
  have sound : ∀ step ∈ pairs.map (fun pair => KeyStep.insert pair.1 pair.2), step.Sound := by
    refine List.forall_mem_map.mpr fun pair member => ?_
    exact List.forall_mem_cons.mpr ⟨(members pair member).1, List.forall_mem_singleton.mpr (members pair member).2⟩
  obtain ⟨changed, final, _, reads⟩ := KeyStep.exists_finalState (.dict .nil (by simp) (by simp)) sound
  rw [List.map_map] at final
  have built : insertInOrder pairs = .dict changed := final
  have found := reads key keyed
  rw [held_insertions] at found
  rw [built, Value.get?]
  exact found.trans (by simp [Entries.find?])

/-- A text as a key reads the same as its value, of every value. -/
structure ReadsText (value : Value) (text : String) : Prop where
  /-- The same is found. -/
  found : value.getText? text = value.get? (.str text)
  /-- It is present together with the value. -/
  present : value.containsText text = value.containsKey (.str text)
  /-- The same is read. -/
  picked : value.pickBy (.text text) = value.pickBy (.value (.str text))
  /-- The same is selected, with the same faults and records. -/
  selected : value.select (.text text) = value.select (.value (.str text))

/-- No value tells a text from its value. -/
theorem readsText (value : Value) (text : String) : ReadsText value text := by
  -- Only dicts look a text up, and their search for a text is the search for its value.
  have found : value.getText? text = value.get? (.str text) := by
    cases value with
    | dict entries => exact Entries.findText?_eq entries text
    | _ => rfl
  have items : value.itemBy (.text text) = value.itemBy (.value (.str text)) := by
    cases value with
    | dict entries => rw [Value.itemBy_dict, Value.itemBy_dict]; rfl
    | _ => rfl
  refine ⟨found, ?_, ?_, ?_⟩
  · rw [Value.containsText, found, Value.containsKey]
  · cases value with
    | dict entries => rw [Value.pickBy_dict, Value.pickBy_dict]; rfl
    | _ => rfl
  · rw [Value.select, items, Value.select]

/-- A run of steps on a dict is a run of writes on a finite map. -/
structure MapRun (entries : Entries) (steps : List KeyStep) (final : Value) : Prop where
  /-- The state stays a dict. -/
  isDict : final.kind = .dict
  /-- All ways to read a key report what the writes leave there. -/
  reads : ∀ key : Value, key.WellFormed → Reports final key (KeyStep.held key steps (Entries.find? entries key))
  /-- Equal keys hold one and the same value. -/
  equalKeys : ∀ key other : Value, key.WellFormed → other.WellFormed → (key == other) = true →
    final.get? key = final.get? other
  /-- The last step that writes a key decides what it holds. -/
  last : ∀ (key : Value) (before : List KeyStep) (step : KeyStep) (after : List KeyStep), key.WellFormed →
    steps = before ++ step :: after → (key == step.key) = true →
    (∀ later ∈ after, (key == later.key) = false) →
    final.get? key = step.effect ((finalState (.dict entries) (before.map KeyStep.toStep)).get? key)
  /-- A key that no step writes keeps what it held. -/
  untouched : ∀ key : Value, key.WellFormed → (∀ step ∈ steps, (key == step.key) = false) →
    final.get? key = Entries.find? entries key
  /-- A further step changes no other key than its own. -/
  frame : ∀ (step : KeyStep) (key : Value), step.Sound → key.WellFormed → (key == step.key) = false →
    (step.toStep.run final).value.1.get? key = final.get? key
  /-- The keys of the dict are those that hold something, each listed once. -/
  keys : final.keys.Pairwise (fun a b => (a == b) = false) ∧
    ∀ key : Value, final.keys.contains key = final.containsKey key
  /-- The size is the number of keys that hold something. -/
  size : final.size = final.keys.length

/-- Every run of sound steps on a well-formed dict is a run of writes on a finite map. -/
theorem mapRun_finalState {entries : Entries} {steps : List KeyStep} (dict : (Value.dict entries).WellFormed)
    (sound : ∀ step ∈ steps, step.Sound) :
    MapRun entries steps (finalState (.dict entries) (steps.map KeyStep.toStep)) := by
  obtain ⟨changed, final, whole, reads⟩ := KeyStep.exists_finalState dict sound
  rw [final]
  constructor
  case isDict => rfl
  case reads =>
    intro key keyed
    rw [← reads key keyed]
    exact reports_find? changed key
  case equalKeys =>
    intro key other keyed asked equal
    exact Entries.find?_of_beq asked keyed equal
  case last =>
    rintro key before step after keyed rfl written later
    -- The steps before the last write are a run of their own.
    obtain ⟨earlier, reached, _, held⟩ := KeyStep.exists_finalState dict
      fun step member => sound step (List.mem_append_left _ member)
    have ended := reads key keyed
    rw [KeyStep.held_last written later, ← held key keyed] at ended
    rw [reached]
    exact ended
  case untouched =>
    intro key keyed others
    exact (reads key keyed).trans (KeyStep.held_untouched others _)
  case frame =>
    intro step key stepSound keyed different
    -- The state after the run is well formed, so that the law of one step applies to it.
    have next := KeyStep.find?_change whole stepSound keyed
    rw [different] at next
    rw [KeyStep.run_dict]
    exact next
  case keys =>
    refine ⟨?_, contains_keys changed⟩
    -- No run gives a dict two equal keys.
    exact List.pairwise_map.mpr (Value.wellFormed_dict_iff.mp whole).1
  case size => exact (List.length_map _).symm

/--
A dict is a finite map from keys, equal ones counting as one, to values.

Runs of writes of any kind and length are runs of writes on the map, texts are read like their values, and a dict that is
made from a list of entries is the one that results from inserting them in order. Whatever the hash function, it is enough
to look for a key among those with its hash.
-/
theorem dict_finiteMap :
    (∀ (entries : Entries) (steps : List KeyStep), (Value.dict entries).WellFormed → (∀ step ∈ steps, step.Sound) →
      MapRun entries steps (finalState (.dict entries) (steps.map KeyStep.toStep))) ∧
    (∀ (value : Value) (text : String), ReadsText value text) ∧
    (∀ trees : List (Tree × Tree), (Tree.map trees).toValue = (Tree.toPairs trees).map insertInOrder ∧
      ∀ pairs, Tree.toPairs trees = .ok pairs → ∀ pair ∈ pairs, pair.1.WellFormed ∧ pair.2.WellFormed) ∧
    (∀ (k : KeyTy) (t : Ty) (table : (Ty.map k t).Carrier), (Ty.map k t).toValue table =
      insertInOrder (table.entries.map fun entry => (k.toValue entry.1, t.toValue entry.2))) ∧
    (∀ (pairs : List (Value × Value)) (key : Value), (∀ pair ∈ pairs, pair.1.WellFormed ∧ pair.2.WellFormed) →
      key.WellFormed →
      (insertInOrder pairs).get? key = (pairs.reverse.find? fun pair => key == pair.1).map Prod.snd) ∧
    ∀ (hash : List UInt8 → UInt64) (entries : Entries), Entries.Hashed hash entries := by
  -- A map in a tree and a native map are both read as insertions in order.
  refine ⟨?_, readsText, ?_, ?_, ?_, Entries.hashed⟩
  · intro entries steps dict sound
    exact mapRun_finalState dict sound
  · intro trees
    constructor
    · rw [Tree.toValue_map]
      exact congrArg (Except.map · _) (funext dict_ofPairs)
    · intro pairs read
      exact Tree.wellFormed_toPairs read fun _ _ =>
        ⟨fun _ => Tree.wellFormed_toValue, fun _ => Tree.wellFormed_toValue⟩
  · intro k t table
    rw [Ty.toValue]
    exact dict_ofPairs _
  · intro pairs key members keyed
    exact get?_insertInOrder members keyed

/-- Integers, truth values and texts that look alike are keys of their own, and the last entry of a list wins. -/
theorem dict_finiteMap_lookalikes :
    MapRun [(.bool true, .str "a"), (.float Binary.nan, .null)]
      [.assign (.int32 1) (.str "b"), .insert (.float Binary.nan) (.int 2), .remove (.bool true),
        .assign (.text "1") .null, .assignItem 1 (.str "c"), .insertIfMissing (.int 1) .null]
      (finalState (.dict [(.bool true, .str "a"), (.float Binary.nan, .null)])
        (List.map KeyStep.toStep [.assign (.int32 1) (.str "b"), .insert (.float Binary.nan) (.int 2),
          .remove (.bool true), .assign (.text "1") .null, .assignItem 1 (.str "c"),
          .insertIfMissing (.int 1) .null])) ∧
      (insertInOrder [(.int 1, .null), (.bool true, .int 2), (.int 1, .int 3)]).get? (.int 1) = some (.int 3) :=
  ⟨dict_finiteMap.1 _ _ (by decide) (by decide),
    dict_finiteMap.2.2.2.2.1 [(.int 1, .null), (.bool true, .int 2), (.int 1, .int 3)] (.int 1) (by decide) (by decide)⟩

end DynValue
