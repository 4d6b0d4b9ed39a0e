import DynValue.Proofs.Value.Place

/-!
Where a path leads for change, and what its failure leaves behind.

Every change along a path is a change of the one slot that the path reaches. A path that reaches a slot reads what is in
it, reads back what is put there, and lets all paths that part from it read what they read before.
-/

namespace DynValue.Value

/-- The slot a path leads to, or the value that is left behind and the fault where it leads nowhere. -/
def reach (value : Value) : List Subscript → Except (Value × Fault) Slot
  | [] => .ok ⟨value, id⟩
  | subscript :: rest =>
    match value.slotBy subscript with
    | .error fault => .error (value, fault)
    | .ok slot =>
      match slot.content.reach rest with
      | .error (content, fault) => .error (slot.put content, fault)
      | .ok inner => .ok ⟨inner.content, fun content => slot.put (inner.put content)⟩

/-- The values that the subscripts of a path are applied to, as far as the path can be read. -/
def visited (value : Value) : List Subscript → List Value
  | [] => []
  | subscript :: rest =>
    value :: match value.itemBy subscript with
      | .ok element => element.visited rest
      | .error _ => []

/-- The places that the subscripts of a path select, up to the first that cannot be read. -/
def places (value : Value) : List Subscript → List (Option Place)
  | [] => []
  | subscript :: rest =>
    value.place? subscript :: match value.itemBy subscript with
      | .ok element => element.places rest
      | .error _ => []

/-- Two paths part when the places of neither continue those of the other. -/
def Part (value : Value) (path other : List Subscript) : Prop :=
  (value.places path).isPrefixOf (value.places other) = false ∧
    (value.places other).isPrefixOf (value.places path) = false

/-- The places of two paths can be compared. -/
instance (value : Value) (path other : List Subscript) : Decidable (value.Part path other) :=
  inferInstanceAs (Decidable (_ ∧ _))

/-- The keys on a path contain no dict with two equal keys. -/
def Keyed (path : List Subscript) : Prop :=
  ∀ subscript ∈ path, subscript.WellFormed

/-- The keys on a path can be tested. -/
instance (path : List Subscript) : Decidable (Keyed path) :=
  inferInstanceAs (Decidable (∀ subscript ∈ path, subscript.WellFormed))

/-- The keys on a path are those of its first subscript and of the rest. -/
theorem keyed_cons {subscript : Subscript} {rest : List Subscript} :
    Keyed (subscript :: rest) ↔ subscript.WellFormed ∧ Keyed rest :=
  List.forall_mem_cons

/-- Reading goes on in what the first subscript reads. -/
theorem selectPath_cons_ok {value element : Value} {subscript : Subscript}
    (read : value.itemBy subscript = .ok element) (rest : List Subscript) :
    value.selectPath (subscript :: rest) = element.selectPath rest := by
  -- The first subscript reads an element, and no record is made.
  rw [selectPath, select, read]
  rfl

/-- Reading stops with a record at the first subscript that fails. -/
theorem selectPath_cons_error {value : Value} {subscript : Subscript} {fault : Fault}
    (failed : value.itemBy subscript = .error fault) (rest : List Subscript) :
    value.selectPath (subscript :: rest) = .report (.subscriptFailed fault) (.error fault) := by
  -- The rest of the path is not looked at.
  rw [selectPath, select, failed]
  rfl

/-- Changing along a path changes the slot it reaches, or records the fault and leaves what is left behind. -/
theorem changePath_eq_reach {α : Type} (change : Value → Traced (Value × α)) (value : Value)
    (path : List Subscript) :
    value.changePath change path = match value.reach path with
      | .ok slot =>
        ⟨(slot.put (change slot.content).value.1, .ok (change slot.content).value.2),
          (change slot.content).records⟩
      | .error (left, fault) => .report (.subscriptFailed fault) (left, .error fault) := by
  -- The induction follows the path, and every step adds nothing to the records of the next.
  induction path generalizing value with
  | nil =>
    rw [changePath, reach]
    -- Nothing is recorded apart from what the change itself records.
    show Traced.mk _ ((change value).records ++ []) = _
    rw [List.append_nil]
    rfl
  | cons subscript rest ih =>
    rw [changePath, reach]
    cases found : value.slotBy subscript with
    | error fault => rfl
    | ok slot =>
      -- The change further down is put back into the slot, whether it succeeds or fails.
      show Traced.mk _ ((changePath change slot.content rest).records ++ []) = _
      rw [List.append_nil, ih slot.content]
      cases below : slot.content.reach rest with
      | error failure =>
        simp only [below]
        rfl
      | ok inner =>
        simp only [below]
        rfl

/-- An assignment puts the new value into the slot that the path reaches, and answers with the old one. -/
theorem assignPath_of_reach {value : Value} {path : List Subscript} {slot : Slot}
    (reached : value.reach path = .ok slot) (new : Value) :
    value.assignPath path new = ⟨(slot.put new, .ok slot.content), []⟩ := by
  -- The change puts the new value in and gives the old content out.
  rw [assignPath, changePath_eq_reach, reached]
  rfl

/-- An assignment that reaches no slot records its fault and answers with it. -/
theorem assignPath_of_unreached {value left : Value} {path : List Subscript} {fault : Fault}
    (failed : value.reach path = .error (left, fault)) (new : Value) :
    value.assignPath path new = .report (.subscriptFailed fault) (left, .error fault) := by
  -- No change takes place, and what is left behind is what the failure left.
  rw [assignPath, changePath_eq_reach, failed]

/-- A subscript without a slot ends a path at once. -/
theorem reach_cons_error {value : Value} {subscript : Subscript} {fault : Fault}
    (failed : value.slotBy subscript = .error fault) (rest : List Subscript) :
    value.reach (subscript :: rest) = .error (value, fault) := by
  -- The value is given back as it was.
  rw [reach, failed]

/-- A failure further down leaves its content in the first slot. -/
theorem reach_cons_inner_error {value content : Value} {subscript : Subscript} {rest : List Subscript}
    {slot : Slot} {fault : Fault} (found : value.slotBy subscript = .ok slot)
    (failed : slot.content.reach rest = .error (content, fault)) :
    value.reach (subscript :: rest) = .error (slot.put content, fault) := by
  -- Entries that the rest of the path has added stay where they are.
  rw [reach, found]
  simp only [failed]

/-- A slot further down is changed through the first slot. -/
theorem reach_cons_ok {value : Value} {subscript : Subscript} {rest : List Subscript} {slot inner : Slot}
    (found : value.slotBy subscript = .ok slot) (reached : slot.content.reach rest = .ok inner) :
    value.reach (subscript :: rest) =
      .ok ⟨inner.content, fun content => slot.put (inner.put content)⟩ := by
  -- What is put into the inner slot is put into the outer one with it.
  rw [reach, found]
  simp only [reached]

/-- A path that reaches a slot passes through the slot of its first subscript. -/
theorem reach_cons_cases {value : Value} {subscript : Subscript} {rest : List Subscript} {slot : Slot}
    (reached : value.reach (subscript :: rest) = .ok slot) :
    ∃ outer inner, value.slotBy subscript = .ok outer ∧ outer.content.reach rest = .ok inner ∧
      slot = ⟨inner.content, fun content => outer.put (inner.put content)⟩ := by
  -- A failure at the first subscript or further down would be the failure of the path.
  cases found : value.slotBy subscript with
  | error fault =>
    rw [reach_cons_error found] at reached
    contradiction
  | ok outer =>
    cases below : outer.content.reach rest with
    | error failure =>
      rw [reach_cons_inner_error found below] at reached
      contradiction
    | ok inner =>
      rw [reach_cons_ok found below] at reached
      exact ⟨outer, inner, rfl, below, (Except.ok.inj reached).symm⟩

/-- A path that reaches no slot fails at its first subscript, or leaves in the slot of it what the rest left. -/
theorem reach_cons_error_cases {value left : Value} {subscript : Subscript} {rest : List Subscript}
    {fault : Fault} (failed : value.reach (subscript :: rest) = .error (left, fault)) :
    value.slotBy subscript = .error fault ∧ left = value ∨
      ∃ outer content, value.slotBy subscript = .ok outer ∧
        outer.content.reach rest = .error (content, fault) ∧ left = outer.put content := by
  -- The path fails at its first subscript or below the slot that it gives.
  cases found : value.slotBy subscript with
  | error cause =>
    rw [reach_cons_error found] at failed
    cases failed
    exact .inl ⟨rfl, rfl⟩
  | ok outer =>
    cases below : outer.content.reach rest with
    | ok inner =>
      rw [reach_cons_ok found below] at failed
      contradiction
    | error failure =>
      obtain ⟨content, cause⟩ := failure
      rw [reach_cons_inner_error found below] at failed
      cases failed
      exact .inr ⟨outer, content, rfl, below, rfl⟩

/-- A path that reaches a slot reads what is in it, and passes through no tuple. -/
theorem selectPath_of_reach {value : Value} {path : List Subscript} {slot : Slot}
    (reached : value.reach path = .ok slot) :
    value.selectPath path = pure (.ok slot.content) ∧
      ∀ container ∈ value.visited path, container.kind ≠ .tuple := by
  -- Every slot on the way is one of a list or dict, and holds what its subscript reads.
  induction path generalizing value slot with
  | nil =>
    rw [reach, Except.ok.injEq] at reached
    subst reached
    exact ⟨rfl, by simp [visited]⟩
  | cons subscript rest ih =>
    obtain ⟨outer, inner, found, below, rfl⟩ := reach_cons_cases reached
    obtain ⟨read, clear⟩ := ih below
    have first := itemBy_of_slotBy found
    refine ⟨(selectPath_cons_ok first rest).trans read, ?_⟩
    simp only [visited, first, List.forall_mem_cons]
    exact ⟨kind_ne_tuple_of_slotBy found, clear⟩

/-- A path that can be read and passes through no tuple reaches a slot. -/
theorem reach_of_selectPath {value : Value} {path : List Subscript}
    (readable : ∃ element, (value.selectPath path).value = .ok element)
    (clear : ∀ container ∈ value.visited path, container.kind ≠ .tuple) :
    ∃ slot, value.reach path = .ok slot := by
  -- The path goes on in the content of each slot, which is what it reads.
  induction path generalizing value with
  | nil => exact ⟨_, rfl⟩
  | cons subscript rest ih =>
    cases found : value.slotBy subscript with
    | error fault =>
      -- Away from tuples, a subscript that cannot change cannot read either.
      have head : value.kind ≠ .tuple := clear value (by simp [visited])
      have failed := (slotBy_error_cases found).resolve_left head
      rw [selectPath_cons_error failed] at readable
      obtain ⟨element, read⟩ := readable
      contradiction
    | ok outer =>
      have first := itemBy_of_slotBy found
      simp only [visited, first, List.forall_mem_cons] at clear
      rw [selectPath_cons_ok first] at readable
      obtain ⟨inner, below⟩ := ih readable clear.2
      exact ⟨_, reach_cons_ok found below⟩

/-- What is put into a reached slot stands there for the same path, ready to be replaced in the same way. -/
theorem reach_put {value : Value} {path : List Subscript} {slot : Slot} (keyed : Keyed path)
    (reached : value.reach path = .ok slot) (content : Value) :
    (slot.put content).reach path = .ok ⟨content, slot.put⟩ := by
  -- The first slot stands for its subscript again, and its new content is reached by the rest.
  induction path generalizing value slot with
  | nil =>
    rw [reach, Except.ok.injEq] at reached
    subst reached
    rfl
  | cons subscript rest ih =>
    obtain ⟨outer, inner, found, below, rfl⟩ := reach_cons_cases reached
    obtain ⟨key, keyed⟩ := keyed_cons.mp keyed
    exact reach_cons_ok (slotBy_put key found _) (ih keyed below)

/-- Paths that part from a reached one read the same whatever is put into its slot. -/
theorem selectPath_put_of_part {value : Value} {path other : List Subscript} {slot : Slot}
    (keyed : Keyed path) (otherKeyed : Keyed other) (reached : value.reach path = .ok slot)
    (part : value.Part path other) (content : Value) :
    (slot.put content).selectPath other = value.selectPath other := by
  -- Both paths are followed together until they select different places.
  induction path generalizing value other slot with
  | nil => simp [Part, places] at part
  | cons subscript rest ih =>
    obtain ⟨outer, inner, found, below, rfl⟩ := reach_cons_cases reached
    obtain ⟨key, keyed⟩ := keyed_cons.mp keyed
    cases other with
    | nil => simp [Part, places] at part
    | cons next others =>
      obtain ⟨otherKey, otherKeyed⟩ := keyed_cons.mp otherKeyed
      have first := itemBy_of_slotBy found
      cases same : value.place? subscript == value.place? next with
      | false =>
        -- At different places the whole rest of the other path sees an unchanged value.
        have unchanged := itemBy_put_of_other_place key otherKey found same (inner.put content)
        cases read : value.itemBy next with
        | error fault =>
          rw [selectPath_cons_error read, selectPath_cons_error (unchanged.trans read)]
        | ok element => rw [selectPath_cons_ok read, selectPath_cons_ok (unchanged.trans read)]
      | true =>
        -- At the same place both paths go on in the content of the slot.
        have read := itemBy_of_same_place key otherKey found same
        have samePut : ((outer.put (inner.put content)).place? subscript ==
            (outer.put (inner.put content)).place? next) = true := by
          rwa [place?_put found, place?_put found]
        have readPut := itemBy_of_same_place key otherKey (slotBy_put key found _) samePut
        rw [selectPath_cons_ok read, selectPath_cons_ok readPut]
        have reversed : (value.place? next == value.place? subscript) = true := by
          rwa [← place?_beq_comm value key otherKey]
        -- The first places agree, so that it is the rests of the paths that part.
        simp only [Part, places, first, read, List.isPrefixOf, same, reversed, Bool.true_and] at part
        exact ih keyed otherKeyed below part

end DynValue.Value
