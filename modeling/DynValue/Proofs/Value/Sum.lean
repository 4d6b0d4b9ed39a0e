import DynValue.Proofs.Value.Expression

/-!
Sums of several values do not depend on where the brackets stand, as long as no value is a float.

Values of one kind are added or joined, which is associative. Values of different kinds have no sum, and the absent value
that stands for it makes every sum around it absent.
-/

namespace DynValue

/-- Whether values of a kind have a sum that is no float. -/
def Kind.isAdditive : Kind → Bool
  | .int | .str | .list | .tuple => true
  | _ => false

namespace Value

/-- The sum of two values without its records. -/
def plus (a b : Value) : Value := (a.apply .add b).value

/-- A sum with the absent value is absent. -/
theorem plus_null {a b : Value} (absent : a = .null ∨ b = .null) : a.plus b = .null :=
  apply_null .add a b absent

variable {a b c : Value}

/-- The sum of values of one additive kind is of that kind. -/
theorem kind_plus (same : a.kind = b.kind) (additive : a.kind.isAdditive = true) : (a.plus b).kind = a.kind := by
  -- For each additive kind the sum of two values of the kind is computed.
  cases a <;> simp only [kind, Kind.isAdditive, Bool.false_eq_true] at additive <;>
    cases b <;> simp only [kind, reduceCtorEq] at same <;> rfl

/-- Values that are not of one additive kind have no sum, unless one of them is a float. -/
theorem plus_of_mixed (first : a.kind ≠ .float) (second : b.kind ≠ .float)
    (mixed : ¬(a.kind = b.kind ∧ a.kind.isAdditive = true)) : a.plus b = .null := by
  -- Of all pairs of kinds, those are left that the sum does not list.
  cases a <;> cases b <;> simp [kind, Kind.isAdditive] at first second mixed <;> rfl

/-- No sum is a float if no term is. -/
theorem kind_plus_ne_float (first : a.kind ≠ .float) (second : b.kind ≠ .float) : (a.plus b).kind ≠ .float := by
  -- Either the terms are of one additive kind, or their sum is absent.
  by_cases mixed : a.kind = b.kind ∧ a.kind.isAdditive = true
  · rwa [kind_plus mixed.1 mixed.2]
  · rw [plus_of_mixed first second mixed]
    simp [kind]

/-- Addition within one additive kind is associative. -/
theorem plus_assoc_of_kind (first : a.kind = b.kind) (second : b.kind = c.kind) (additive : a.kind.isAdditive = true) :
    (a.plus b).plus c = a.plus (b.plus c) := by
  -- All three are of the kind of the first, so that four cases are left, one for each additive kind.
  cases a <;> simp only [kind, Kind.isAdditive, Bool.false_eq_true] at additive <;>
    cases b <;> simp only [kind, reduceCtorEq] at first <;> cases c <;> simp only [kind, reduceCtorEq] at second
  case int.int.int x y z => exact congrArg (Value.int ⟨·⟩) (BitVec.add_assoc x.bits y.bits z.bits)
  case str.str.str x y z => exact congrArg Value.str (String.append_assoc)
  case list.list.list x y z => exact congrArg Value.list (List.append_assoc x y z)
  case tuple.tuple.tuple x y z => exact congrArg Value.tuple (List.append_assoc x y z)

/-- Addition is associative away from floats. -/
theorem plus_assoc (first : a.kind ≠ .float) (second : b.kind ≠ .float) (third : c.kind ≠ .float) :
    (a.plus b).plus c = a.plus (b.plus c) := by
  by_cases left : a.kind = b.kind ∧ a.kind.isAdditive = true
  · obtain ⟨same, additive⟩ := left
    by_cases right : b.kind = c.kind
    · exact plus_assoc_of_kind same right additive
    · -- The last term is of another kind than the first two, so that neither of them can be added to it.
      have outer : (a.plus b).plus c = .null :=
        plus_of_mixed (kind_plus_ne_float first second) third (by rw [kind_plus same additive, same]; simp [right])
      have inner : b.plus c = .null := plus_of_mixed second third (by simp [right])
      rw [outer, inner, plus_null (.inr rfl)]
  · -- The first two terms have no sum, and the first has none with what the last two give either.
    have inner : a.plus b = .null := plus_of_mixed first second left
    rw [inner, plus_null (.inl rfl)]
    by_cases right : b.kind = c.kind ∧ b.kind.isAdditive = true
    · have kept := kind_plus right.1 right.2
      exact (plus_of_mixed first (kind_plus_ne_float second third) (by rwa [kept])).symm
    · rw [plus_of_mixed second third right, plus_null (.inr rfl)]

/-- A sum can be added to a value by adding its first term first. -/
theorem plus_foldl {rest : List Value} (first : a.kind ≠ .float) (second : b.kind ≠ .float)
    (others : ∀ value ∈ rest, value.kind ≠ .float) : a.plus (rest.foldl plus b) = rest.foldl plus (a.plus b) := by
  -- The laws of associative folds ask for associativity everywhere, which floats do not have.
  induction rest generalizing b with
  | nil => rfl
  | cons value rest ih =>
    obtain ⟨third, others⟩ := List.forall_mem_cons.mp others
    rw [List.foldl_cons, List.foldl_cons, ih (kind_plus_ne_float second third) others,
      plus_assoc first second third]

/-- No sum of several values is a float if no term is. -/
theorem kind_foldl_plus_ne_float {rest : List Value} (first : a.kind ≠ .float)
    (others : ∀ value ∈ rest, value.kind ≠ .float) : (rest.foldl plus a).kind ≠ .float := by
  -- The sum so far is no float, and the next term does not make it one.
  induction rest generalizing a with
  | nil => exact first
  | cons value rest ih =>
    obtain ⟨second, others⟩ := List.forall_mem_cons.mp others
    exact ih (kind_plus_ne_float first second) others

/-- A sum of values of one additive kind is of that kind. -/
theorem kind_foldl_plus {kind : Kind} {rest : List Value} (additive : kind.isAdditive = true) (first : a.kind = kind)
    (others : ∀ value ∈ rest, value.kind = kind) : (rest.foldl plus a).kind = kind := by
  -- The sum so far is of the kind, and so is the next term.
  induction rest generalizing a with
  | nil => exact first
  | cons value rest ih =>
    obtain ⟨second, others⟩ := List.forall_mem_cons.mp others
    exact ih ((kind_plus (first.trans second.symm) (first ▸ additive)).trans first) others

/-- An absent sum stays absent, whatever is added. -/
theorem foldl_plus_null (rest : List Value) : rest.foldl plus .null = .null := by
  -- Every further sum has an absent term.
  induction rest with
  | nil => rfl
  | cons value rest ih => rw [List.foldl_cons, plus_null (.inl rfl), ih]

/-- The values are all of one kind, and an additive one. -/
def OfOneKind (values : List Value) : Prop :=
  ∃ kind : Kind, kind.isAdditive = true ∧ ∀ value ∈ values, value.kind = kind

/-- A sum of at least two values that are not of one additive kind is absent. -/
theorem foldl_plus_of_mixed {rest : List Value} (several : rest ≠ []) (first : a.kind ≠ .float)
    (others : ∀ value ∈ rest, value.kind ≠ .float) (mixed : ¬OfOneKind (a :: rest)) : rest.foldl plus a = .null := by
  -- The partial sum keeps the kind of the terms so far, until a term does not fit and it is absent for good.
  induction rest generalizing a with
  | nil => contradiction
  | cons value rest ih =>
    obtain ⟨second, others⟩ := List.forall_mem_cons.mp others
    rw [List.foldl_cons]
    by_cases added : a.kind = value.kind ∧ a.kind.isAdditive = true
    · obtain ⟨same, additive⟩ := added
      have kept := kind_plus same additive
      -- The first two terms have a sum of their own kind, so that it is a later term that does not fit.
      have later : ¬OfOneKind (a.plus value :: rest) := by
        rintro ⟨kind, isAdditive, all⟩
        obtain ⟨head, tail⟩ := List.forall_mem_cons.mp all
        have same' : a.kind = kind := kept ▸ head
        refine mixed ⟨kind, isAdditive, ?_⟩
        simpa [same', ← same] using tail
      cases rest with
      | nil => exact absurd ⟨a.kind, additive, by simp [kept]⟩ later
      | cons next rest => exact ih (by simp) (kind_plus_ne_float first second) others later
    · rw [plus_of_mixed first second added, foldl_plus_null]

end Value

/-- A sum of several values with brackets. -/
inductive Bracketing where
  /-- A value by itself. -/
  | term (value : Value)
  /-- The sum of two sums. -/
  | sum (left right : Bracketing)

namespace Bracketing

/-- The values that are added, in order. -/
def terms : Bracketing → List Value
  | .term value => [value]
  | .sum left right => left.terms ++ right.terms

/-- The expression that adds the values as the brackets say. -/
def toExpression : Bracketing → Expression
  | .term value => .constant value
  | .sum left right => .binary .add left.toExpression right.toExpression

/-- The value of the sum. -/
def total (bracketing : Bracketing) : Value := bracketing.toExpression.eval.value

/-- The total of two bracketings is the sum of their totals. -/
theorem total_sum (left right : Bracketing) : (sum left right).total = left.total.plus right.total := rfl

/-- Every sequence of values that is not empty can be added. -/
theorem exists_terms {values : List Value} (several : values ≠ []) :
    ∃ bracketing : Bracketing, bracketing.terms = values := by
  induction values with
  | nil => contradiction
  | cons value rest ih =>
    cases rest with
    | nil => exact ⟨.term value, rfl⟩
    | cons next rest =>
      -- The brackets may all stand to the right.
      obtain ⟨bracketing, same⟩ := ih (by simp)
      exact ⟨.sum (.term value) bracketing, by rw [terms, terms, same]; rfl⟩

/-- Without floats the value of a sum is that of adding its terms from left to right. -/
theorem exists_total {bracketing : Bracketing} (floatless : ∀ value ∈ bracketing.terms, value.kind ≠ .float) :
    ∃ first rest, bracketing.terms = first :: rest ∧ bracketing.total = rest.foldl Value.plus first := by
  induction bracketing with
  | term value => exact ⟨value, [], rfl, rfl⟩
  | sum left right leftIH rightIH =>
    obtain ⟨inLeft, inRight⟩ := List.forall_mem_append.mp floatless
    obtain ⟨a, as, leftTerms, leftTotal⟩ := leftIH inLeft
    obtain ⟨b, bs, rightTerms, rightTotal⟩ := rightIH inRight
    rw [leftTerms, List.forall_mem_cons] at inLeft
    rw [rightTerms, List.forall_mem_cons] at inRight
    refine ⟨a, as ++ b :: bs, by rw [terms, leftTerms, rightTerms]; rfl, ?_⟩
    -- The brackets around the second sum are opened one term after the other.
    rw [total_sum, leftTotal, rightTotal, List.foldl_append, List.foldl_cons,
      Value.plus_foldl (Value.kind_foldl_plus_ne_float inLeft.1 inLeft.2) inRight.1 inRight.2]

/-- A sum of values made from parts is made from the parts joined, if this is so for two of them. -/
theorem eval_of_parts {α : Type} (make : α → Value) (join : List α → α) (single : ∀ part, join [part] = part)
    (joined : ∀ xs ys, (make (join xs)).apply .add (make (join ys)) = pure (make (join (xs ++ ys))))
    {bracketing : Bracketing} {parts : List α} (made : bracketing.terms = parts.map make) :
    bracketing.toExpression.eval = pure (make (join parts)) := by
  induction bracketing generalizing parts with
  | term value =>
    -- One term is made from one part.
    obtain ⟨part, rfl, same⟩ := List.map_eq_singleton_iff.mp made.symm
    rw [single, same]
    rfl
  | sum left right leftIH rightIH =>
    -- The parts are divided where the terms of the left sum end.
    obtain ⟨before, behind, rfl, inLeft, inRight⟩ := List.map_eq_append_iff.mp made.symm
    rw [toExpression, Expression.eval, leftIH inLeft.symm, rightIH inRight.symm, pure_bind, pure_bind, joined]

/-- A sum of values made from lists is made from the lists joined. -/
theorem total_of_lists {make : List Value → Value}
    (joined : ∀ xs ys, (make xs).apply .add (make ys) = pure (make (xs ++ ys)))
    {bracketing : Bracketing} {lists : List (List Value)} (made : bracketing.terms = lists.map make) :
    bracketing.total = make lists.flatten := by
  -- The parts are the lists, and the sum of two runs of them is the one run joined.
  refine congrArg Traced.value (eval_of_parts make List.flatten (fun _ => List.flatten_singleton) ?_ made)
  intro xs ys
  rw [joined, List.flatten_append]

/-- A sum is absent when its one term is, or when its several terms are not of one additive kind. -/
theorem total_eq_null_iff {bracketing : Bracketing} (floatless : ∀ value ∈ bracketing.terms, value.kind ≠ .float) :
    bracketing.total = .null ↔
      bracketing.terms = [.null] ∨ 2 ≤ bracketing.terms.length ∧ ¬Value.OfOneKind bracketing.terms := by
  obtain ⟨first, rest, terms, total⟩ := exists_total floatless
  rw [terms, List.forall_mem_cons] at floatless
  rw [terms, total]
  cases rest with
  | nil => simp
  | cons next rest =>
    constructor
    · -- Values of one additive kind have a sum of that kind, which the absent value is not of.
      intro absent
      refine .inr ⟨by simp, ?_⟩
      rintro ⟨kind, additive, all⟩
      obtain ⟨head, tail⟩ := List.forall_mem_cons.mp all
      have kept := Value.kind_foldl_plus additive head tail
      rw [absent] at kept
      rw [← kept] at additive
      contradiction
    · -- Of several terms, two kinds or one that is not additive make every sum absent.
      rintro (single | ⟨_, mixed⟩)
      · simp at single
      · exact Value.foldl_plus_of_mixed (by simp) floatless.1 floatless.2 mixed

/--
Without floats among its terms, a sum does not depend on its brackets.

A sum of texts, lists or tuples is their concatenation in order. The one term of a sum may be absent itself. Otherwise a
sum is absent exactly when its terms are not all integers, all texts, all lists or all tuples, wherever the misfit stands.
-/
theorem total_bracketing (values : List Value) (several : values ≠ [])
    (floatless : ∀ value ∈ values, value.kind ≠ .float) :
    (∃ bracketing : Bracketing, bracketing.terms = values) ∧
      ∀ a : Bracketing, a.terms = values →
        (∀ b : Bracketing, b.terms = values → b.total = a.total) ∧
        (∀ texts : List String, values = texts.map .str → a.total = .str (String.join texts)) ∧
        (∀ lists : List (List Value), values = lists.map .list → a.total = .list lists.flatten) ∧
        (∀ tuples : List (List Value), values = tuples.map .tuple → a.total = .tuple tuples.flatten) ∧
        (a.total = .null ↔ values = [.null] ∨ 2 ≤ values.length ∧ ¬Value.OfOneKind values) := by
  refine ⟨exists_terms several, ?_⟩
  rintro a rfl
  refine ⟨?_, ?_, ?_, ?_, total_eq_null_iff floatless⟩
  · -- The terms say from where the fold starts and what it goes through.
    intro b same
    obtain ⟨first, rest, terms, total⟩ := exists_total floatless
    obtain ⟨first', rest', terms', total'⟩ := exists_total (same ▸ floatless)
    rw [same, terms] at terms'
    cases terms'
    rw [total, total']
  · intro texts made
    -- Joining one text changes nothing, and joining two runs of texts joins what they join.
    have single (text : String) : String.join [text] = text := by
      rw [String.join_cons, String.join_nil, String.append_empty]
    have joined (xs ys : List String) :
        (Value.str (String.join xs)).apply .add (.str (String.join ys)) = pure (.str (String.join (xs ++ ys))) := by
      rw [String.join_append]
      rfl
    exact congrArg Traced.value (eval_of_parts .str String.join single joined made)
  · -- Lists and tuples are joined in one way.
    intro lists made
    exact total_of_lists (fun _ _ => rfl) made
  · intro tuples made
    exact total_of_lists (fun _ _ => rfl) made

/-- A text between two lists makes their sum absent wherever the brackets stand, and lists alone are joined. -/
theorem total_bracketing_misfit :
    (Bracketing.sum (.sum (.term (.list [.null])) (.term (.str "a"))) (.term (.list []))).total = .null ∧
      (Bracketing.sum (.term (.list [.null])) (.sum (.term (.str "a")) (.term (.list [])))).total =
        (Bracketing.sum (.sum (.term (.list [.null])) (.term (.str "a"))) (.term (.list []))).total ∧
      (Bracketing.sum (.term (.list [.null])) (.term (.list [.float (Binary.zero true)]))).total =
        .list [.null, .float (Binary.zero true)] := by
  -- The terms are of two kinds, and no one kind has both.
  have mixed := (total_bracketing [.list [.null], .str "a", .list []] (by simp) (by decide)).2
    (.sum (.sum (.term (.list [.null])) (.term (.str "a"))) (.term (.list []))) rfl
  have lists := (total_bracketing [.list [.null], .list [.float (Binary.zero true)]] (by simp) (by decide)).2
  refine ⟨mixed.2.2.2.2.mpr (.inr ⟨by decide, ?_⟩), mixed.1 _ rfl, (lists _ rfl).2.2.1 [[.null], [_]] rfl⟩
  rintro ⟨kind, _, all⟩
  have list : Kind.list = kind := all (.list [.null]) (by simp)
  have text : Kind.str = kind := all (.str "a") (by simp)
  cases list.trans text.symm

end Bracketing

end DynValue
