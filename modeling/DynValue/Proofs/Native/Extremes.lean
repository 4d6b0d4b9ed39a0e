import DynValue.Native.Order
import DynValue.Proofs.Binary.Exact

/-!
A fold to the least or the greatest of a list of floats passes over every NaN but one in front.

It ends with the first number of the list that no other number there passes, in the order of the exact numbers.
-/

namespace DynValue

/-- An element of a list that has a property, while no element in front of it does. -/
structure IsFirst {α : Type} (property : α → Prop) (items : List α) (x : α) : Prop where
  /-- The element has the property. -/
  holds : property x
  /-- It stands in the list behind elements that do not have it. -/
  behind : ∃ before after, items = before ++ x :: after ∧ ∀ y ∈ before, ¬property y

namespace Binary

variable {f : Format} {le : Point → Point → Prop}

/-- A number that precedes every number of a list or is level with it, whatever NaNs there are. -/
structure IsExtreme (le : Point → Point → Prop) (items : List (Binary f)) (x : Binary f) : Prop where
  /-- It is not a NaN itself. -/
  number : x.isNan = false
  /-- Its point precedes those of all numbers of the list, or is the same. -/
  precedes : ∀ y ∈ items, y.isNan = false → le x.point y.point

/-- A shorter list has fewer numbers to precede. -/
theorem IsExtreme.of_append {items further : List (Binary f)} {x : Binary f}
    (extreme : IsExtreme le (items ++ further) x) : IsExtreme le items x :=
  ⟨extreme.number, fun y found => extreme.precedes y (List.mem_append_left further found)⟩

/-- An extreme stays one next to one more element that is a NaN or does not precede it. -/
theorem IsExtreme.append {items : List (Binary f)} {x y : Binary f} (extreme : IsExtreme le items x)
    (further : y.isNan = false → le x.point y.point) : IsExtreme le (items ++ [y]) x := by
  -- An element of the longer list is one of the list, or it is the new one.
  refine ⟨extreme.number, fun z found number => ?_⟩
  rcases List.mem_append.mp found with earlier | last
  · exact extreme.precedes z earlier number
  · obtain rfl := List.mem_singleton.mp last
    exact further number

/-- The first extreme of a list stays the first one, as an earlier one of the longer list would be one before. -/
theorem IsExtreme.isFirst_append {items : List (Binary f)} {x y : Binary f}
    (first : IsFirst (IsExtreme le items) items x) (further : y.isNan = false → le x.point y.point) :
    IsFirst (IsExtreme le (items ++ [y])) (items ++ [y]) x := by
  -- The elements in front are the same, and they are no extremes of the shorter list.
  obtain ⟨extreme, before, after, split, passed⟩ := first
  refine ⟨extreme.append further, before, after ++ [y], by simp [split], fun z found again => ?_⟩
  exact passed z found again.of_append

/-- The zeros stand for one point, so that a list with one of them as its extreme has the other as well. -/
theorem IsExtreme.of_zeros {items : List (Binary f)} {x y : Binary f} (extreme : IsExtreme le items x)
    (zero : x.isZero = true) (other : y.isZero = true) : IsExtreme le items y := by
  -- The property looks at the point of an element alone.
  simp only [isZero, decide_eq_true_eq] at zero other
  have number : y.isNan = false := by simp [isNan, other]
  have same : y.point = x.point := by
    rw [point_eq_iff number extreme.number]
    simp [place, zero, other]
  exact ⟨number, same ▸ extreme.precedes⟩

/-- A choice between two floats that keeps the first one, unless both are numbers and the second precedes it. -/
structure Selects (pick : Binary f → Binary f → Binary f) (le : Point → Point → Prop) : Prop where
  /-- What precedes a point precedes all that this point precedes. -/
  trans : ∀ {p q r : Point}, le p q → le q r → le p r
  /-- Of two points, one precedes the other or they are level. -/
  total : ∀ p q : Point, le p q ∨ le q p
  /-- A NaN on either side leaves the first one. -/
  of_nan : ∀ {x y : Binary f}, x.isNan = true ∨ y.isNan = true → pick x y = x
  /-- So does a number that is not preceded. -/
  of_le : ∀ {x y : Binary f}, x.isNan = false → y.isNan = false → le x.point y.point → pick x y = x
  /-- Any other number gives way. -/
  of_not_le : ∀ {x y : Binary f}, x.isNan = false → y.isNan = false → ¬le x.point y.point → pick x y = y

namespace Selects

variable {pick : Binary f → Binary f → Binary f}

/-- Every point is level with itself. -/
theorem refl (selects : Selects pick le) (p : Point) : le p p := (selects.total p p).elim id id

/-- One more element keeps or replaces the extreme of what was seen, so that it is the extreme of all. -/
theorem isFirst_pick (selects : Selects pick le) {seen : List (Binary f)} {x : Binary f}
    (first : IsFirst (IsExtreme le seen) seen x) (y : Binary f) :
    IsFirst (IsExtreme le (seen ++ [y])) (seen ++ [y]) (pick x y) := by
  have number := first.holds.number
  cases nan : y.isNan with
  | true =>
    -- A NaN is not compared with anything.
    rw [selects.of_nan (.inr nan)]
    exact IsExtreme.isFirst_append first fun other => absurd (nan.symm.trans other) (by decide)
  | false =>
    by_cases below : le x.point y.point
    · rw [selects.of_le number nan below]
      exact IsExtreme.isFirst_append first fun _ => below
    · -- The new element precedes what preceded all others.
      rw [selects.of_not_le number nan below]
      have above : le y.point x.point := (selects.total _ _).resolve_left below
      have extreme : IsExtreme le seen y :=
        ⟨nan, fun z found other => selects.trans above (first.holds.precedes z found other)⟩
      refine ⟨extreme.append fun _ => selects.refl _, seen, [], rfl, ?_⟩
      -- An earlier extreme would put the new element behind the old one.
      intro z found again
      have level := again.precedes y (List.mem_append_right seen List.mem_cons_self) nan
      exact below (selects.trans (first.holds.precedes z found again.number) level)

/-- A fold goes on from the extreme of what was seen to the extreme of the whole list. -/
theorem isFirst_foldl (selects : Selects pick le) {seen : List (Binary f)} {x : Binary f}
    (first : IsFirst (IsExtreme le seen) seen x) (rest : List (Binary f)) :
    IsFirst (IsExtreme le (seen ++ rest)) (seen ++ rest) (rest.foldl pick x) := by
  -- The induction is on what is still to be seen, and one element moves over at each step.
  induction rest generalizing seen x with
  | nil => simpa using first
  | cons y rest ih =>
    rw [List.append_cons, List.foldl_cons]
    exact ih (selects.isFirst_pick first y)

/-- A NaN that is kept once is kept to the end. -/
theorem foldl_of_nan (selects : Selects pick le) {x : Binary f} (nan : x.isNan = true) (rest : List (Binary f)) :
    rest.foldl pick x = x := by
  -- A NaN in front is never replaced.
  induction rest with
  | nil => rfl
  | cons y rest ih => rw [List.foldl_cons, selects.of_nan (.inl nan), ih]

/-- The NaNs that a fold comes across may be left out. -/
theorem foldl_filter_numbers (selects : Selects pick le) (x : Binary f) (rest : List (Binary f)) :
    (rest.filter (!·.isNan)).foldl pick x = rest.foldl pick x := by
  -- A NaN that is met leaves what was kept so far.
  rw [List.foldl_filter]
  congr 1
  funext x y
  cases nan : y.isNan with
  | true => exact (selects.of_nan (.inr nan)).symm
  | false => rfl

end Selects

/-- What a fold over a list of floats gives, in which there may be NaNs anywhere. -/
structure NanTolerant (pick : Binary f → Binary f → Binary f) (le : Point → Point → Prop) (first : Binary f)
    (rest : List (Binary f)) : Prop where
  /-- A NaN in front is given back with all its bits. -/
  nan_first : first.isNan = true → rest.foldl pick first = first
  /-- With a number in front, the fold gives the first number that precedes all numbers of the list or is level with them. -/
  number_first : first.isNan = false →
    IsFirst (IsExtreme le (first :: rest)) (first :: rest) (rest.foldl pick first)
  /-- If this is a zero, of whichever sign, no zero stands in front of it. -/
  zero_first : first.isNan = false → (rest.foldl pick first).isZero = true →
    (first :: rest).find? isZero = some (rest.foldl pick first)
  /-- The NaNs behind the first element may as well be left out. -/
  nans_behind : (rest.filter (!·.isNan)).foldl pick first = rest.foldl pick first

/-- Any choice that keeps the first of two floats, unless the second precedes it, makes folds that tolerate NaNs. -/
theorem Selects.nanTolerant {pick : Binary f → Binary f → Binary f} (selects : Selects pick le) (first : Binary f)
    (rest : List (Binary f)) : NanTolerant pick le first rest := by
  have extreme (number : first.isNan = false) :
      IsFirst (IsExtreme le (first :: rest)) (first :: rest) (rest.foldl pick first) := by
    have single : IsFirst (IsExtreme le [first]) [first] first := by
      refine ⟨⟨number, fun y found _ => ?_⟩, [], [], rfl, by simp⟩
      rw [List.mem_singleton.mp found]
      exact selects.refl _
    exact selects.isFirst_foldl single rest
  refine ⟨fun nan => selects.foldl_of_nan nan rest, extreme, ?_, selects.foldl_filter_numbers first rest⟩
  intro number zero
  obtain ⟨found, before, after, split, passed⟩ := extreme number
  refine List.find?_eq_some_iff_append.mpr ⟨zero, before, after, split, fun y earlier => ?_⟩
  -- An earlier zero would be the extreme of the list as well.
  cases other : y.isZero with
  | true => exact absurd (found.of_zeros zero other) (passed y earlier)
  | false => rfl

/-- Taking the second of two floats only on one outcome of their comparison selects by the order with that outcome. -/
theorem selects_of_compare {pick : Binary f → Binary f → Binary f} {outcome : Ordering}
    (trans : ∀ {p q r : Point}, le p q → le q r → le p r) (total : ∀ p q : Point, le p q ∨ le q p)
    (outcome_iff : ∀ p q : Point, compare q p = outcome ↔ ¬le p q)
    (pick_eq : ∀ x y : Binary f, pick x y = if y.compare? x = some outcome then y else x) : Selects pick le := by
  -- Two numbers are compared as the points they stand for, and a NaN with nothing.
  have comparable {x y : Binary f} (first : x.isNan = false) (second : y.isNan = false) :
      y.compare? x = some outcome ↔ ¬le x.point y.point := by
    rw [compare?_eq_compare_point second first, Option.some_inj, outcome_iff]
  have incomparable {x y : Binary f} (nan : x.isNan = true ∨ y.isNan = true) : y.compare? x ≠ some outcome := by
    rcases nan with nan | nan <;> simp [compare?, nan]
  refine ⟨trans, total, ?_, ?_, ?_⟩
  · intro x y nan
    rw [pick_eq, if_neg (incomparable nan)]
  · intro x y first second below
    rw [pick_eq, if_neg (mt (comparable first second).mp (not_not_intro below))]
  · intro x y first second above
    rw [pick_eq, if_pos ((comparable first second).mpr above)]

end Binary

namespace Ty

/-- The lesser of two floats is the first one, unless the second is a number below it. -/
theorem selects_min : Binary.Selects Ty.double.min (· ≤ ·) := by
  -- The second float is taken only if the order says that it is less.
  refine Binary.selects_of_compare le_trans le_total (fun p q => compare_lt_iff_lt.trans not_le.symm) fun x y => ?_
  rw [Ty.min, Ty.compare?]
  split <;> simp_all

/-- The greater of two floats is the first one, unless the second is a number above it. -/
theorem selects_max : Binary.Selects Ty.double.max (· ≥ ·) := by
  -- The second float is taken only if the order says that it is greater.
  refine Binary.selects_of_compare ge_trans (fun p q => le_total q p)
    (fun p q => compare_gt_iff_gt.trans not_le.symm) fun x y => ?_
  rw [Ty.max, Ty.compare?]
  split <;> simp_all

/--
Folding floats to the least or the greatest tolerates NaNs.

A NaN in front is given back. Otherwise the result is the first element, in the order of the list, that is a number and that no
number passes, so that the earlier of two zeros is kept, and no NaN behind the first element has any influence on it.
-/
theorem extremes_nanTolerant (first : Binary64) (rest : List Binary64) :
    Binary.NanTolerant Ty.double.min (· ≤ ·) first rest ∧ Binary.NanTolerant Ty.double.max (· ≥ ·) first rest :=
  ⟨selects_min.nanTolerant first rest, selects_max.nanTolerant first rest⟩

/-- Both zeros between NaNs: behind an infinity of either sign the earlier zero is kept, and behind a NaN neither. -/
theorem extremes_nanTolerant_zeros :
    let nan : Binary64 := .nan
    let items : List Binary64 := [nan, .zero true, nan, .zero false]
    IsFirst (Binary.IsExtreme (· ≤ ·) (.infinite false :: items)) (.infinite false :: items) (.zero true) ∧
      (.infinite true :: items).find? Binary.isZero = some (items.foldl Ty.double.max (.infinite true)) ∧
      items.foldl Ty.double.min nan = nan := by
  -- The first zero is met before the other one, which does not pass it.
  intro nan items
  have kept : items.foldl Ty.double.min (.infinite false) = .zero true := by decide
  refine ⟨?_, ?_, ?_⟩
  · exact kept ▸ (extremes_nanTolerant (.infinite false) items).1.number_first (by decide)
  · exact (extremes_nanTolerant (.infinite true) items).2.zero_first (by decide) (by decide)
  · exact (extremes_nanTolerant nan items).1.nan_first (by decide)

end Ty

end DynValue
