import Mathlib.Data.List.Perm.Basic
import DynValue.Proofs.Model.Tree
import DynValue.Proofs.Value.Forms

/-! Trees that differ in the order of their map entries alone, which equal values are serialized as. -/

namespace DynValue

namespace Tree

mutual

/-- Trees that are the same when maps are taken without an order of their entries. -/
inductive Alike : Tree → Tree → Prop where
  /-- A tree with no trees in it is only like itself. -/
  | leaf {tree : Tree} (leaf : tree.isLeaf = true) : Alike tree tree
  /-- Data that could have been missing are alike when what is there is. -/
  | present {a b : Tree} (inner : Alike a b) : Alike (.present a) (.present b)
  /-- Wrapped data are alike when what is wrapped is. -/
  | wrapped {a b : Tree} (inner : Alike a b) : Alike (.wrapped a) (.wrapped b)
  /-- Sequences are alike element by element. -/
  | sequence {xs ys : List Tree} (items : List.Forall₂ Alike xs ys) : Alike (.sequence xs) (.sequence ys)
  /-- Streams are alike element by element. -/
  | stream {xs ys : List Tree} (items : List.Forall₂ Alike xs ys) : Alike (.stream xs) (.stream ys)
  /-- Maps are alike entry by entry, after the entries of one have been moved. -/
  | map {xs moved ys : List (Tree × Tree)} (entries : List.Forall₂ AlikeEntries xs moved)
    (order : moved.Perm ys) : Alike (.map xs) (.map ys)

/-- Entries of maps whose keys are alike and whose values are alike. -/
inductive AlikeEntries : Tree × Tree → Tree × Tree → Prop where
  /-- Keys and values are compared each on its own. -/
  | both {x y : Tree × Tree} (keys : Alike x.1 y.1) (values : Alike x.2 y.2) : AlikeEntries x y

end

end Tree

namespace Value

/-- The tree of a key next to the tree of its value. -/
def entryTree (entry : Value × Value) : Tree × Tree :=
  (entry.1.toTree, entry.2.toTree)

/-- The trees of a sequence, element by element. -/
theorem toTrees_eq_map (items : List Value) : toTrees items = items.map toTree := by
  -- The recursion on the list of elements is a map.
  induction items with
  | nil => rfl
  | cons item rest ih => simp [toTrees, ih]

/-- The trees of entries, entry by entry. -/
theorem toTreePairs_eq_map (entries : Entries) : toTreePairs entries = entries.map entryTree := by
  -- The recursion on the list of entries is a map.
  induction entries with
  | nil => rfl
  | cons entry rest ih => simp [toTreePairs, entryTree, ih]

/-- Sequences have the same images exactly when their elements have. -/
theorem map_eq_map_iff_forall₂ {α β γ : Type} {f : α → γ} {g : β → γ} {xs : List α} {ys : List β} :
    xs.map f = ys.map g ↔ List.Forall₂ (fun x y => f x = g y) xs ys := by
  -- Equal lists are lists that are equal element by element.
  rw [← List.forall₂_eq_eq_eq, List.forall₂_map_left_iff, List.forall₂_map_right_iff]

/-- Sequences with the same forms in any order can be moved so that they have them element by element. -/
theorem exists_moved {α β : Type} {form : α → β} {xs ys : List α} (same : (xs.map form).Perm (ys.map form)) :
    ∃ moved : List α, List.Forall₂ (fun x y => form x = form y) xs moved ∧ moved.Perm ys := by
  -- The move of the forms is carried out on the elements that have them.
  have each : List.Forall₂ (fun image y => image = form y) (ys.map form) ys :=
    List.forall₂_map_left_iff.mpr (List.forall₂_same.mpr fun _ _ => rfl)
  obtain ⟨moved, forms, order⟩ := List.perm_comp_forall₂ same each
  exact ⟨moved, List.forall₂_map_left_iff.mp forms, order⟩

/-- Sequences with the same forms have like trees, if values with the same form have. -/
theorem forall₂_toTrees {xs ys : List Value} (forms : xs.map canonical = ys.map canonical)
    (each : ∀ x ∈ xs, ∀ y : Value, canonical x = canonical y → x.toTree.Alike y.toTree) :
    List.Forall₂ Tree.Alike (toTrees xs) (toTrees ys) := by
  -- The elements with the same form stand at the same places.
  rw [toTrees_eq_map, toTrees_eq_map, List.forall₂_map_left_iff, List.forall₂_map_right_iff]
  have paired := (List.forall₂_and_left _ _).mpr ⟨each, map_eq_map_iff_forall₂.mp forms⟩
  exact paired.imp fun x y pair => pair.1 y pair.2

/-- Values with the same canonical form have trees that differ in the order of map entries alone. -/
theorem alike_of_canonical {a b : Value} (same : canonical a = canonical b) : a.toTree.Alike b.toTree := by
  induction a using nestedInduction generalizing b with
  | list xs ih =>
    -- The elements have the same forms one by one, and so like trees.
    obtain ⟨ys, rfl, forms⟩ := exists_of_canonical_list same
    exact .sequence (forall₂_toTrees forms fun x member y => ih x member)
  | tuple xs ih =>
    obtain ⟨ys, rfl, forms⟩ := exists_of_canonical_tuple same
    exact .sequence (forall₂_toTrees forms fun x member y => ih x member)
  | dict xs ih =>
    obtain ⟨ys, rfl, forms⟩ := exists_of_canonical_dict same
    -- The entries of the second dict are first put in the order of those of the first.
    obtain ⟨moved, paired, order⟩ := exists_moved forms
    rw [toTree, toTree, toTreePairs_eq_map, toTreePairs_eq_map]
    refine .map ?_ (order.map entryTree)
    rw [List.forall₂_map_left_iff, List.forall₂_map_right_iff]
    have each := (List.forall₂_and_left _ _).mpr ⟨ih, paired⟩
    exact each.imp fun x y pair =>
      .both (pair.1.1 (congrArg Prod.fst pair.2)) (pair.1.2 (congrArg Prod.snd pair.2))
  | _ =>
    rw [← eq_of_canonical_scalar rfl same]
    exact .leaf rfl

end Value

end DynValue
