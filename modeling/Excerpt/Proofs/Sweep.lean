import Excerpt.Detect.Basic
import Excerpt.Proofs.Arena
import Mathlib.Data.List.Flatten

/-!
# Sweeps

A sweep shows every node of a tree to one detector, in pre-order, and keeps with each finding the
node that it was made at. It is what an extraction does for one detector, without rules that
decide which nodes are shown. Two detectors are compared node by node: where one finds no more
than the other at each node, so it does in a sweep (`Detector.sweep_sublist`).

Detectors search through lists and follow references, either of which may get stuck. What a search
gathers from a list is what it finds at the elements, one after the other, provided that it comes
to an end at each of them (`gather_eq_some_iff`).

A reference can be followed if it leads to a node of the tree. `SyntaxTree.ReferencesWithin` says
that all references do. It is less than being self-contained, where references lead to children,
and it is enough for most detectors to complete. For a given tree it can be checked node by node
(`referencesWithin_iff`).

## Main results

* `gather_eq_some_iff`: what a search gathers from a list.
* `SyntaxTree.ReferencesWithin.follow_eq`: references that can be followed.
* `Detector.sweep_sublist`: sweeps are compared node by node.
-/

namespace Excerpt

/-! ### Gathering -/

section Gather

variable {α β : Type} {xs : List α} {f g : α → Option (List β)} {ys : List β}

/-- A search through a list comes to an end if it does at each element, and then gathers what it
finds there. -/
theorem gather_eq_some_iff :
    gather xs f = some ys ↔ (∀ x ∈ xs, (f x).isSome) ∧ ys = xs.flatMap fun x => (f x).getD [] := by
  induction xs generalizing ys with
  | nil =>
    rw [gather, Option.some.injEq]
    exact ⟨fun h => ⟨by simp, h.symm⟩, fun h => h.2.symm⟩
  | cons x xs ih =>
    rw [gather, List.forall_mem_cons, List.flatMap_cons]
    cases hx : f x with
    | none => simp
    | some here =>
      -- the rest may get stuck although this element does not
      cases hmore : gather xs f with
      | none =>
        have hstuck : ¬ ∀ y ∈ xs, (f y).isSome := fun h => by
          rw [ih.mpr ⟨h, rfl⟩] at hmore
          cases hmore
        simp [hstuck]
      | some more =>
        obtain ⟨hall, rfl⟩ := ih.mp hmore
        simp only [Option.bind_eq_bind, Option.bind_some, Option.pure_def, Option.some.injEq,
          Option.isSome_some, true_and, Option.getD_some, and_iff_right hall]
        exact eq_comm

/-- What holds of the findings at each element holds of all that is gathered. -/
theorem forall_mem_of_gather {P : β → Prop} (h : gather xs f = some ys)
    (hf : ∀ x ∈ xs, ∀ here, f x = some here → ∀ y ∈ here, P y) : ∀ y ∈ ys, P y := by
  obtain ⟨hsome, rfl⟩ := gather_eq_some_iff.mp h
  intro y hy
  obtain ⟨x, hx, hy⟩ := List.mem_flatMap.mp hy
  obtain ⟨here, hhere⟩ := Option.isSome_iff_exists.mp (hsome x hx)
  rw [hhere, Option.getD_some] at hy
  exact hf x hx here hhere y hy

/-- Searches that end at the same elements, where one finds no more than the other at each of
them. -/
theorem gather_sublist (h : ∀ x ∈ xs, Option.Rel List.Sublist (f x) (g x)) :
    Option.Rel List.Sublist (gather xs f) (gather xs g) := by
  induction xs with
  | nil => exact .some (.refl [])
  | cons x xs ih =>
    obtain ⟨hx, hxs⟩ := List.forall_mem_cons.mp h
    rw [gather, gather]
    generalize f x = here at hx
    generalize g x = here' at hx
    cases hx with
    | none => exact .none
    | some hhere =>
      have hmore := ih hxs
      generalize gather xs f = more at hmore
      generalize gather xs g = more' at hmore
      cases hmore with
      | none => exact .none
      | some hmore => exact .some (hhere.append hmore)

end Gather

/-! ### References -/

namespace SyntaxTree

variable {t : SyntaxTree} {i j : NodeId}

/-- A reference can be followed if it leads to a node of the tree. -/
theorem follow_eq_some_iff : t.follow i = some j ↔ i < t.size ∧ i = j := by
  rw [follow, Option.ite_none_right_eq_some, Option.some.injEq]

/-- Every reference is to a node of the tree. -/
def ReferencesWithin (t : SyntaxTree) : Prop :=
  ∀ i, ∀ j ∈ (t.kind i).references, j < t.size

/-- Beyond its nodes, a tree has no references. -/
theorem referencesWithin_iff :
    t.ReferencesWithin ↔ ∀ i < t.size, ∀ j ∈ (t.kind i).references, j < t.size := by
  refine ⟨fun h i _ => h i, fun h i j hj => ?_⟩
  rcases Nat.lt_or_ge i t.size with hi | hi
  · exact h i hi j hj
  · rw [kind, node, node?_of_size_le hi] at hj
    cases hj

/-- A reference of a node can be followed. -/
theorem ReferencesWithin.follow_eq (h : t.ReferencesWithin) (hj : j ∈ (t.kind i).references) :
    t.follow j = some j :=
  follow_eq_some_iff.mpr ⟨h i j hj, rfl⟩

end SyntaxTree

/-! ### Sweeps -/

namespace Detector

/-- The findings of a detector that is shown every node of a tree, each with the node that it was
made at. Calls that do not complete contribute nothing. -/
def sweep (d : Detector) (t : SyntaxTree) (rule : Rule) (path : String) : List (NodeId × Finding) :=
  t.preorder.flatMap fun i => ((d.detect ⟨t, i, rule, path⟩).findings?.getD []).map fun f => (i, f)

/-- A detector that finds no more at each node finds no more in a sweep. -/
theorem sweep_sublist {d e : Detector} {t : SyntaxTree} {rule : Rule} {path : String}
    (h : ∀ i, ((d.detect ⟨t, i, rule, path⟩).findings?.getD []).Sublist
      ((e.detect ⟨t, i, rule, path⟩).findings?.getD [])) :
    (d.sweep t rule path).Sublist (e.sweep t rule path) :=
  List.Sublist.flatMap_right _ fun i _ => (h i).map _

end Detector

/-- A call completes just if its search comes to an end, with what the search finds. -/
@[simp]
theorem Outcome.findings?_ofSearch (search : Option (List Finding)) :
    (Outcome.ofSearch search).findings? = search := by
  cases search <;> rfl

/-- The findings of a call that completes are those of its search. -/
theorem Outcome.ofSearch_eq_completed_iff {search : Option (List Finding)} {fs : List Finding} :
    Outcome.ofSearch search = .completed fs ↔ search = some fs := by
  cases search <;> simp [Outcome.ofSearch]

end Excerpt
