import Excerpt.Detect.Engine
import Mathlib.Data.List.Perm.Basic

/-!
# Laws of extraction

An extraction goes through the nodes of a tree, at each node through the rules that are about it,
and for each rule through its detectors. Every snippet carries the rule that it was made for
(`Engine.rule_of_mem_extractFor`), so the snippets of a rule can be told apart again after the
three loops have mixed them: no rule sees what is found for another one.

Rules are told apart by their ids, and nothing forbids that several rules have the same id. The
laws are about the rules with an id, and hence about one rule wherever ids are unique.

Each law is proved from the inside to the outside: for the snippets of one rule at one node, where
all or none have the id in question (`Engine.filter_extractFor`); for those of all rules at one
node (`Engine.filter_extractAt`); and for the whole tree.

## Main results

* `Engine.filter_extractAt`: other rules do not matter at a node.
* `Engine.extractAt_perm`: the order of rules only matters for the order of snippets.
* `Engine.extract_rule_by_rule`: the same for an extraction.
-/

namespace Excerpt.Engine

variable (e : Engine) (u : SourceUnit) (i : NodeId)

/-! ### The snippets of one rule -/

/-- Every snippet carries the rule that it was made for. -/
theorem rule_of_mem_extractFor {rule : Rule} {s : Snippet} (hs : s ∈ e.extractFor u i rule) :
    s.rule = rule := by
  obtain ⟨d, -, hd⟩ := List.mem_flatMap.mp hs
  obtain ⟨f, -, rfl⟩ := List.mem_map.mp hd
  rfl

/-- Every snippet carries the path of its unit. -/
theorem path_of_mem_extract {s : Snippet} (hs : s ∈ e.extract u) : s.path = u.path := by
  obtain ⟨i, -, hi⟩ := List.mem_flatMap.mp hs
  obtain ⟨rule, -, hrule⟩ := List.mem_flatMap.mp hi
  obtain ⟨d, -, hd⟩ := List.mem_flatMap.mp hrule
  obtain ⟨f, -, rfl⟩ := List.mem_map.mp hd
  rfl

/-- Of the snippets for a rule, all or none have a given rule id. -/
theorem filter_extractFor (rule : Rule) (x : String) :
    ((e.extractFor u i rule).filter fun s => s.rule.id = x) =
      if rule.id = x then e.extractFor u i rule else [] := by
  split
  · next hx =>
    refine List.filter_eq_self.mpr fun s hs => ?_
    rw [e.rule_of_mem_extractFor u i hs]
    exact decide_eq_true hx
  · next hx =>
    refine List.filter_eq_nil_iff.mpr fun s hs => ?_
    rw [e.rule_of_mem_extractFor u i hs]
    simpa using hx

private theorem flatMap_ite_nil {α β : Type} (p : α → Prop) [DecidablePred p] (f : α → List β)
    (xs : List α) :
    (xs.flatMap fun a => if p a then f a else []) = (xs.filter fun a => p a).flatMap f := by
  induction xs with
  | nil => rfl
  | cons a xs ih => by_cases ha : p a <;> simp [ha, ih]

/-- At one node, the snippets with a rule id are those of an engine that only has the rules with
this id. -/
theorem filter_extractAt (x : String) :
    ((e.extractAt u i).filter fun s => s.rule.id = x) =
      extractAt { e with rules := e.rules.filter fun r => r.id = x } u i := by
  -- whether a rule has the id does not depend on whether it is about the node
  have hrules : ((e.rules.filter fun r => r.applies (u.tree.kind i)).filter fun r => r.id = x) =
      (e.rules.filter fun r => r.id = x).filter fun r => r.applies (u.tree.kind i) := by
    simp only [List.filter_filter, Bool.and_comm]
  rw [extractAt, List.filter_flatMap]
  simp only [filter_extractFor]
  rw [flatMap_ite_nil, hrules]
  rfl

/-- The order of the rules decides about the order of the snippets at a node and nothing else. -/
theorem extractAt_perm {rules : List Rule} (h : e.rules.Perm rules) :
    (e.extractAt u i).Perm (extractAt { e with rules := rules } u i) :=
  (h.filter _).flatMap_right (e.extractFor u i)

/-! ### Rules do not interfere -/

/-- **Rules do not interfere.** The snippets of a rule id are, in order, those of an engine that
only has the rules with this id, and an engine with the same rules in another order makes the same
snippets in another order. -/
theorem extract_rule_by_rule :
    (∀ x, ((e.extract u).filter fun s => s.rule.id = x) =
      extract { e with rules := e.rules.filter fun r => r.id = x } u) ∧
    (∀ rules, e.rules.Perm rules → (e.extract u).Perm (extract { e with rules := rules } u)) := by
  constructor
  · intro x
    rw [extract, List.filter_flatMap]
    exact List.flatMap_congr fun i _ => e.filter_extractAt u i x
  · intro rules h
    exact List.Perm.flatMap_left _ fun i _ => e.extractAt_perm u i h

/-- A detector that reports every node, bound to the rules `A` and `B`. -/
def reportingAll : Registry where
  detectors := [⟨"all", fun cx => .completed [⟨cx.line, cx.text, cx.rule.id⟩]⟩]
  bindings := [("A", [0]), ("B", [0])]

/-- A source with two types. -/
def twoTypesUnit : SourceUnit where
  path := "A.java"
  tree := SyntaxTree.ofSource ""
    |>.push 0 { kind := .typeDecl { kind := .classType } }
    |>.push 0 { kind := .typeDecl { kind := .enumType } }

/-- Two rules find something at the same node, and one of them elsewhere as well. -/
theorem extract_two_rules :
    let a : Rule := { id := "A", scope := "CLASS_DECLARATION" }
    let b : Rule := { id := "B", scope := "CLASS_DECLARATION" }
    ((extract ⟨[a, b], reportingAll⟩ twoTypesUnit).map fun s => s.rule.id) = ["A", "B", "A", "B"] ∧
    ((extract ⟨[b, a], reportingAll⟩ twoTypesUnit).map fun s => s.rule.id) = ["B", "A", "B", "A"] ∧
    ((extract ⟨[a, b], reportingAll⟩ twoTypesUnit).filter fun s => s.rule.id = "B") =
      extract ⟨[b], reportingAll⟩ twoTypesUnit ∧
    (extract ⟨[a, b], reportingAll⟩ twoTypesUnit).Perm
        (extract ⟨[b, a], reportingAll⟩ twoTypesUnit) := by
  intro a b
  obtain ⟨hfilter, hperm⟩ := extract_rule_by_rule ⟨[a, b], reportingAll⟩ twoTypesUnit
  exact ⟨by decide +kernel, by decide +kernel, hfilter "B", hperm [b, a] (List.Perm.swap b a [])⟩

end Excerpt.Engine
