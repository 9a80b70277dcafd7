import Excerpt.Detect.Concurrency
import Excerpt.Proofs.Arena
import Excerpt.Proofs.Sweep
import Mathlib.Logic.Relation

/-!
# Names of threads and grouping

The name that an expression gives is read off by following sums and parentheses through the
indices of their operands. If operands are children of their nodes, then each step goes to a
greater index, so that there are at most as many steps as nodes (`Detect.OperandsBelow.bounds`).
What remains are the leaves of the expression, from left to right (`Detect.Flattens`), and the
name is that of the leaves, one after the other. How they are grouped does not matter
(`Detect.resolveName_ignores_grouping`).

Leaves are described by a relation and not by a function, since the expression is not a tree by
its type: operands are indices, and a node may be its own operand. The relation says that an
expression has leaves only if the search for them ends. If operands are children, every expression
has leaves (`Detect.OperandsBelow.exists_flattens`).

Only sums are passed through. Any other operator is a leaf with both its operands, and the name
that it gives is its text.

## Main results

* `Detect.Flattens.nameWithin_eq`: enough fuel gives the name of the leaves.
* `Detect.Flattens.resolveName_eq`: so does the search that is made.
* `Detect.resolveName_ignores_grouping`: the name does not depend on the grouping.
-/

namespace Excerpt.Detect

open SyntaxTree

variable {t : SyntaxTree} {e i : Nat} {leaves : List NodeId}

/-! ### Leaves -/

/-- The operands of an operator, and what stands between parentheses. -/
def operands : Kind → List NodeId
  | .expr (.binary _ _ left right) => [left, right]
  | .expr (.parenthesized inner) => inner.toList
  | _ => []

/-- Operands are among the nodes that an expression refers to. -/
theorem mem_references_of_mem_operands {k : Kind} {j : NodeId} (hj : j ∈ operands k) :
    j ∈ k.references := by
  unfold operands at hj
  split at hj
  · exact hj
  · exact hj
  · cases hj

/-- The operands of operators and what stands between parentheses are children of their nodes. -/
def OperandsBelow (t : SyntaxTree) : Prop :=
  ∀ i < t.size, ∀ j ∈ operands (t.kind i), j ∈ t.children i

instance : DecidablePred OperandsBelow := fun t =>
  inferInstanceAs (Decidable (∀ i < t.size, ∀ j ∈ operands (t.kind i), j ∈ t.children i))

/-- A sum, or parentheses around something. -/
def isGrouping : Kind → Bool
  | .expr (.binary op _ _ _) => op == "+"
  | .expr (.parenthesized inner) => inner.isSome
  | _ => false

/-- What a leaf is called: a string by its value, a name by itself, and anything else by its
source. -/
def leafName (t : SyntaxTree) (i : NodeId) : String :=
  match t.kind i with
  | .expr (.stringLiteral value) => value
  | .expr .name => (t.node i).nameText
  | _ => t.trimmedText i

/-- The leaves of an expression from left to right. Sums and parentheses around something are
passed through, and all else is a leaf. -/
inductive Flattens (t : SyntaxTree) : NodeId → List NodeId → Prop
  | leaf {e : NodeId} (h : isGrouping (t.kind e) = false) : Flattens t e [e]
  | sum {e left right : NodeId} {line : Option Nat} {ls rs : List NodeId}
      (h : t.kind e = .expr (.binary "+" line left right)) (hl : Flattens t left ls)
      (hr : Flattens t right rs) :
      Flattens t e (ls ++ rs)
  | group {e inner : NodeId} {ls : List NodeId} (h : t.kind e = .expr (.parenthesized (some inner)))
      (hi : Flattens t inner ls) : Flattens t e ls

/-- Going from a sum or from parentheses to an operand. -/
def Opens (t : SyntaxTree) (i j : NodeId) : Prop :=
  isGrouping (t.kind i) = true ∧ j ∈ operands (t.kind i)

/-- The node is reached from the expression and not passed through. -/
def IsLeafOf (t : SyntaxTree) (e i : NodeId) : Prop :=
  Relation.ReflTransGen (Opens t) e i ∧ isGrouping (t.kind i) = false

private theorem isLeafOf_iff_eq (h : isGrouping (t.kind e) = false) : IsLeafOf t e i ↔ i = e := by
  rw [IsLeafOf, Relation.ReflTransGen.cases_head_iff]
  constructor
  · rintro ⟨rfl | ⟨j, ⟨hgroups, -⟩, -⟩, -⟩
    · rfl
    · rw [h] at hgroups
      cases hgroups
  · rintro rfl
    exact ⟨.inl rfl, h⟩

private theorem isLeafOf_iff_exists (h : isGrouping (t.kind e) = true) :
    IsLeafOf t e i ↔ ∃ j ∈ operands (t.kind e), IsLeafOf t j i := by
  rw [IsLeafOf, Relation.ReflTransGen.cases_head_iff]
  constructor
  · rintro ⟨rfl | ⟨j, ⟨-, hj⟩, hreached⟩, hleaf⟩
    · rw [h] at hleaf
      cases hleaf
    · exact ⟨j, hj, hreached, hleaf⟩
  · rintro ⟨j, hj, hreached, hleaf⟩
    exact ⟨.inr ⟨j, ⟨h, hj⟩, hreached⟩, hleaf⟩

/-- The leaves are the nodes that are reached and not passed through. -/
theorem Flattens.mem_iff (h : Flattens t e leaves) : i ∈ leaves ↔ IsLeafOf t e i := by
  induction h with
  | leaf h => rw [List.mem_singleton, isLeafOf_iff_eq h]
  | sum h _ _ ihl ihr =>
    rw [isLeafOf_iff_exists (by rw [h]; rfl), h, List.mem_append, ihl, ihr]
    simp [operands]
  | group h _ ih =>
    rw [isLeafOf_iff_exists (by rw [h]; rfl), h, ih]
    simp [operands]

/-- Sums and parentheses are passed through, unless the parentheses are empty. -/
theorem isGrouping_iff {k : Kind} : isGrouping k = true ↔
    (∃ line left right, k = .expr (.binary "+" line left right)) ∨
      ∃ inner, k = .expr (.parenthesized (some inner)) := by
  cases k with
  | expr x =>
    cases x with
    | binary op line left right => simp [isGrouping]
    | parenthesized inner => simp [isGrouping, Option.isSome_iff_exists]
    | _ => simp [isGrouping]
  | _ => simp [isGrouping]

/-- An operand that is a child comes after its node. -/
theorem OperandsBelow.bounds (hbelow : OperandsBelow t) (ht : t.WellFormed) (he : e < t.size)
    (hi : i ∈ operands (t.kind e)) : e < i ∧ i < t.size := by
  have hparent := ht.mem_children.1 (hbelow e he i hi)
  exact ⟨ht.lt_of_parent? hparent, WellFormed.lt_size_of_parent? hparent⟩

/-- If operands are children, every expression has leaves. -/
theorem OperandsBelow.exists_flattens (hbelow : OperandsBelow t) (ht : t.WellFormed)
    (he : e < t.size) :
    ∃ leaves, Flattens t e leaves := by
  induction hn : t.size - e using Nat.strongRecOn generalizing e with
  | ind n ih =>
    -- fewer nodes come after an operand than after the expression
    have hoperand : ∀ j ∈ operands (t.kind e), ∃ leaves, Flattens t j leaves := by
      intro j hj
      obtain ⟨hlt, hsize⟩ := hbelow.bounds ht he hj
      exact ih (t.size - j) (by omega) hsize rfl
    cases hkind : isGrouping (t.kind e) with
    | false => exact ⟨[e], .leaf hkind⟩
    | true =>
      rcases isGrouping_iff.1 hkind with ⟨line, left, right, h⟩ | ⟨inner, h⟩
      · obtain ⟨ls, hl⟩ := hoperand left (by simp [h, operands])
        obtain ⟨rs, hr⟩ := hoperand right (by simp [h, operands])
        exact ⟨ls ++ rs, .sum h hl hr⟩
      · obtain ⟨ls, hi⟩ := hoperand inner (by simp [h, operands])
        exact ⟨ls, .group h hi⟩

/-! ### Names -/

/-- A leaf gives its own name. -/
theorem nameWithin_leaf (he : e < t.size) (h : isGrouping (t.kind e) = false) (fuel : Nat) :
    nameWithin t (fuel + 1) e = some (leafName t e) := by
  rw [nameWithin, follow_eq_some_iff.2 ⟨he, rfl⟩, leafName, Option.bind_eq_bind, Option.bind_some]
  generalize t.kind e = k at h
  cases k with
  | expr x =>
    cases x with
    | binary op line left right => exact if_neg (by simpa [isGrouping] using h)
    | parenthesized inner =>
      cases inner with
      | none => rfl
      | some inner => cases h
    | _ => rfl
  | _ => rfl

/-- A sum gives the name of its left operand and then that of its right one. -/
theorem nameWithin_sum {left right : NodeId} {line : Option Nat} (he : e < t.size)
    (h : t.kind e = .expr (.binary "+" line left right)) (fuel : Nat) :
    nameWithin t (fuel + 1) e =
      (nameWithin t fuel left).bind fun l => (nameWithin t fuel right).bind fun r =>
        some (l ++ r) := by
  rw [nameWithin, follow_eq_some_iff.2 ⟨he, rfl⟩, Option.bind_eq_bind, Option.bind_some, h]
  exact if_pos rfl

/-- Parentheses give the name of what stands between them. -/
theorem nameWithin_group {inner : NodeId} (he : e < t.size)
    (h : t.kind e = .expr (.parenthesized (some inner))) (fuel : Nat) :
    nameWithin t (fuel + 1) e = nameWithin t fuel inner := by
  rw [nameWithin, follow_eq_some_iff.2 ⟨he, rfl⟩, Option.bind_eq_bind, Option.bind_some, h]

/-- With as much fuel as there are nodes from the expression on, the name is that of the leaves. -/
theorem Flattens.nameWithin_eq (h : Flattens t e leaves) (hbelow : OperandsBelow t)
    (ht : t.WellFormed) (he : e < t.size) {fuel : Nat} (hfuel : t.size ≤ e + fuel) :
    nameWithin t fuel e = some (String.join (leaves.map (leafName t))) := by
  -- operands come later in the tree, so the bound that is left still reaches to its end
  induction h generalizing fuel with
  | leaf h =>
    obtain ⟨fuel, rfl⟩ : ∃ n, fuel = n + 1 := ⟨fuel - 1, by omega⟩
    simp [nameWithin_leaf he h]
  | @sum e left right line ls rs h _ _ ihl ihr =>
    obtain ⟨fuel, rfl⟩ : ∃ n, fuel = n + 1 := ⟨fuel - 1, by omega⟩
    obtain ⟨hltl, hleft⟩ := hbelow.bounds ht he (i := left) (by simp [h, operands])
    obtain ⟨hltr, hright⟩ := hbelow.bounds ht he (i := right) (by simp [h, operands])
    rw [nameWithin_sum he h, ihl hleft (by omega), ihr hright (by omega), List.map_append,
      String.join_append]
    rfl
  | @group e inner ls h _ ih =>
    obtain ⟨fuel, rfl⟩ : ∃ n, fuel = n + 1 := ⟨fuel - 1, by omega⟩
    obtain ⟨hlt, hinner⟩ := hbelow.bounds ht he (i := inner) (by simp [h, operands])
    rw [nameWithin_group he h, ih hinner (by omega)]

/-- The search for a name gives that of the leaves. -/
theorem Flattens.resolveName_eq (h : Flattens t e leaves) (hbelow : OperandsBelow t)
    (ht : t.WellFormed) (he : e < t.size) :
    resolveName t e = some (String.join (leaves.map (leafName t))) :=
  h.nameWithin_eq hbelow ht he (by omega)

/-- **The name of a thread ignores grouping.** If the operands of operators and what stands
between parentheses are children of their nodes, then an expression has leaves, which are the
nodes that are reached through sums and parentheses, and the search for its name comes to an end
with the names of the leaves from left to right. So two expressions, of one tree or of two, give
the same name if their leaves are called the same, however they are grouped. -/
theorem resolveName_ignores_grouping (ht : t.Reachable) (hbelow : OperandsBelow t)
    (he : e < t.size) :
    (∃ leaves, Flattens t e leaves ∧ ∀ i, i ∈ leaves ↔ IsLeafOf t e i) ∧
    (∀ leaves, Flattens t e leaves →
      resolveName t e = some (String.join (leaves.map (leafName t)))) ∧
    ∀ (t' : SyntaxTree) (e' : NodeId) (leaves leaves' : List NodeId), t'.Reachable →
      OperandsBelow t' → e' < t'.size →
      Flattens t e leaves → Flattens t' e' leaves' →
      leaves.map (leafName t) = leaves'.map (leafName t') →
      resolveName t e = resolveName t' e' := by
  refine ⟨?_, fun leaves h => h.resolveName_eq hbelow ht.wellFormed he, ?_⟩
  · obtain ⟨leaves, h⟩ := hbelow.exists_flattens ht.wellFormed he
    exact ⟨leaves, h, fun i => h.mem_iff⟩
  · intro t' e' leaves leaves' ht' hbelow' he' h h' hnames
    rw [h.resolveName_eq hbelow ht.wellFormed he,
      h'.resolveName_eq hbelow' ht'.wellFormed he', hnames]

/-- The expression `(a + "-") + (b*c)`. -/
def groupedName : SyntaxTree :=
  SyntaxTree.ofSource "(a + \"-\") + (b*c)"
    |>.push 0 { kind := .expr (.binary "+" (some 1) 2 6) }
    |>.push 1 { kind := .expr (.parenthesized (some 3)) }
    |>.push 2 { kind := .expr (.binary "+" (some 1) 4 5) }
    |>.push 3 { kind := .expr .name, name := some ⟨"a", some 1⟩ }
    |>.push 3 { kind := .expr (.stringLiteral "-") }
    |>.push 1 { kind := .expr (.parenthesized (some 7)) }
    |>.push 6 { kind := .expr (.binary "*" (some 1) 8 9), span := some ⟨1, 1, 13, 16⟩ }
    |>.push 7 { kind := .expr .name, name := some ⟨"b", some 1⟩ }
    |>.push 7 { kind := .expr .name, name := some ⟨"c", some 1⟩ }

/-- The expression `a + ("-" + b*c)`. -/
def regroupedName : SyntaxTree :=
  SyntaxTree.ofSource "a + (\"-\" + b*c)"
    |>.push 0 { kind := .expr (.binary "+" (some 1) 2 3) }
    |>.push 1 { kind := .expr .name, name := some ⟨"a", some 1⟩ }
    |>.push 1 { kind := .expr (.parenthesized (some 4)) }
    |>.push 3 { kind := .expr (.binary "+" (some 1) 5 6) }
    |>.push 4 { kind := .expr (.stringLiteral "-") }
    |>.push 4 { kind := .expr (.binary "*" (some 1) 7 8), span := some ⟨1, 1, 11, 14⟩ }
    |>.push 6 { kind := .expr .name, name := some ⟨"b", some 1⟩ }
    |>.push 6 { kind := .expr .name, name := some ⟨"c", some 1⟩ }

/-- The product is a leaf, and both expressions give the same name. -/
theorem resolveName_regroupedName :
    groupedName.Reachable ∧ OperandsBelow groupedName ∧ Flattens groupedName 1 [4, 5, 7] ∧
    regroupedName.Reachable ∧ OperandsBelow regroupedName ∧ Flattens regroupedName 1 [2, 5, 6] ∧
    resolveName groupedName 1 = some "a-b*c" ∧
    resolveName groupedName 1 = resolveName regroupedName 1 := by
  have hgrouped : groupedName.Reachable := by
    iterate 9 refine .push ?_ (by decide) rfl
    exact .ofSource _
  have hregrouped : regroupedName.Reachable := by
    iterate 8 refine .push ?_ (by decide) rfl
    exact .ofSource _
  have hbelow : OperandsBelow groupedName := by decide +kernel
  have hbelow' : OperandsBelow regroupedName := by decide +kernel
  have hleaves : Flattens groupedName 1 [4, 5, 7] :=
    .sum rfl (.group rfl (.sum rfl (.leaf rfl) (.leaf rfl))) (.group rfl (.leaf rfl))
  have hleaves' : Flattens regroupedName 1 [2, 5, 6] :=
    .sum rfl (.leaf rfl) (.group rfl (.sum rfl (.leaf rfl) (.leaf rfl)))
  obtain ⟨-, hname, hsame⟩ := resolveName_ignores_grouping hgrouped hbelow (e := 1) (by decide)
  refine ⟨hgrouped, hbelow, hleaves, hregrouped, hbelow', hleaves',
    (hname _ hleaves).trans (by decide +kernel), ?_⟩
  exact hsame regroupedName 1 _ _ hregrouped hbelow' (by decide) hleaves hleaves'
    (by decide +kernel)

end Excerpt.Detect
