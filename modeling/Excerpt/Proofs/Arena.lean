import Excerpt.Tree.Walk
import Mathlib.Data.List.Basic

/-!
# Trees that grow

A tree grows out of the tree of its source: `push` hangs a new node below one that is already
there, and `edit` rewrites what a node says about itself. `SyntaxTree.Reachable` collects the
trees that come about in this way.

The place of a node is recorded twice, as the parent of the node and among the children of that
parent. `SyntaxTree.WellFormed` says that both records agree: parents have smaller indices, and
the children of a node are the nodes with this parent, in the order of their indices. Since `push`
gives out the indices one after the other, this is the order in which they were added.

One step of growth keeps both records in agreement, hence so does any number of them. Everything
that is proved about walks through trees rests on this invariant alone, and not on how the tree
came about.

## Main results

* `SyntaxTree.node?_push`, `SyntaxTree.node?_edit`: what one step changes, node by node.
* `SyntaxTree.WellFormed.push`, `SyntaxTree.WellFormed.edit`: one step keeps the invariant.
* `SyntaxTree.Reachable.wellFormed`: the invariant holds of every tree that has grown.
* `SyntaxTree.WellFormed.mem_children`: the two records of the place of a node.
-/

namespace Excerpt.SyntaxTree

variable {t : SyntaxTree} {i j p : Nat} {n : Node}

/-! ### What one step changes -/

/-- The tree of a source begins with its root. -/
@[simp]
theorem size_ofSource (source : String) : (ofSource source).size = 1 := rfl

/-- A step of growth adds one node. -/
@[simp]
theorem size_push (t : SyntaxTree) (p : NodeId) (n : Node) : (t.push p n).size = t.size + 1 := by
  simp [push, size]

/-- Rewriting a node adds none. -/
@[simp]
theorem size_edit (t : SyntaxTree) (i : NodeId) (n : Node) : (t.edit i n).size = t.size := by
  simp [edit, size]

/-- Outside of the tree there are no nodes. -/
theorem node?_of_size_le (h : t.size ≤ i) : t.node? i = none :=
  Array.getElem?_eq_none h

/-- A node that is pushed comes last, and its parent gains a child. -/
theorem node?_push (hp : p < t.size) :
    (t.push p n).node? i =
      if i = t.size then some { n with parent := some p }
      else (t.node? i).map fun m => if i = p then { m with children := m.children ++ [t.size] }
        else m := by
  have hne : p ≠ t.nodes.size := Nat.ne_of_lt hp
  simp only [node?, push, size, Array.getElem?_modify, Array.getElem?_push]
  by_cases hi : i = t.nodes.size
  · subst hi
    simp [hne]
  · by_cases hip : p = i
    · subst hip
      simp [hne]
    · have hpi : ¬ i = p := fun h => hip h.symm
      simp [hi, hip, hpi]

/-- A node that is edited keeps its place. -/
theorem node?_edit :
    (t.edit i n).node? j =
      (t.node? j).map fun m =>
        if j = i then { n with parent := m.parent, children := m.children } else m := by
  simp only [node?, edit, Array.getElem?_modify]
  by_cases hij : i = j
  · subst hij
    simp
  · have hji : ¬ j = i := fun h => hij h.symm
    simp [hij, hji]

private theorem parent?_of_size_le (h : t.size ≤ i) : t.parent? i = none := by
  simp [parent?, node, node?_of_size_le h]

private theorem children_of_size_le (h : t.size ≤ i) : t.children i = [] := by
  simp [children, node, node?_of_size_le h]

private theorem parent?_push (hp : p < t.size) :
    (t.push p n).parent? i = if i = t.size then some p else t.parent? i := by
  simp only [parent?, node, node?_push hp]
  by_cases hi : i = t.size
  · simp [hi]
  · rw [if_neg hi, if_neg hi]
    by_cases hip : i = p <;> cases t.node? i <;> simp [hip]

private theorem children_push (hp : p < t.size) :
    (t.push p n).children i =
      if i = t.size then n.children else if i = p then t.children i ++ [t.size]
        else t.children i := by
  simp only [children, node, node?_push hp]
  by_cases hi : i = t.size
  · simp [hi]
  · by_cases hip : i = p
    · subst hip
      obtain ⟨m, hm⟩ : ∃ m, t.node? i = some m := ⟨t.nodes[i], Array.getElem?_eq_getElem hp⟩
      simp [hi, hm]
    · cases t.node? i <;> simp [hi, hip]

/-- What a node says about itself does not touch its parent. -/
@[simp]
theorem parent?_edit : (t.edit i n).parent? j = t.parent? j := by
  simp only [parent?, node, node?_edit]
  by_cases hij : j = i <;> cases t.node? j <;> simp [hij]

/-- What a node says about itself does not touch its children. -/
@[simp]
theorem children_edit : (t.edit i n).children j = t.children j := by
  simp only [children, node, node?_edit]
  by_cases hij : j = i <;> cases t.node? j <;> simp [hij]

/-! ### Growth -/

/-- The trees that grow out of the tree of a source. A node is pushed below a node of the tree and
has no children yet; an edit concerns a node of the tree. -/
inductive Reachable : SyntaxTree → Prop
  | ofSource (source : String) : Reachable (ofSource source)
  | push {t : SyntaxTree} {p : NodeId} {n : Node} (ht : Reachable t) (hp : p < t.size)
      (hn : n.children = []) :
      Reachable (t.push p n)
  | edit {t : SyntaxTree} {i : NodeId} (n : Node) (ht : Reachable t) (hi : i < t.size) :
      Reachable (t.edit i n)

/-- Both records of the places of nodes agree. -/
structure WellFormed (t : SyntaxTree) : Prop where
  size_pos : 0 < t.size
  parent?_root : t.parent? 0 = none
  exists_parent : ∀ i : Nat, 0 < i → i < t.size → ∃ p : Nat, t.parent? i = some p ∧ p < i
  children_eq : ∀ i : Nat, t.children i = (List.range t.size).filter fun j => t.parent? j = some i

private theorem wellFormed_ofSource (source : String) : WellFormed (ofSource source) where
  size_pos := Nat.one_pos
  parent?_root := rfl
  exists_parent := by
    intro i h0 h1
    rw [size_ofSource] at h1
    omega
  children_eq := by
    intro i
    have hroot : (ofSource source).parent? 0 = none := rfl
    have hchildren : (ofSource source).children i = [] := by
      cases i with
      | zero => rfl
      | succ i => exact children_of_size_le (Nat.le_add_left 1 i)
    simp [hchildren, hroot]

/-- A new node is the greatest, so it comes last among the children of its parent. -/
theorem WellFormed.push (h : WellFormed t) (hp : p < t.size) (hn : n.children = []) :
    WellFormed (t.push p n) where
  size_pos := by simp
  parent?_root := by
    have hsize : 0 ≠ t.size := Nat.ne_of_lt h.size_pos
    rw [parent?_push hp, if_neg hsize, h.parent?_root]
  exists_parent := by
    intro i h0 hi
    rw [size_push] at hi
    rw [parent?_push hp]
    by_cases hnew : i = t.size
    · exact ⟨p, by simp [hnew], hnew ▸ hp⟩
    · rw [if_neg hnew]
      exact h.exists_parent i h0 (by omega)
  children_eq := by
    intro i
    -- the old nodes keep their parents, and the new one is counted last
    have hold : ((List.range t.size).filter fun j => (t.push p n).parent? j = some i) =
        t.children i := by
      rw [h.children_eq i]
      refine List.filter_congr fun j hj => ?_
      rw [parent?_push hp, if_neg (Nat.ne_of_lt (List.mem_range.mp hj))]
    have hnew : (t.push p n).parent? t.size = some p := by rw [parent?_push hp, if_pos rfl]
    rw [size_push, List.range_succ, List.filter_append, hold, children_push hp,
      List.filter_singleton, hnew]
    by_cases his : i = t.size
    · subst his
      simp [hn, children_of_size_le, Nat.ne_of_lt hp]
    · by_cases hip : i = p
      · simp [hip, Nat.ne_of_lt hp]
      · have hpi : ¬ p = i := fun h => hip h.symm
        simp [his, hip, hpi]

/-- Rewriting a node changes no record of a place. -/
theorem WellFormed.edit (h : WellFormed t) : WellFormed (t.edit i n) where
  size_pos := by simpa using h.size_pos
  parent?_root := by simpa using h.parent?_root
  exists_parent := by simpa using h.exists_parent
  children_eq := by simpa using h.children_eq

/-- However a tree has grown, both records of the places of its nodes agree. -/
theorem Reachable.wellFormed (ht : Reachable t) : WellFormed t := by
  induction ht with
  | ofSource source => exact wellFormed_ofSource source
  | push _ hp hn ih => exact ih.push hp hn
  | edit _ _ _ ih => exact ih.edit

/-! ### Parents and children -/

namespace WellFormed

/-- A node with a parent is in the tree. -/
theorem lt_size_of_parent? (hj : t.parent? j = some p) : j < t.size := by
  by_contra hge
  rw [parent?_of_size_le (Nat.le_of_not_lt hge)] at hj
  cases hj

/-- Parents come before their children. -/
theorem lt_of_parent? (h : WellFormed t) (hj : t.parent? j = some p) : p < j := by
  have hpos : 0 < j := by
    refine Nat.pos_of_ne_zero fun h0 => ?_
    rw [h0, h.parent?_root] at hj
    cases hj
  obtain ⟨q, hq, hlt⟩ := h.exists_parent j hpos (lt_size_of_parent? hj)
  rw [hj] at hq
  cases hq
  exact hlt

/-- The children of a node are those that have it as their parent. -/
theorem mem_children (h : WellFormed t) : j ∈ t.children i ↔ t.parent? j = some i := by
  rw [h.children_eq, List.mem_filter, List.mem_range, decide_eq_true_eq]
  exact ⟨And.right, fun hj => ⟨lt_size_of_parent? hj, hj⟩⟩

/-- No child is listed twice. -/
theorem nodup_children (h : WellFormed t) (i : Nat) : (t.children i).Nodup := by
  rw [h.children_eq]
  exact List.nodup_range.filter _

/-- A node is listed once by its parent and not at all by other nodes. -/
theorem count_children (h : WellFormed t) (i j : Nat) :
    (t.children i).count j = if t.parent? j = some i then 1 else 0 := by
  simp only [(h.nodup_children i).count, h.mem_children]

/-- Of two children of a node, the one with the smaller index comes first. -/
theorem pair_sublist_children (h : WellFormed t) {k : Nat} (hj : t.parent? j = some i)
    (hk : t.parent? k = some i) (hjk : j < k) : [j, k].Sublist (t.children i) := by
  have hrange : [j, k].Sublist (List.range t.size) := by
    have hupto : ([j] ++ [k]).Sublist (List.range (k + 1)) := by
      rw [List.range_succ]
      exact (List.singleton_sublist.mpr (List.mem_range.mpr hjk)).append (List.Sublist.refl [k])
    exact hupto.trans (List.range_sublist.mpr (lt_size_of_parent? hk))
  have hfilter := hrange.filter fun m => decide (t.parent? m = some i)
  rw [← h.children_eq] at hfilter
  simpa [hj, hk] using hfilter

end WellFormed

end Excerpt.SyntaxTree
