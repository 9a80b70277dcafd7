import Excerpt.Proofs.Arena
import Excerpt.Tree.Draft

/-!
# Trees of drafts

`SyntaxTree.graft` adds a draft to a tree, node by node. The result can be written down at once:
`Draft.laidOut` lists the nodes of a draft as they stand in a tree, in pre-order, with their
parents, their children and their redirected references. Grafting appends this list to the nodes
of the tree, and adds the first node of each draft to the children of the node that they are
grafted to (`SyntaxTree.nodes_graftAll`).

From then on, a tree of drafts is a list of nodes, and what is asked about it is asked about a
position in the list. A draft that has been laid out from some index on can be found there by
dropping the nodes before it (`SyntaxTree.node_of_drop`, `SyntaxTree.drop_add_length`).

A draft is sound if the references of every node are positions of children of that node.
References of a draft count the children from zero; in a tree they are indices. `Draft.Sound` is
what makes the redirected references children again.

## Main results

* `SyntaxTree.nodes_graftAll`: grafting appends the nodes of drafts.
* `SyntaxTree.references_graftAll`: in a tree of sound drafts each reference of a node is one of
  its children.
* `SyntaxTree.preorder_graftAll`: in a tree of sound drafts the indices count the nodes in
  pre-order.
-/

namespace Excerpt

namespace Draft

/-! ### The nodes of a draft in a tree -/

/-- The indices that the first nodes of several drafts get, if the next index is `id`. -/
def starts (id : Nat) : List Draft → List NodeId
  | [] => []
  | d :: ds => id :: starts (id + d.size) ds

mutual

/-- The nodes of a draft that is added below `parent` when the next index is `id`. -/
def laidOut (parent id : Nat) : Draft → List Node
  | node head cs =>
    { head with
      kind := SyntaxTree.placedKind id head.kind cs
      parent := some parent
      children := head.children ++ starts (id + 1) cs } :: laidOutAll id (id + 1) cs

/-- The nodes of several drafts that are added below `parent` when the next index is `id`. -/
def laidOutAll (parent id : Nat) : List Draft → List Node
  | [] => []
  | d :: ds => d.laidOut parent id ++ laidOutAll parent (id + d.size) ds

end

mutual

/-- All nodes of a draft are laid out. -/
@[simp]
theorem length_laidOut (parent id : Nat) : (d : Draft) → (d.laidOut parent id).length = d.size
  | node head cs => by simp [laidOut, size, length_laidOutAll]

/-- All nodes of drafts are laid out. -/
@[simp]
theorem length_laidOutAll (parent id : Nat) :
    (ds : List Draft) → (laidOutAll parent id ds).length = sizes ds
  | [] => rfl
  | d :: ds => by simp [laidOutAll, sizes, length_laidOut, length_laidOutAll]

end

/-- The position of a draft leads to its first node. -/
theorem add_sizes_take_mem_starts {ds : List Draft} {j : Nat} (hj : j < ds.length) (id : Nat) :
    id + sizes (ds.take j) ∈ starts id ds := by
  induction ds generalizing id j with
  | nil => simp at hj
  | cons d ds ih =>
    cases j with
    | zero => simp [sizes, starts]
    | succ j =>
      have hrest : id + d.size + sizes (ds.take j) ∈ starts (id + d.size) ds :=
        ih (Nat.lt_of_succ_lt_succ hj) (id + d.size)
      rw [List.take_succ_cons, sizes, starts, ← Nat.add_assoc]
      exact List.mem_cons_of_mem id hrest

end Draft

namespace SyntaxTree

/-! ### Grafting -/

/-- A node with more children. -/
def addChildren (cs : List NodeId) (n : Node) : Node :=
  { n with children := n.children ++ cs }

private theorem addChildren_nil : addChildren [] = id := by
  funext n
  simp [addChildren]

private theorem addChildren_comp (cs cs' : List NodeId) :
    addChildren cs' ∘ addChildren cs = addChildren (cs ++ cs') := by
  funext n
  simp [addChildren]

private theorem modify_append_of_lt {α : Type} (f : α → α) {l m : List α} {i : Nat}
    (hi : i < l.length) :
    (l ++ m).modify i f = l.modify i f ++ m := by
  induction l generalizing i with
  | nil => simp at hi
  | cons a l ih =>
    cases i with
    | zero => rfl
    | succ i => simp [ih (Nat.lt_of_succ_lt_succ hi)]

private theorem modify_append_singleton {α : Type} (f : α → α) {l : List α} {i : Nat}
    (hi : i = l.length) (a : α) : (l ++ [a]).modify i f = l ++ [f a] := by
  subst hi
  induction l with
  | nil => rfl
  | cons b l ih => simp [ih]

private theorem nodes_push {t : SyntaxTree} {p : Nat} (hp : p < t.size) (n : Node) :
    (t.push p n).nodes.toList =
      t.nodes.toList.modify p (addChildren [t.size]) ++ [{ n with parent := some p }] := by
  simp only [push, Array.toList_modify, Array.toList_push]
  exact modify_append_of_lt (addChildren [t.size]) (Array.length_toList ▸ hp)

mutual

/-- Grafting a draft appends its nodes. -/
theorem nodes_graft {t : SyntaxTree} {p : Nat} (hp : p < t.size) : (d : Draft) →
    (t.graft p d).nodes.toList = t.nodes.toList.modify p (addChildren [t.size]) ++
      d.laidOut p t.size
  | .node head cs => by
    have hnew : t.size < (t.push p { head with kind := placedKind t.size head.kind cs }).size := by
      simp
    -- the new node stands at the end when its own children are added
    have hend : t.size = (t.nodes.toList.modify p (addChildren [t.size])).length := by simp [size]
    rw [graft, nodes_graftAll hnew cs, nodes_push hp, size_push, modify_append_singleton _ hend]
    simp [Draft.laidOut, addChildren]

/-- Grafting several drafts appends their nodes. -/
theorem nodes_graftAll {t : SyntaxTree} {p : Nat} (hp : p < t.size) : (ds : List Draft) →
    (t.graftAll p ds).nodes.toList =
      t.nodes.toList.modify p (addChildren (Draft.starts t.size ds)) ++ Draft.laidOutAll p t.size ds
  | [] => by simp [graftAll, Draft.starts, Draft.laidOutAll, addChildren_nil]
  | d :: ds => by
    have hnodes := nodes_graft hp d
    have hsize : (t.graft p d).size = t.size + d.size := by
      simpa [size] using congrArg List.length hnodes
    have hp' : p < (t.graft p d).size := by omega
    have hlength : p < (t.nodes.toList.modify p (addChildren [t.size])).length := by
      simpa [size] using hp
    -- the children that the rest adds to `p` join the one that `d` has added
    rw [graftAll, nodes_graftAll hp' ds, hnodes, hsize, modify_append_of_lt _ hlength,
      List.modify_modify_eq, addChildren_comp, List.append_assoc]
    rfl

end

/-- The nodes of a tree that consists of drafts below the root. -/
theorem nodes_graftAll_ofSource (source : String) (ds : List Draft) :
    ((ofSource source).graftAll 0 ds).nodes.toList =
      addChildren (Draft.starts 1 ds) ((ofSource source).node 0) :: Draft.laidOutAll 0 1 ds := by
  rw [nodes_graftAll (by simp) ds]
  rfl

end SyntaxTree

/-! ### Sound drafts -/

/-- The references of each node of the draft are positions of its children. -/
inductive Draft.Sound : Draft → Prop
  | node {head : Node} {cs : List Draft} (hhead : head.children = [])
      (hrefs : ∀ j ∈ head.kind.references, j < cs.length) (hcs : ∀ c ∈ cs, c.Sound) :
      Sound (.node head cs)

namespace Draft

mutual

/-- In a tree, the references of a node of a sound draft are among its children. -/
theorem Sound.references_laidOut {parent id : Nat} : {d : Draft} → d.Sound →
    ∀ n ∈ d.laidOut parent id, ∀ j ∈ n.kind.references, j ∈ n.children
  | .node head cs, .node hhead hrefs hcs => by
    intro n hn j hj
    rw [laidOut, List.mem_cons] at hn
    rcases hn with rfl | hn
    · obtain ⟨k, hk, rfl⟩ : ∃ k ∈ head.kind.references, id + 1 + sizes (cs.take k) = j := by
        simpa [SyntaxTree.placedKind] using hj
      exact List.mem_append_right _ (add_sizes_take_mem_starts (hrefs k hk) (id + 1))
    · exact references_laidOutAll cs hcs n hn j hj

private theorem references_laidOutAll {parent id : Nat} : (ds : List Draft) → (∀ d ∈ ds, d.Sound) →
    ∀ n ∈ laidOutAll parent id ds, ∀ j ∈ n.kind.references, j ∈ n.children
  | [], _ => by simp [laidOutAll]
  | d :: ds, hds => by
    intro n hn
    rw [laidOutAll, List.mem_append] at hn
    rcases hn with hn | hn
    · exact (hds d List.mem_cons_self).references_laidOut n hn
    · exact references_laidOutAll ds (fun d hd => hds d (List.mem_cons_of_mem _ hd)) n hn

end

end Draft

namespace SyntaxTree

variable {t : SyntaxTree}

/-! ### The order of indices -/

/-- The node at an index is the first one after those before it are dropped. -/
theorem node_of_drop {n : Node} {l : List Node} {id : Nat} (h : n :: l <+: t.nodes.toList.drop id) :
    t.node id = n := by
  obtain ⟨rest, hrest⟩ := h
  have hhead : (t.nodes.toList.drop id)[0]? = some n := by rw [← hrest]; rfl
  rw [List.getElem?_drop, Nat.add_zero, Array.getElem?_toList] at hhead
  rw [node, node?, hhead, Option.getD_some]

/-- What stands in a tree after a list of nodes that stands there. -/
theorem drop_add_length {l l' : List Node} {id : Nat} (h : l ++ l' <+: t.nodes.toList.drop id) :
    l' <+: t.nodes.toList.drop (id + l.length) := by
  obtain ⟨rest, hrest⟩ := h
  refine ⟨rest, ?_⟩
  rw [← List.drop_drop, ← hrest, List.append_assoc, List.drop_left]

mutual

/-- A tree that holds the nodes of a sound draft from `id` on counts them in pre-order. -/
theorem subtree_of_laidOut {parent id depth : Nat} : {d : Draft} → d.Sound → d.size ≤ depth →
    d.laidOut parent id <+: t.nodes.toList.drop id → t.subtree depth id = List.range' id d.size
  | .node head cs, .node hhead _ hcs, hdepth, hnodes => by
    rw [Draft.size] at hdepth ⊢
    obtain ⟨depth, rfl⟩ : ∃ k, depth = k + 1 := ⟨depth - 1, by omega⟩
    rw [Draft.laidOut] at hnodes
    -- a sound draft brings no children of its own, so they are those that grafting gave to the
    -- node
    have hchildren : t.children id = Draft.starts (id + 1) cs := by
      rw [children, node_of_drop hnodes, hhead, List.nil_append]
    have hbelow := flatMap_subtree_of_laidOutAll cs hcs (Nat.le_of_succ_le_succ hdepth)
      (drop_add_length (l := [_]) hnodes)
    rw [subtree, hchildren, List.range'_succ]
    exact congrArg (id :: ·) hbelow

private theorem flatMap_subtree_of_laidOutAll {parent id depth : Nat} :
    (ds : List Draft) → (∀ d ∈ ds, d.Sound) →
    Draft.sizes ds ≤ depth → Draft.laidOutAll parent id ds <+: t.nodes.toList.drop id →
    (Draft.starts id ds).flatMap (t.subtree depth) = List.range' id (Draft.sizes ds)
  | [], _, _, _ => rfl
  | d :: ds, hds, hdepth, hnodes => by
    rw [Draft.sizes] at hdepth
    rw [Draft.laidOutAll] at hnodes
    have hfirst : t.subtree depth id = List.range' id d.size :=
      subtree_of_laidOut (hds d List.mem_cons_self) (by omega)
        ((List.prefix_append _ _).trans hnodes)
    have hrest := drop_add_length hnodes
    rw [Draft.length_laidOut] at hrest
    have hmore := flatMap_subtree_of_laidOutAll ds (fun d hd => hds d (List.mem_cons_of_mem _ hd))
      (by omega : Draft.sizes ds ≤ depth) hrest
    rw [Draft.starts, List.flatMap_cons, hfirst, hmore, List.range'_append_1, Draft.sizes]

end

variable {source : String} {ds : List Draft}

/-- In a tree of sound drafts, the indices count the nodes in pre-order. -/
theorem preorder_graftAll (hds : ∀ d ∈ ds, d.Sound) :
    ((ofSource source).graftAll 0 ds).preorder =
      List.range ((ofSource source).graftAll 0 ds).size := by
  have hnodes := nodes_graftAll_ofSource source ds
  generalize (ofSource source).graftAll 0 ds = t at hnodes ⊢
  have hsize : t.size = Draft.sizes ds + 1 := by simpa [size] using congrArg List.length hnodes
  have hchildren : t.children 0 = Draft.starts 1 ds := by
    rw [children, node_of_drop (l := Draft.laidOutAll 0 1 ds)
      (by rw [hnodes]; exact List.prefix_rfl)]
    rfl
  have hprefix : Draft.laidOutAll 0 1 ds <+: t.nodes.toList.drop 1 := by
    rw [hnodes]; exact List.prefix_rfl
  have hbelow := flatMap_subtree_of_laidOutAll ds hds (Nat.le_succ (Draft.sizes ds)) hprefix
  rw [preorder, descendants, hchildren, hsize, hbelow, List.range_eq_range', List.range'_succ]

/-- In a tree of sound drafts, the references of a node are among its children. -/
theorem references_graftAll (hds : ∀ d ∈ ds, d.Sound) {i j : Nat}
    (hj : j ∈ (((ofSource source).graftAll 0 ds).kind i).references) :
    j ∈ ((ofSource source).graftAll 0 ds).children i := by
  have hnodes := nodes_graftAll_ofSource source ds
  generalize (ofSource source).graftAll 0 ds = t at hnodes hj ⊢
  cases hi : t.node? i with
  | none => simp [kind, node, hi, Kind.references] at hj
  | some n =>
    simp only [kind, node, hi, Option.getD_some] at hj
    simp only [children, node, hi, Option.getD_some]
    have hn : n ∈ t.nodes.toList := Array.mem_toList_iff.mpr (Array.mem_of_getElem? hi)
    rw [hnodes, List.mem_cons] at hn
    rcases hn with rfl | hn
    · -- the root refers to nothing
      cases hj
    · exact Draft.references_laidOutAll ds hds n hn j hj

end SyntaxTree

end Excerpt
