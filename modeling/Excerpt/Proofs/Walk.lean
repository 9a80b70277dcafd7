import Excerpt.Proofs.Arena
import Mathlib.Data.List.Nodup

/-!
# Walks through well-formed trees

In a well-formed tree the walk upwards by parents and the walk downwards by children are two views
of one order: a node lies below another if and only if the other is among its ancestors
(`mem_descendants_iff`).

* **Upwards.** The way from a node to the root goes from parent to parent through ever smaller
  indices, so it ends, and it ends at the root.
* **Downwards.** The bound on the depth of `subtree` never matters (`subtree_eq`), so
  `descendants` satisfies the recursion that one expects of it (`descendants_eq`).
* **The pre-order.** Every node is listed once (`preorder_perm_range`), and every subtree is a
  contiguous part of the list (`segment_infix_preorder`).
* **The walk with a stack.** A walk downwards can also be made with a stack of the nodes that are
  still to be visited: take the uppermost one and put its children in its place. `Visits` says
  that this loop comes to an end and which nodes it has visited then. It visits exactly the nodes
  of `descendants`, in the same order (`visits_descendants`).

All of this follows from well-formedness alone. The main theorems put it together for trees that
have grown, which are well formed.

## Main results

* `SyntaxTree.Reachable.preorder_visits_all`: the walk from the root.
* `SyntaxTree.Reachable.descendants_and_ancestors`: walking down and walking up.
-/

namespace Excerpt.SyntaxTree

variable {t : SyntaxTree} {a c d i j p : Nat}

/-! ### Upwards -/

/-- The ancestors of a node are its parent and the ancestors of that, if the parent comes first. -/
theorem ancestors_of_lt (hi : t.parent? i = some p) (hlt : p < i) :
    t.ancestors i = p :: t.ancestors p := by
  rw [ancestors, hi]
  exact if_pos hlt

/-- A search on the way up ends at the first node of the kind that is sought. -/
theorem findAncestor?_eq_some_iff {p : Kind → Bool} :
    t.findAncestor? i p = some a ↔
      ∃ below above, t.ancestors i = below ++ a :: above ∧ p (t.kind a) = true ∧
        ∀ b ∈ below, p (t.kind b) = false := by
  rw [findAncestor?, List.find?_eq_some_iff_append]
  constructor
  · rintro ⟨ha, below, above, hsplit, hbelow⟩
    exact ⟨below, above, hsplit, ha, fun b hb => by simpa using hbelow b hb⟩
  · rintro ⟨below, above, hsplit, ha, hbelow⟩
    exact ⟨ha, below, above, hsplit, fun b hb => by simp [hbelow b hb]⟩

namespace WellFormed

/-- In a well-formed tree, parents come first. -/
theorem ancestors_of_parent? (h : WellFormed t) (hi : t.parent? i = some p) :
    t.ancestors i = p :: t.ancestors p :=
  ancestors_of_lt hi (h.lt_of_parent? hi)

/-- A node without a parent has no ancestors. -/
theorem ancestors_of_parent?_eq_none (hi : t.parent? i = none) : t.ancestors i = [] := by
  rw [ancestors, hi]

/-- The ancestors of a node, by its parent. -/
theorem mem_ancestors_iff (h : WellFormed t) :
    a ∈ t.ancestors d ↔ ∃ p, t.parent? d = some p ∧ (a = p ∨ a ∈ t.ancestors p) := by
  cases hd : t.parent? d with
  | none => simp [ancestors_of_parent?_eq_none hd]
  | some p => simp [h.ancestors_of_parent? hd]

private theorem mem_ancestors_of_parent? (h : WellFormed t) (hd : t.parent? d = some p) :
    p ∈ t.ancestors d :=
  h.mem_ancestors_iff.mpr ⟨p, hd, Or.inl rfl⟩

private theorem le_parent_of_mem_ancestors (h : WellFormed t) (hd : t.parent? d = some p)
    (ha : a ∈ t.ancestors d) :
    a ≤ p := by
  induction d using Nat.strongRecOn generalizing p with
  | ind d ih =>
    rw [h.ancestors_of_parent? hd, List.mem_cons] at ha
    rcases ha with rfl | ha
    · exact Nat.le_refl a
    · obtain ⟨q, hq, -⟩ := h.mem_ancestors_iff.mp ha
      have hle : a ≤ q := ih p (h.lt_of_parent? hd) hq ha
      exact Nat.le_trans hle (Nat.le_of_lt (h.lt_of_parent? hq))

/-- Ancestors have smaller indices. -/
theorem lt_of_mem_ancestors (h : WellFormed t) (ha : a ∈ t.ancestors d) : a < d := by
  obtain ⟨p, hp, -⟩ := h.mem_ancestors_iff.mp ha
  exact Nat.lt_of_le_of_lt (h.le_parent_of_mem_ancestors hp ha) (h.lt_of_parent? hp)

/-- Only nodes of the tree have ancestors. -/
theorem lt_size_of_mem_ancestors (h : WellFormed t) (ha : a ∈ t.ancestors d) : d < t.size := by
  obtain ⟨p, hp, -⟩ := h.mem_ancestors_iff.mp ha
  exact lt_size_of_parent? hp

/-- The ancestors of a node, by the children of the ancestor. -/
theorem mem_ancestors_iff_exists_child (h : WellFormed t) :
    a ∈ t.ancestors d ↔ ∃ c, t.parent? c = some a ∧ (d = c ∨ c ∈ t.ancestors d) := by
  -- `mem_ancestors_iff` takes the lower end off the way from `d` to `a`, this lemma the upper one
  induction d using Nat.strongRecOn with
  | ind d ih =>
    constructor
    · intro ha
      obtain ⟨p, hp, rfl | hap⟩ := h.mem_ancestors_iff.mp ha
      · exact ⟨d, hp, Or.inl rfl⟩
      · obtain ⟨c, hc, hpc⟩ := (ih p (h.lt_of_parent? hp)).mp hap
        exact ⟨c, hc, Or.inr (h.mem_ancestors_iff.mpr ⟨p, hp, hpc.imp_left Eq.symm⟩)⟩
    · rintro ⟨c, hc, rfl | hcd⟩
      · exact h.mem_ancestors_of_parent? hc
      · obtain ⟨p, hp, hcp⟩ := h.mem_ancestors_iff.mp hcd
        have hap : a ∈ t.ancestors p :=
          (ih p (h.lt_of_parent? hp)).mpr ⟨c, hc, hcp.imp_left Eq.symm⟩
        exact h.mem_ancestors_iff.mpr ⟨p, hp, Or.inr hap⟩

/-- The root is above all other nodes. -/
theorem root_mem_ancestors (h : WellFormed t) (hpos : 0 < i) (hi : i < t.size) :
    0 ∈ t.ancestors i := by
  induction i using Nat.strongRecOn with
  | ind i ih =>
    obtain ⟨p, hp, hlt⟩ := h.exists_parent i hpos hi
    refine h.mem_ancestors_iff.mpr ⟨p, hp, ?_⟩
    rcases Nat.eq_zero_or_pos p with h0 | h0
    · exact Or.inl h0.symm
    · exact Or.inr (ih p hlt h0 (Nat.lt_trans hlt hi))

/-- The way from a node to the root goes from parent to parent. -/
theorem isChain_ancestors (h : WellFormed t) (d : Nat) :
    (d :: t.ancestors d).IsChain fun c p => t.parent? c = some p := by
  induction d using Nat.strongRecOn with
  | ind d ih =>
    cases hd : t.parent? d with
    | none =>
      rw [ancestors_of_parent?_eq_none hd]
      exact .singleton d
    | some p =>
      rw [h.ancestors_of_parent? hd]
      exact .cons_cons hd (ih p (h.lt_of_parent? hd))

private theorem pairwise_gt_ancestors (h : WellFormed t) (d : Nat) :
    (d :: t.ancestors d).Pairwise (· > ·) :=
  ((h.isChain_ancestors d).imp fun _ _ hp => h.lt_of_parent? hp).pairwise

/-- The way to the root ends there. The root itself has no ancestors. -/
theorem getLast?_ancestors (h : WellFormed t) (hd : d < t.size) :
    (t.ancestors d).getLast? = if d = 0 then none else some 0 := by
  induction d using Nat.strongRecOn with
  | ind d ih =>
    rcases Nat.eq_zero_or_pos d with rfl | hpos
    · rw [ancestors_of_parent?_eq_none h.parent?_root]
      rfl
    · obtain ⟨p, hp, hlt⟩ := h.exists_parent d hpos hd
      rw [h.ancestors_of_parent? hp, List.getLast?_cons, ih p hlt (Nat.lt_trans hlt hd),
        if_neg (Nat.ne_of_gt hpos)]
      split
      · next h0 => rw [h0, Option.getD_none]
      · rw [Option.getD_some]

/-- On the way from a node to the root, no two nodes have the same parent. -/
theorem eq_of_parent?_eq (h : WellFormed t) {c c' : Nat} (hc : t.parent? c = some a)
    (hc' : t.parent? c' = some a) (hd : d = c ∨ c ∈ t.ancestors d)
    (hd' : d = c' ∨ c' ∈ t.ancestors d) :
    c = c' := by
  -- a node on the way is not above the parent of a node below it
  have above : ∀ {x y : Nat}, t.parent? x = some a → t.parent? y = some a → y ∉ t.ancestors x := by
    intro x y hx hy hmem
    have hle : y ≤ a := h.le_parent_of_mem_ancestors hx hmem
    have hlt : a < y := h.lt_of_parent? hy
    omega
  induction d using Nat.strongRecOn with
  | ind d ih =>
    rcases hd with rfl | hd
    · rcases hd' with rfl | hd'
      · rfl
      · exact absurd hd' (above hc hc')
    · rcases hd' with rfl | hd'
      · exact absurd hd (above hc' hc)
      · obtain ⟨p, hp, hcp⟩ := h.mem_ancestors_iff.mp hd
        obtain ⟨q, hq, hcq⟩ := h.mem_ancestors_iff.mp hd'
        obtain rfl : p = q := Option.some.inj (hp.symm.trans hq)
        exact ih p (h.lt_of_parent? hp) (hcp.imp_left Eq.symm) (hcq.imp_left Eq.symm)

/-! ### Downwards -/

/-- The last node has no children. -/
theorem children_eq_nil (h : WellFormed t) (hi : t.size ≤ i + 1) : t.children i = [] := by
  refine List.eq_nil_iff_forall_not_mem.mpr fun (c : Nat) hc => ?_
  have hparent := h.mem_children.mp hc
  have hlt : i < c := h.lt_of_parent? hparent
  have hsize : c < t.size := lt_size_of_parent? hparent
  omega

/-- Indices grow on the way down, so a walk from `i` is never deeper than there are nodes after
`i`. -/
theorem subtree_congr (h : WellFormed t) {m n : Nat} (hm : t.size ≤ i + m + 1)
    (hn : t.size ≤ i + n + 1) :
    t.subtree m i = t.subtree n i := by
  induction m generalizing i n with
  | zero =>
    have hnil := h.children_eq_nil hm
    cases n <;> simp [subtree, hnil]
  | succ m ih =>
    cases n with
    | zero => simp [subtree, h.children_eq_nil hn]
    | succ n =>
      simp only [subtree]
      congr 1
      refine List.flatMap_congr fun (c : Nat) hc => ?_
      have hlt : i < c := h.lt_of_parent? (h.mem_children.mp hc)
      exact ih (by omega) (by omega)

end WellFormed

/-- A node and what lies below it, in pre-order. -/
def segment (t : SyntaxTree) (i : NodeId) : List NodeId :=
  i :: t.descendants i

private theorem preorder_eq_segment (t : SyntaxTree) : t.preorder = t.segment 0 := rfl

namespace WellFormed

/-- A walk that may go deep enough sees everything. -/
theorem subtree_eq (h : WellFormed t) {depth : Nat} (hdepth : t.size ≤ i + depth + 1) :
    t.subtree depth i = t.segment i :=
  h.subtree_congr hdepth (by omega : t.size ≤ i + (t.size + 1) + 1)

/-- What lies below a node is what the segments of its children hold. -/
theorem descendants_eq (h : WellFormed t) (i : Nat) :
    t.descendants i = (t.children i).flatMap t.segment :=
  List.flatMap_congr fun c _ => h.subtree_eq (by omega)

/-- Walking down and walking up agree. -/
theorem mem_descendants_iff (h : WellFormed t) : d ∈ t.descendants a ↔ a ∈ t.ancestors d := by
  -- children come after their parents, so fewer nodes are left after them
  induction hk : t.size - a using Nat.strongRecOn generalizing a with
  | ind k ih =>
    have hchild : ∀ c : Nat, t.parent? c = some a → (d ∈ t.descendants c ↔ c ∈ t.ancestors d) := by
      intro c hc
      have hlt : a < c := h.lt_of_parent? hc
      have hsize : c < t.size := lt_size_of_parent? hc
      exact ih (t.size - c) (by omega) rfl
    rw [h.descendants_eq, List.mem_flatMap, h.mem_ancestors_iff_exists_child]
    refine exists_congr fun c => ?_
    rw [h.mem_children, segment, List.mem_cons]
    exact and_congr_right fun hc => or_congr_right (hchild c hc)

/-- What lies below a node has greater indices. -/
theorem lt_of_mem_descendants (h : WellFormed t) (hd : d ∈ t.descendants a) : a < d :=
  h.lt_of_mem_ancestors (h.mem_descendants_iff.mp hd)

/-- A walk comes to no node twice. -/
theorem nodup_segment (h : WellFormed t) (i : Nat) : (t.segment i).Nodup := by
  induction hk : t.size - i using Nat.strongRecOn generalizing i with
  | ind k ih =>
    refine List.nodup_cons.mpr ⟨fun hi => Nat.lt_irrefl i (h.lt_of_mem_descendants hi), ?_⟩
    rw [h.descendants_eq, List.nodup_flatMap]
    refine ⟨fun (c : Nat) hc => ?_, (h.nodup_children i).imp_of_mem fun {c c'} hc hc' hne => ?_⟩
    · have hparent := h.mem_children.mp hc
      have hlt : i < c := h.lt_of_parent? hparent
      have hsize : c < t.size := lt_size_of_parent? hparent
      exact ih (t.size - c) (by omega) c rfl
    · -- a node below two children of `i` would have both on its way to the root
      refine List.disjoint_left.mpr fun d hd hd' => hne ?_
      rw [segment, List.mem_cons, h.mem_descendants_iff] at hd hd'
      exact h.eq_of_parent?_eq (h.mem_children.mp hc) (h.mem_children.mp hc') hd hd'

/-! ### The pre-order -/

/-- The pre-order lists the nodes of the tree. -/
theorem mem_preorder_iff (h : WellFormed t) : i ∈ t.preorder ↔ i < t.size := by
  rw [preorder, List.mem_cons, h.mem_descendants_iff]
  constructor
  · rintro (rfl | hi)
    · exact h.size_pos
    · exact h.lt_size_of_mem_ancestors hi
  · intro hi
    exact (Nat.eq_zero_or_pos i).imp_right fun hpos => h.root_mem_ancestors hpos hi

/-- The pre-order lists every node of the tree once. -/
theorem preorder_perm_range (h : WellFormed t) : t.preorder.Perm (List.range t.size) := by
  refine (List.perm_ext_iff_of_nodup (h.nodup_segment 0) List.nodup_range).mpr fun i => ?_
  rw [← preorder_eq_segment, h.mem_preorder_iff, List.mem_range]

/-- The segment of a child is part of what lies below its parent. -/
theorem segment_infix_descendants (h : WellFormed t) (hj : t.parent? j = some i) :
    t.segment j <:+: t.descendants i := by
  rw [h.descendants_eq]
  obtain ⟨before, after, hsplit⟩ := List.append_of_mem (h.mem_children.mpr hj)
  rw [hsplit, List.flatMap_append, List.flatMap_cons]
  exact ⟨before.flatMap t.segment, after.flatMap t.segment, by simp⟩

/-- What lies below a node follows it without a gap in the pre-order. -/
theorem segment_infix_preorder (h : WellFormed t) (hi : i < t.size) :
    t.segment i <:+: t.preorder := by
  induction i using Nat.strongRecOn with
  | ind i ih =>
    rcases Nat.eq_zero_or_pos i with rfl | hpos
    · exact List.infix_rfl
    · obtain ⟨p, hp, hlt⟩ := h.exists_parent i hpos hi
      have hbelow : t.descendants p <:+: t.segment p := (List.suffix_cons p _).isInfix
      exact (h.segment_infix_descendants hp).trans (hbelow.trans (ih p hlt (Nat.lt_trans hlt hi)))

/-- The children of a node are listed in order among what lies below it. -/
theorem children_sublist_descendants (h : WellFormed t) (i : Nat) :
    (t.children i).Sublist (t.descendants i) := by
  rw [h.descendants_eq]
  induction t.children i with
  | nil => exact List.Sublist.refl _
  | cons c cs ih =>
    rw [List.flatMap_cons, segment, List.cons_append]
    exact (ih.trans (List.sublist_append_right _ _)).cons_cons c

end WellFormed

/-! ### The walk with a stack -/

/-- One step of the walk with a stack, whose top comes first: the node that is visited, and the
stack afterwards. -/
def visitNext? (t : SyntaxTree) : List NodeId → Option (NodeId × List NodeId)
  | [] => none
  | i :: stack => some (i, t.children i ++ stack)

/-- The walk that begins with a stack ends after it has visited the given nodes. -/
inductive Visits (t : SyntaxTree) : List NodeId → List NodeId → Prop
  | done {stack : List NodeId} (h : t.visitNext? stack = none) : Visits t stack []
  | next {stack stack' visited : List NodeId} {i : NodeId}
      (h : t.visitNext? stack = some (i, stack')) (more : Visits t stack' visited) :
      Visits t stack (i :: visited)

/-- The walk visits the segments of the nodes on the stack, one after the other. One step takes a
node off what is left to visit, whatever the stack looks like. -/
theorem WellFormed.visits_flatMap (h : WellFormed t) (stack : List NodeId) :
    t.Visits stack (stack.flatMap t.segment) := by
  induction hk : (stack.flatMap t.segment).length generalizing stack with
  | zero =>
    cases stack with
    | nil => exact Visits.done rfl
    | cons i stack => simp [segment] at hk
  | succ k ih =>
    cases stack with
    | nil => simp at hk
    | cons i stack =>
      -- the stack may have grown, but what is left to visit is one node less
      have hstep : (i :: stack).flatMap t.segment =
          i :: (t.children i ++ stack).flatMap t.segment := by
        rw [List.flatMap_cons, List.flatMap_append, ← h.descendants_eq, segment, List.cons_append]
      rw [hstep] at hk ⊢
      exact Visits.next rfl (ih _ (Nat.succ.inj hk))

/-- The walk below a node starts with its children on the stack. It ends, and visits what lies
below the node. -/
theorem WellFormed.visits_descendants (h : WellFormed t) (i : Nat) :
    t.Visits (t.children i) (t.descendants i) := by
  rw [h.descendants_eq]
  exact h.visits_flatMap (t.children i)

/-! ### Grown trees -/

/-- **The pre-order visits all nodes.** However a tree has grown, parents have smaller indices
than their children and each node is listed once, by its parent. The walk from the root comes to
an end; its pre-order starts at the root, lists every node once, each after its parent, and lists
siblings in the order in which they were added. -/
theorem Reachable.preorder_visits_all (ht : Reachable t) :
    (∀ i, 0 < i → i < t.size → ∃ p, t.parent? i = some p ∧ p < i) ∧
    (∀ i j, (t.children i).count j = if t.parent? j = some i then 1 else 0) ∧
    t.Visits (t.children 0) (t.descendants 0) ∧
    t.preorder.head? = some 0 ∧
    t.preorder.Perm (List.range t.size) ∧
    (∀ j p, t.parent? j = some p → [p, j].Sublist t.preorder) ∧
    (∀ j k p, t.parent? j = some p → t.parent? k = some p → j < k → [j, k].Sublist t.preorder) := by
  have h := ht.wellFormed
  have below : ∀ {j p}, t.parent? j = some p → (t.segment p).Sublist t.preorder := fun hj =>
    (h.segment_infix_preorder
      (Nat.lt_trans (h.lt_of_parent? hj) (WellFormed.lt_size_of_parent? hj))).sublist
  refine ⟨h.exists_parent, h.count_children, h.visits_descendants 0, rfl,
    h.preorder_perm_range, ?_, ?_⟩
  · intro j p hj
    have hmem : j ∈ t.descendants p := h.mem_descendants_iff.mpr (h.mem_ancestors_of_parent? hj)
    exact ((List.singleton_sublist.mpr hmem).cons_cons p).trans (below hj)
  · intro j k p hj hk hjk
    have hchildren := h.pair_sublist_children hj hk hjk
    have hsegment : (t.descendants p).Sublist (t.segment p) := List.sublist_cons_self p _
    exact (hchildren.trans (h.children_sublist_descendants p)).trans (hsegment.trans (below hj))

/-- A tree whose nodes were added in two places in turn; one of them was rewritten in between. -/
def interleaved : SyntaxTree :=
  ofSource ""
    |>.push 0 { kind := .block }
    |>.push 0 { kind := .block }
    |>.push 1 { kind := .stmt .other }
    |>.push 2 { kind := .stmt .other }
    |>.edit 1 { kind := .stmt .tryStmt }
    |>.push 1 { kind := .block }

/-- The children of either branch are listed in the order in which they were added. -/
theorem preorder_interleaved :
    interleaved.Reachable ∧ interleaved.Visits [1, 2] [1, 3, 5, 2, 4] ∧
    interleaved.preorder.Perm [0, 1, 2, 3, 4, 5] ∧
    [2, 4].Sublist interleaved.preorder ∧ [3, 5].Sublist interleaved.preorder := by
  have ht : interleaved.Reachable := by
    refine .push (.edit _ ?_ (by decide)) (by decide) rfl
    iterate 4 refine .push ?_ (by decide) rfl
    exact .ofSource ""
  obtain ⟨-, -, hvisits, -, hperm, hparent, hsiblings⟩ := ht.preorder_visits_all
  exact ⟨ht, hvisits, hperm, hparent 4 2 rfl, hsiblings 3 5 1 rfl rfl (by decide)⟩

/-- **Walking down and walking up agree.** However a tree has grown, the walk down from a node `a`
visits the nodes that have `a` among their ancestors. No node comes twice, neither on the way down
nor on the way up. The way up goes from parent to parent through ever smaller indices and ends at
the root. In the pre-order, what lies below a node follows it without a gap. -/
theorem Reachable.descendants_and_ancestors (ht : Reachable t) (ha : a < t.size) (hd : d < t.size) :
    (d ∈ t.descendants a ↔ a ∈ t.ancestors d) ∧
    t.Visits (t.children a) (t.descendants a) ∧
    (t.descendants a).Nodup ∧ (t.ancestors d).Nodup ∧
    ((d :: t.ancestors d).IsChain fun c p => t.parent? c = some p) ∧
    (d :: t.ancestors d).Pairwise (· > ·) ∧
    (t.ancestors d).getLast? = (if d = 0 then none else some 0) ∧
    ∃ before after, t.preorder = before ++ a :: t.descendants a ++ after := by
  have h := ht.wellFormed
  have hup := h.pairwise_gt_ancestors d
  have hnodup : (t.ancestors d).Nodup :=
    (List.pairwise_cons.mp hup).2.imp fun hlt => Nat.ne_of_gt hlt
  refine ⟨h.mem_descendants_iff, h.visits_descendants a,
    (List.nodup_cons.mp (h.nodup_segment a)).2, hnodup, h.isChain_ancestors d, hup,
    h.getLast?_ancestors hd, ?_⟩
  obtain ⟨before, after, heq⟩ := h.segment_infix_preorder ha
  exact ⟨before, after, heq.symm⟩

/-- A tree in which a later node hangs below an earlier branch. -/
def branched : SyntaxTree :=
  ofSource ""
    |>.push 0 { kind := .block }
    |>.push 1 { kind := .block }
    |>.push 0 { kind := .block }
    |>.push 2 { kind := .stmt .other }
    |>.push 3 { kind := .stmt .other }

/-- Node 4 lies below node 1, and what lies below node 1 is contiguous. -/
theorem ancestors_branched :
    branched.Reachable ∧ 1 ∈ branched.ancestors 4 ∧ 4 ∈ branched.descendants 1 ∧
    (branched.ancestors 4).Pairwise (· > ·) ∧ (branched.ancestors 4).getLast? = some 0 ∧
    branched.Visits [2] [2, 4] ∧ [0] ++ [1, 2, 4] ++ [3, 5] = branched.preorder ∧
    ∃ before after, branched.preorder = before ++ 1 :: branched.descendants 1 ++ after := by
  have ht : branched.Reachable := by
    iterate 5 refine .push ?_ (by decide) rfl
    exact .ofSource ""
  have hdown : 4 ∈ branched.descendants 1 := by decide +kernel
  obtain ⟨hiff, hvisits, -, -, -, hup, hlast, hsplit⟩ :=
    ht.descendants_and_ancestors (a := 1) (d := 4) (by decide) (by decide)
  exact ⟨ht, hiff.mp hdown, hdown, hup.tail, hlast, hvisits, by decide +kernel, hsplit⟩

end Excerpt.SyntaxTree
