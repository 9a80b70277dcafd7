import Excerpt.Detect.Basic
import Excerpt.Proofs.Walk
import Mathlib.Data.List.Find

/-!
# Trees with more nodes

A tree extends another one if it has the same source and keeps every node of the other at its
index; after these nodes there may be any number of further ones. What is read off the nodes of
the smaller tree is then the same in both trees.

* **Single nodes.** The kind of a node, its parent and its children, its text and its lines are
  the same. So is what a detector is shown of a node, and so are the signatures that it reports.
* **Walks.** If the smaller tree is well formed, no walk leads out of it. The ancestors of its
  nodes and what lies below them are the same in both trees, although the walk downwards is
  allowed to go deeper in the larger one, because the bound is the size of the tree.
* **References.** In a self-contained tree a reference leads to a child, hence to a node of the
  tree with a greater index. So it can be followed in both trees, and to the same node.

The lemmas here are the vocabulary in which it is proved of each built-in detector that it does
not leave the tree. They are stated for one tree that extends another rather than for one more
node, so that no induction over the further nodes is needed.
-/

namespace Excerpt.SyntaxTree

/-- The tree `t'` has the source and the nodes of `t`, and perhaps more nodes after them. -/
structure Extends (t' t : SyntaxTree) : Prop where
  source : t'.source = t.source
  node? : ∀ i n, t.node? i = some n → t'.node? i = some n

namespace Extends

/-- A tree extends itself. -/
theorem refl (t : SyntaxTree) : t.Extends t :=
  ⟨rfl, fun _ _ hn => hn⟩

variable {t t' : SyntaxTree} {i : Nat}

/-! ### Single nodes -/

/-- A node is kept at its index. -/
theorem node_eq (he : t'.Extends t) (hi : i < t.size) : t'.node i = t.node i := by
  have hn : t.node? i = some t.nodes[i] := Array.getElem?_eq_getElem hi
  rw [node, he.node? i _ hn, node, hn]

/-- No node is lost. -/
theorem size_le (he : t'.Extends t) : t.size ≤ t'.size := by
  by_contra hlt
  have hlast : t'.size < t.size := Nat.lt_of_not_le hlt
  have hn := he.node? t'.size _ (Array.getElem?_eq_getElem hlast)
  rw [node?_of_size_le (Nat.le_refl _)] at hn
  cases hn

/-- A node keeps its kind. -/
theorem kind_eq (he : t'.Extends t) (hi : i < t.size) : t'.kind i = t.kind i := by
  rw [kind, he.node_eq hi, kind]

/-- A node keeps its parent. -/
theorem parent?_eq (he : t'.Extends t) (hi : i < t.size) : t'.parent? i = t.parent? i := by
  rw [parent?, he.node_eq hi, parent?]

/-- A node of the smaller tree gets no further children. -/
theorem children_eq (he : t'.Extends t) (hi : i < t.size) : t'.children i = t.children i := by
  rw [children, he.node_eq hi, children]

/-- A node keeps the characters of its text. -/
theorem textChars_eq (he : t'.Extends t) (hi : i < t.size) : t'.textChars i = t.textChars i := by
  rw [textChars, he.node_eq hi, he.source, textChars]

/-- A node keeps its text. -/
theorem text_eq (he : t'.Extends t) (hi : i < t.size) : t'.text i = t.text i := by
  rw [text, he.textChars_eq hi, text]

/-- A node keeps its text without the blanks around it. -/
theorem trimmedText_eq (he : t'.Extends t) (hi : i < t.size) :
    t'.trimmedText i = t.trimmedText i := by
  rw [trimmedText, he.textChars_eq hi, trimmedText]

/-- A node keeps its line. -/
theorem line_eq (he : t'.Extends t) (hi : i < t.size) : t'.line i = t.line i := by
  rw [line, he.node_eq hi, line]

/-- A node keeps the line of its name. -/
theorem nameLine_eq (he : t'.Extends t) (hi : i < t.size) : t'.nameLine i = t.nameLine i := by
  rw [nameLine, he.node_eq hi, he.line_eq hi, nameLine]

/-- A node keeps its value, or the text that stands for it. -/
theorem valueOrText_eq (he : t'.Extends t) (hi : i < t.size) :
    t'.valueOrText i = t.valueOrText i := by
  rw [valueOrText, stringValue?, he.kind_eq hi, he.trimmedText_eq hi, valueOrText, stringValue?]

/-- A reference to a node of the smaller tree can be followed. -/
theorem follow_eq (he : t'.Extends t) (hi : i < t.size) : t'.follow i = some i :=
  if_pos (Nat.lt_of_lt_of_le hi he.size_le)

/-- A declaration keeps its header. -/
theorem header_eq (he : t'.Extends t) (hi : i < t.size) :
    Signature.header t' i = Signature.header t i := by
  rw [Signature.header, he.node_eq hi, Signature.header]

/-- A type keeps its signature. -/
theorem ofType_eq (he : t'.Extends t) (hi : i < t.size) :
    Signature.ofType t' i = Signature.ofType t i := by
  rw [Signature.ofType, he.node_eq hi, he.trimmedText_eq hi, Signature.ofType]

/-- A method or constructor keeps its signature. -/
theorem ofCallable_eq (he : t'.Extends t) (hi : i < t.size) :
    Signature.ofCallable t' i = Signature.ofCallable t i := by
  rw [Signature.ofCallable, he.node_eq hi, he.trimmedText_eq hi, Signature.ofCallable]

/-! ### What a detector is shown -/

section Context

variable {rule : Rule} {path : String}

/-- A detector is shown the same kind. -/
theorem contextKind_eq (he : t'.Extends t) (hi : i < t.size) :
    (Context.mk t' i rule path).kind = t.kind i :=
  he.kind_eq hi

/-- A detector is shown the same line. -/
theorem contextLine_eq (he : t'.Extends t) (hi : i < t.size) :
    (Context.mk t' i rule path).line = t.line i :=
  he.line_eq hi

/-- A detector is shown the same name. -/
theorem contextName_eq (he : t'.Extends t) (hi : i < t.size) :
    (Context.mk t' i rule path).name = (t.node i).nameText :=
  congrArg Node.nameText (he.node_eq hi)

/-- A detector is shown the same code. -/
theorem contextTrimmedText_eq (he : t'.Extends t) (hi : i < t.size) :
    (Context.mk t' i rule path).trimmedText = t.trimmedText i :=
  he.trimmedText_eq hi

end Context

/-! ### Walks -/

/-- The way up from a node of the smaller tree stays in it. -/
theorem ancestors_eq (he : t'.Extends t) (h : WellFormed t) (hi : i < t.size) :
    t'.ancestors i = t.ancestors i := by
  induction i using Nat.strongRecOn with
  | ind i ih =>
    rw [ancestors, he.parent?_eq hi, ancestors]
    cases hp : t.parent? i with
    | none => rfl
    | some p =>
      have hlt : p < i := h.lt_of_parent? hp
      dsimp only
      rw [if_pos hlt, if_pos hlt, ih p hlt (Nat.lt_trans hlt hi)]

/-- A search on the way up ends at the same node. -/
theorem findAncestor?_eq (he : t'.Extends t) (h : WellFormed t) (hi : i < t.size)
    (p : Kind → Bool) :
    t'.findAncestor? i p = t.findAncestor? i p := by
  rw [findAncestor?, he.ancestors_eq h hi, findAncestor?]
  refine List.find?_congr fun a ha => ?_
  rw [he.kind_eq (Nat.lt_trans (h.lt_of_mem_ancestors ha) hi)]

/-- The nodes down to some depth are those of the smaller tree. -/
theorem subtree_eq (he : t'.Extends t) (h : WellFormed t) (hi : i < t.size) (depth : Nat) :
    t'.subtree depth i = t.subtree depth i := by
  induction depth generalizing i with
  | zero => rfl
  | succ depth ih =>
    rw [subtree, subtree, he.children_eq hi]
    congr 1
    refine List.flatMap_congr fun (c : Nat) hc => ih ?_
    exact WellFormed.lt_size_of_parent? (h.mem_children.mp hc)

/-- The larger tree allows for a deeper walk, but there is nothing further down. -/
theorem descendants_eq (he : t'.Extends t) (h : WellFormed t) (hi : i < t.size) :
    t'.descendants i = t.descendants i := by
  rw [descendants, he.children_eq hi, descendants]
  refine List.flatMap_congr fun (c : Nat) hc => ?_
  have hsize : c < t.size := WellFormed.lt_size_of_parent? (h.mem_children.mp hc)
  have hle := he.size_le
  rw [he.subtree_eq h hsize]
  exact h.subtree_congr (by omega) (by omega)

/-- A test of the children of a node that looks at their kinds. -/
theorem filter_children_eq (he : t'.Extends t) (h : WellFormed t) (hi : i < t.size)
    (p : Kind → Bool) :
    (t'.children i).filter (fun c => p (t'.kind c)) = (t.children i).filter fun c =>
      p (t.kind c) := by
  rw [he.children_eq hi]
  refine List.filter_congr fun (c : Nat) hc => ?_
  rw [he.kind_eq (WellFormed.lt_size_of_parent? (h.mem_children.mp hc))]

/-- A type has the same members. -/
theorem members_eq (he : t'.Extends t) (h : WellFormed t) (hi : i < t.size) :
    t'.members i = t.members i :=
  he.filter_children_eq h hi Kind.isMember

/-- A test of the members of a type that looks at their kinds. -/
theorem filter_members_eq (he : t'.Extends t) (h : WellFormed t) (hi : i < t.size)
    (p : Kind → Bool) :
    (t'.members i).filter (fun m => p (t'.kind m)) = (t.members i).filter fun m =>
      p (t.kind m) := by
  rw [he.members_eq h hi]
  refine List.filter_congr fun (m : Nat) hm => ?_
  rw [he.kind_eq (WellFormed.lt_size_of_parent? (h.mem_children.mp (List.mem_of_mem_filter hm)))]

/-- A declaration has the same variables. -/
theorem declarators_eq (he : t'.Extends t) (h : WellFormed t) (hi : i < t.size) :
    t'.declarators i = t.declarators i := by
  rw [declarators, he.children_eq hi, declarators]
  refine List.filter_congr fun (c : Nat) hc => ?_
  rw [he.kind_eq (WellFormed.lt_size_of_parent? (h.mem_children.mp hc))]

end Extends

/-! ### References -/

/-- Both records of the places of nodes agree, and payloads of nodes refer to children. -/
structure SelfContained (t : SyntaxTree) : Prop where
  wellFormed : t.WellFormed
  references : ∀ i, ∀ j ∈ (t.kind i).references, j ∈ t.children i

variable {t t' : SyntaxTree} {i j : Nat} {k : Kind}

namespace SelfContained

/-- References lead to greater indices. -/
theorem lt_of_mem_references (ht : t.SelfContained) (hk : t.kind i = k)
    (hj : j ∈ k.references) : i < j := by
  subst hk
  exact ht.wellFormed.lt_of_parent? (ht.wellFormed.mem_children.mp (ht.references i j hj))

/-- Children are in the tree. -/
theorem lt_size_of_mem_children (ht : t.SelfContained) (hj : j ∈ t.children i) : j < t.size :=
  WellFormed.lt_size_of_parent? (ht.wellFormed.mem_children.mp hj)

/-- References stay in the tree. -/
theorem lt_size (ht : t.SelfContained) (hk : t.kind i = k) (hj : j ∈ k.references) :
    j < t.size := by
  subst hk
  exact ht.lt_size_of_mem_children (ht.references i j hj)

/-- Members are in the tree. -/
theorem lt_size_of_mem_members (ht : t.SelfContained) (hj : j ∈ t.members i) : j < t.size :=
  ht.lt_size_of_mem_children (List.mem_of_mem_filter hj)

/-- Variables of a declaration are in the tree. -/
theorem lt_size_of_mem_declarators (ht : t.SelfContained) (hj : j ∈ t.declarators i) : j < t.size :=
  ht.lt_size_of_mem_children (List.mem_of_mem_filter hj)

/-- Ancestors are in the tree. -/
theorem lt_size_of_mem_ancestors (ht : t.SelfContained) (hj : j ∈ t.ancestors i) : j < t.size :=
  Nat.lt_trans (ht.wellFormed.lt_of_mem_ancestors hj) (ht.wellFormed.lt_size_of_mem_ancestors hj)

/-- What is found on the way up is in the tree. -/
theorem lt_size_of_findAncestor? (ht : t.SelfContained) {p : Kind → Bool}
    (hj : t.findAncestor? i p = some j) :
    j < t.size :=
  ht.lt_size_of_mem_ancestors (List.mem_of_find?_eq_some hj)

/-- What lies below a node is in the tree. -/
theorem lt_size_of_mem_descendants (ht : t.SelfContained) (hj : j ∈ t.descendants i) : j < t.size :=
  ht.wellFormed.lt_size_of_mem_ancestors (ht.wellFormed.mem_descendants_iff.mp hj)

end SelfContained

/-- A declaration of variables keeps its signature, which is put together from the variables below
it. -/
theorem Extends.ofVariable_eq (he : t'.Extends t) (ht : t.SelfContained) (hi : i < t.size) :
    Signature.ofVariable t' i = Signature.ofVariable t i := by
  rw [Signature.ofVariable, he.node_eq hi, he.trimmedText_eq hi, Signature.ofVariable]
  cases hkind : (t.node i).kind with
  | declarator type value =>
    cases value with
    | none => rfl
    | some value =>
      have hvalue : value < t.size := ht.lt_size hkind (by simp [Kind.references])
      dsimp only
      rw [he.text_eq hvalue]
  | _ => rfl

/-- Any node keeps its signature. -/
theorem Extends.ofNode_eq (he : t'.Extends t) (ht : t.SelfContained) (hi : i < t.size) :
    Signature.ofNode t' i = Signature.ofNode t i := by
  rw [Signature.ofNode, he.kind_eq hi, he.ofType_eq hi, he.ofCallable_eq hi, he.ofVariable_eq ht hi,
    he.trimmedText_eq hi, Signature.ofNode]

end Excerpt.SyntaxTree
