import Excerpt.Detect.Basic
import Excerpt.Proofs.Walk

/-!
# Trees with one top-level declaration

`SyntaxTree.onlyChild` leaves one child to the root of a tree and all other nodes as they are. So
an extraction can be compared with the extractions of the top-level declarations without moving
any node: indices, references and ranges are the same.

What nodes say about themselves and the ways to their ancestors stay the same, also at the root.
So does what lies below a node, unless the node is the root
(`SyntaxTree.WellFormed.descendants_onlyChild`): no walk downwards comes back to the root, because
children have greater indices than their parents.

* **One child of the root.** What is changed, and what is not.
* **What nodes say about themselves.** Kinds, names, modifiers, texts and lines.
* **Walks.** The way up from any node, and what lies below a node other than the root.
* **What detectors ask for.** References, members, variables and signatures.
* **Contexts.** What a detector is shown of a node.

Most of the lemmas are for `simp`, which then goes through a detector and leaves what the detector
does below the root.
-/

namespace Excerpt

namespace SyntaxTree

/-! ### One child of the root -/

/-- The tree with `c` as the only child of the root. -/
def onlyChild (t : SyntaxTree) (c : NodeId) : SyntaxTree :=
  { t with nodes := t.nodes.modify 0 fun n => { n with children := [c] } }

variable {t : SyntaxTree} {c i : Nat}

/-- The source stays. -/
@[simp]
theorem source_onlyChild : (t.onlyChild c).source = t.source := rfl

/-- No node is removed. -/
@[simp]
theorem size_onlyChild : (t.onlyChild c).size = t.size := by
  simp [onlyChild, size]

private theorem node?_onlyChild :
    (t.onlyChild c).node? i = (t.node? i).map fun n => if i = 0 then { n with children := [c] }
      else n := by
  simp only [node?, onlyChild, Array.getElem?_modify]
  by_cases hi : i = 0
  · subst hi
    simp
  · have h0 : ¬ 0 = i := fun h => hi h.symm
    simp [hi, h0]

/-- A node changes in its children at most. -/
theorem node_onlyChild :
    (t.onlyChild c).node i = { t.node i with children := (t.onlyChild c).children i } := by
  simp only [children, node, node?_onlyChild]
  by_cases hi : i = 0 <;> cases t.node? i <;> simp [hi]

/-- The root has one child left. -/
theorem children_onlyChild_root (ht : 0 < t.size) : (t.onlyChild c).children 0 = [c] := by
  obtain ⟨n, hn⟩ : ∃ n, t.node? 0 = some n := ⟨t.nodes[0], Array.getElem?_eq_getElem ht⟩
  simp [children, node, node?_onlyChild, hn]

/-- Other nodes keep their children. -/
theorem children_onlyChild (hi : i ≠ 0) : (t.onlyChild c).children i = t.children i := by
  cases hn : t.node? i <;> simp [children, node, node?_onlyChild, hn, hi]

/-! ### What nodes say about themselves -/

/-- All nodes keep their kinds. -/
@[simp]
theorem kind_onlyChild : (t.onlyChild c).kind = t.kind := by
  funext i
  rw [kind, node_onlyChild, kind]

/-- A node keeps its kind, also where it is looked at as a whole. -/
@[simp]
theorem nodeKind_onlyChild : ((t.onlyChild c).node i).kind = (t.node i).kind := by
  rw [node_onlyChild]

/-- All nodes keep their parents, also the former children of the root. -/
@[simp]
theorem parent?_onlyChild : (t.onlyChild c).parent? = t.parent? := by
  funext i
  rw [parent?, node_onlyChild, parent?]

/-- A node keeps its name. -/
@[simp]
theorem name_onlyChild : ((t.onlyChild c).node i).name = (t.node i).name := by
  rw [node_onlyChild]

/-- A node keeps the text of its name. -/
@[simp]
theorem nameText_onlyChild : ((t.onlyChild c).node i).nameText = (t.node i).nameText := by
  rw [Node.nameText, name_onlyChild, Node.nameText]

/-- A node keeps its modifiers. -/
@[simp]
theorem modifiers_onlyChild : ((t.onlyChild c).node i).modifiers = (t.node i).modifiers := by
  rw [node_onlyChild]

/-- A node has the same modifiers as before. -/
@[simp]
theorem hasModifier_onlyChild : ((t.onlyChild c).node i).hasModifier = (t.node i).hasModifier := by
  funext m
  rw [Node.hasModifier, modifiers_onlyChild, Node.hasModifier]

/-- A node keeps its range. -/
@[simp]
theorem span_onlyChild : ((t.onlyChild c).node i).span = (t.node i).span := by
  rw [node_onlyChild]

/-- A node keeps its comment. -/
@[simp]
theorem comment_onlyChild : ((t.onlyChild c).node i).comment = (t.node i).comment := by
  rw [node_onlyChild]

/-- The characters of texts stay. -/
@[simp]
theorem textChars_onlyChild : (t.onlyChild c).textChars = t.textChars := by
  funext i
  simp [textChars]

/-- Texts stay. -/
@[simp]
theorem text_onlyChild : (t.onlyChild c).text = t.text := by
  funext i
  simp [text]

/-- Texts without the blanks around them stay. -/
@[simp]
theorem trimmedText_onlyChild : (t.onlyChild c).trimmedText = t.trimmedText := by
  funext i
  simp [trimmedText]

/-- Lines stay. -/
@[simp]
theorem line_onlyChild : (t.onlyChild c).line = t.line := by
  funext i
  simp [line]

/-- The lines of names stay. -/
@[simp]
theorem nameLine_onlyChild : (t.onlyChild c).nameLine = t.nameLine := by
  funext i
  simp [nameLine]

/-! ### Walks -/

/-- The way up from a node stays. -/
@[simp]
theorem ancestors_onlyChild : (t.onlyChild c).ancestors i = t.ancestors i := by
  induction i using Nat.strongRecOn with
  | ind i ih =>
    rw [ancestors, parent?_onlyChild, ancestors]
    cases t.parent? i with
    | none => rfl
    | some p =>
      dsimp only
      split
      · next hp => rw [ih p hp]
      · rfl

/-- A search on the way up ends at the same node. -/
@[simp]
theorem findAncestor?_onlyChild (p : Kind → Bool) :
    (t.onlyChild c).findAncestor? i p = t.findAncestor? i p := by
  simp [findAncestor?]

/-- What lies below a node other than the root does not depend on the children of the root. -/
theorem WellFormed.subtree_onlyChild (h : WellFormed t) (hi : i ≠ 0) (depth : Nat) :
    (t.onlyChild c).subtree depth i = t.subtree depth i := by
  induction depth generalizing i with
  | zero => rfl
  | succ depth ih =>
    rw [subtree, subtree, children_onlyChild hi]
    congr 1
    refine List.flatMap_congr fun (j : Nat) hj => ih ?_
    exact Nat.ne_zero_of_lt (h.lt_of_parent? (h.mem_children.mp hj))

/-- What lies below a node other than the root stays. -/
theorem WellFormed.descendants_onlyChild (h : WellFormed t) (hi : i ≠ 0) :
    (t.onlyChild c).descendants i = t.descendants i := by
  rw [descendants, descendants, children_onlyChild hi, size_onlyChild]
  refine List.flatMap_congr fun (j : Nat) hj => h.subtree_onlyChild ?_ _
  exact Nat.ne_zero_of_lt (h.lt_of_parent? (h.mem_children.mp hj))

/-! ### What detectors ask for -/

/-- References lead to the same nodes. -/
@[simp]
theorem follow_onlyChild : (t.onlyChild c).follow = t.follow := by
  funext i
  simp [follow]

/-- Values stay, and so do the texts that stand for them. -/
@[simp]
theorem valueOrText_onlyChild : (t.onlyChild c).valueOrText = t.valueOrText := by
  funext i
  simp [valueOrText, stringValue?]

/-- A type that is not the root keeps its members. -/
theorem members_onlyChild (hi : i ≠ 0) : (t.onlyChild c).members i = t.members i := by
  simp [members, children_onlyChild hi]

/-- A declaration that is not the root keeps its variables. -/
theorem declarators_onlyChild (hi : i ≠ 0) : (t.onlyChild c).declarators i = t.declarators i := by
  simp [declarators, children_onlyChild hi]

end SyntaxTree

namespace Signature

variable {t : SyntaxTree} {c i : Nat}

/-- The header of a declaration stays. -/
@[simp]
theorem header_onlyChild : header (t.onlyChild c) i = header t i := by
  simp [header, access, keywords]

/-- The signature of a type stays. -/
@[simp]
theorem ofType_onlyChild : ofType (t.onlyChild c) i = ofType t i := by
  simp [ofType, access, keywords]

/-- The signature of a method or constructor stays. -/
@[simp]
theorem ofCallable_onlyChild : ofCallable (t.onlyChild c) i = ofCallable t i := by
  simp [ofCallable, access, keywords]

/-- The signature of a variable stays. -/
@[simp]
theorem ofVariable_onlyChild : ofVariable (t.onlyChild c) i = ofVariable t i := by
  simp [ofVariable]

/-- The signature of any node stays. -/
@[simp]
theorem ofNode_onlyChild : ofNode (t.onlyChild c) i = ofNode t i := by
  simp [ofNode]

end Signature

/-- The text of a variable stays. -/
@[simp]
theorem SyntaxTree.variableText_onlyChild {t : SyntaxTree} {c i : Nat} :
    (t.onlyChild c).variableText i = t.variableText i := by
  simp [variableText]

/-! ### Contexts -/

namespace Context

/-- The context in the tree with `c` as the only child of the root. -/
def onlyChild (cx : Context) (c : NodeId) : Context :=
  { cx with tree := cx.tree.onlyChild c }

variable {cx : Context} {c : Nat}

/-- The tree of the context is the one with one top-level declaration. -/
@[simp]
theorem tree_onlyChild : (cx.onlyChild c).tree = cx.tree.onlyChild c := rfl

/-- The context is about the same node. -/
@[simp]
theorem node_onlyChild : (cx.onlyChild c).node = cx.node := rfl

/-- A detector is shown the same kind. -/
@[simp]
theorem kind_onlyChild : (cx.onlyChild c).kind = cx.kind :=
  congrFun SyntaxTree.kind_onlyChild cx.node

/-- A detector is shown the same line. -/
@[simp]
theorem line_onlyChild : (cx.onlyChild c).line = cx.line :=
  congrFun SyntaxTree.line_onlyChild cx.node

/-- A detector is shown the same name. -/
@[simp]
theorem name_onlyChild : (cx.onlyChild c).name = cx.name := SyntaxTree.nameText_onlyChild

/-- A detector is shown the same code. -/
@[simp]
theorem trimmedText_onlyChild : (cx.onlyChild c).trimmedText = cx.trimmedText :=
  congrFun SyntaxTree.trimmedText_onlyChild cx.node

end Context

end Excerpt
