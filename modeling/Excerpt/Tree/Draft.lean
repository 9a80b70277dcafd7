import Excerpt.Tree.Basic

/-!
# Drafts of trees

A draft is a tree built from below. Its payloads refer to children by their position among the
children, and `SyntaxTree.graft` adds the draft to a tree in pre-order, where these positions
become indices.

A draft is made before its place in a tree is known, so that the function which makes the draft of
a construct does not depend on what is around the construct. Where a draft is added to a tree, the
index of a child is known from the sizes of the drafts before it (`Draft.placedKind`).

* `Draft`: a node with its children.
* `Draft.first?`, `Draft.positions`: references to children.
* `SyntaxTree.graft`, `SyntaxTree.graftAll`: add drafts to a tree.
-/

namespace Excerpt

/-- A node with its children. References in the kind of the node are positions among the
children. -/
inductive Draft
  | node (head : Node) (children : List Draft)
  deriving Repr, Inhabited

namespace Draft

/-- What the first node of a draft says about itself. -/
def head : Draft → Node
  | node h _ => h

/-- The drafts below the first node. -/
def children : Draft → List Draft
  | node _ cs => cs

mutual

/-- Number of nodes of a draft. -/
def size : Draft → Nat
  | node _ cs => sizes cs + 1

/-- Number of nodes of several drafts. -/
def sizes : List Draft → Nat
  | [] => 0
  | d :: ds => d.size + sizes ds

end

/-- The reference to the first child, if there is one. -/
def first? (cs : List Draft) : Option NodeId :=
  if cs.isEmpty then none else some 0

/-- The references to `n` children after the first `skipped`. -/
def positions (skipped n : Nat) : List NodeId :=
  List.range' skipped n

end Draft

namespace SyntaxTree

/-- The kind of a draft's node in a tree where it gets the index `id`. -/
def placedKind (id : NodeId) (kind : Kind) (children : List Draft) : Kind :=
  kind.redirect fun j => id + 1 + Draft.sizes (children.take j)

mutual

/-- Add a draft as the last child of `parent`. -/
def graft (t : SyntaxTree) (parent : NodeId) : Draft → SyntaxTree
  | .node head children =>
    let placed := { head with kind := placedKind t.size head.kind children }
    graftAll (t.push parent placed) t.size children

/-- Add several drafts as the last children of `parent`. -/
def graftAll (t : SyntaxTree) (parent : NodeId) : List Draft → SyntaxTree
  | [] => t
  | d :: ds => graftAll (graft t parent d) parent ds

end

end SyntaxTree

end Excerpt
