import Excerpt.Tree.Basic

/-!
# Walks through a syntax tree

Upwards, `ancestors` follows the parents of a node to the root; downwards, `descendants` lists
what lies below a node in pre-order. A parent has a smaller index than its children, so the walk
upwards ends, and no walk downwards is deeper than the tree has nodes.

Neither is guaranteed by the type of trees. The walk upwards stops where a parent does not have a
smaller index, and the walk downwards is bounded by the number of nodes; in a tree that has grown
node by node, both limits are never met.

* `SyntaxTree.ancestors`, `SyntaxTree.findAncestor?`: the way up.
* `SyntaxTree.descendants`, `SyntaxTree.preorder`: the way down.
* `SyntaxTree.enclosingType?`, `SyntaxTree.enclosingCallable?`: what is around a node.
* `SyntaxTree.members`: the members of a type.
-/

namespace Excerpt.SyntaxTree

/-- The strict ancestors of node `i`, nearest first. -/
def ancestors (t : SyntaxTree) (i : NodeId) : List NodeId :=
  match t.parent? i with
  | some p => if p < i then p :: ancestors t p else [p]
  | none => []
termination_by i

/-- The nearest strict ancestor whose kind satisfies `p`. -/
def findAncestor? (t : SyntaxTree) (i : NodeId) (p : Kind → Bool) : Option NodeId :=
  (t.ancestors i).find? fun a => p (t.kind a)

/-- Node `i` and what lies at most `depth` levels below it, in pre-order. -/
def subtree (t : SyntaxTree) : (depth : Nat) → NodeId → List NodeId
  | 0, i => [i]
  | depth + 1, i => i :: (t.children i).flatMap (subtree t depth)

/-- The strict descendants of node `i` in pre-order. -/
def descendants (t : SyntaxTree) (i : NodeId) : List NodeId :=
  (t.children i).flatMap (subtree t t.size)

/-- All nodes below the root and the root itself, in pre-order. -/
def preorder (t : SyntaxTree) : List NodeId :=
  0 :: t.descendants 0

/-- The nearest type declaration around a node. -/
def enclosingType? (t : SyntaxTree) (i : NodeId) : Option NodeId :=
  t.findAncestor? i Kind.isType

/-- The nearest method around a node. -/
def enclosingMethod? (t : SyntaxTree) (i : NodeId) : Option NodeId :=
  t.findAncestor? i Kind.isMethod

/-- The nearest method or constructor around a node. -/
def enclosingCallable? (t : SyntaxTree) (i : NodeId) : Option NodeId :=
  t.findAncestor? i Kind.isCallable

/-- The members of a type, in the order of their declaration. -/
def members (t : SyntaxTree) (i : NodeId) : List NodeId :=
  (t.children i).filter fun c => (t.kind c).isMember

end Excerpt.SyntaxTree
