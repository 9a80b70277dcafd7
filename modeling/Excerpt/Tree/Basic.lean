import Excerpt.Text.Basic
import Excerpt.Tree.Comment
import Excerpt.Tree.Kind
import Excerpt.Tree.Modifier

/-!
# Syntax trees

A syntax tree keeps its nodes in one array, in the order in which they were added. A node knows
its parent and its children by their indices. `SyntaxTree.ofSource` makes a tree whose only node
covers the source, `SyntaxTree.push` adds a last child, and `SyntaxTree.edit` changes what a node
says about itself but not its place in the tree.

All functions are total: an index that belongs to no node gives an empty compilation unit. Nothing
in the type says that parents and children agree; that they do in every tree that is made by these
functions is proved, and is not needed to define anything.

The text of a node is the source under its range. A range that does not lie between characters of
the source gives the empty text.

* `Node`, `SyntaxTree`: a node, and a tree over its source.
* `SyntaxTree.push`, `SyntaxTree.edit`: how a tree grows.
* `SyntaxTree.kind`, `SyntaxTree.parent?`, `SyntaxTree.children`: a node by its index.
* `SyntaxTree.text`, `SyntaxTree.line`: its source and its place.
-/

namespace Excerpt

/-- Range of a node: lines count from one, bytes index into the source. -/
structure Span where
  startLine : Nat
  endLine : Nat
  startByte : Nat
  endByte : Nat
  deriving DecidableEq, Repr

/-- The range begins and ends on one line. -/
def Span.isSingleLine (s : Span) : Bool :=
  s.startLine == s.endLine

/-- A declared name and the line it stands on. -/
structure Ident where
  text : String
  line : Option Nat := none
  deriving DecidableEq, Repr

/-- A node of a syntax tree. The comment is the one directly before the node. -/
structure Node where
  kind : Kind
  name : Option Ident := none
  modifiers : List Modifier := []
  span : Option Span := none
  comment : Option Comment := none
  parent : Option NodeId := none
  children : List NodeId := []
  deriving DecidableEq, Repr, Inhabited

namespace Node

/-- The name, or the empty text. -/
def nameText (n : Node) : String :=
  match n.name with
  | some i => i.text
  | none => ""

/-- The modifier is among those of the node. -/
def hasModifier (n : Node) (m : Modifier) : Bool :=
  n.modifiers.contains m

/-- The documentation comment before the node. -/
def javadoc? (n : Node) : Option Comment :=
  n.comment.filter Comment.isJavadoc

end Node

/-- A syntax tree over its source. -/
structure SyntaxTree where
  source : String
  nodes : Array Node
  deriving DecidableEq, Repr

namespace SyntaxTree

/-! ### Construction -/

/-- The tree of a compilation unit without content. -/
def ofSource (source : String) : SyntaxTree where
  source := source
  nodes := #[{
    kind := .compilationUnit
    span := some {
      startLine := 1
      endLine := max 1 (Text.lines source.toList).length
      startByte := 0
      endByte := source.utf8ByteSize } }]

/-- Number of nodes; also the index that the next node gets. -/
def size (t : SyntaxTree) : Nat :=
  t.nodes.size

/-- No node besides the root. -/
def isEmpty (t : SyntaxTree) : Bool :=
  t.size ≤ 1

/-- Add `node` as the last child of `parent`. -/
def push (t : SyntaxTree) (parent : NodeId) (node : Node) : SyntaxTree :=
  let nodes := t.nodes.push { node with parent := some parent }
  { t with nodes := nodes.modify parent fun p => { p with children := p.children ++ [t.size] } }

/-- Give node `i` the kind, name, modifiers, range and comment of `node`. -/
def edit (t : SyntaxTree) (i : NodeId) (node : Node) : SyntaxTree :=
  { t with nodes := t.nodes.modify i fun old =>
      { node with parent := old.parent, children := old.children } }

/-! ### Looking at one node -/

/-- The node with index `i`, if there is one. -/
def node? (t : SyntaxTree) (i : NodeId) : Option Node :=
  t.nodes[i]?

/-- The node with index `i`; an empty compilation unit if there is none. -/
def node (t : SyntaxTree) (i : NodeId) : Node :=
  (t.node? i).getD { kind := .compilationUnit }

/-- The kind of the node at an index. -/
def kind (t : SyntaxTree) (i : NodeId) : Kind :=
  (t.node i).kind

/-- The parent of the node at an index; the root has none. -/
def parent? (t : SyntaxTree) (i : NodeId) : Option NodeId :=
  (t.node i).parent

/-- The children of the node at an index, in the order in which they were added. -/
def children (t : SyntaxTree) (i : NodeId) : List NodeId :=
  (t.node i).children

/-- The source under a range; empty if the range does not lie between characters of the source. -/
def sliceOf (source : String) (s : Span) : List Char :=
  (Text.byteSlice? s.startByte s.endByte source.toList).getD []

/-- The source under a node; empty without a range. -/
def textChars (t : SyntaxTree) (i : NodeId) : List Char :=
  match (t.node i).span with
  | some s => sliceOf t.source s
  | none => []

/-- `textChars` as a string. -/
def text (t : SyntaxTree) (i : NodeId) : String :=
  String.ofList (t.textChars i)

/-- The source under a node without surrounding blanks. -/
def trimmedText (t : SyntaxTree) (i : NodeId) : String :=
  String.ofList (Text.trim (t.textChars i))

/-- The line given for what has no position. -/
def unknownLine : Int := -1

/-- First line of a node. -/
def line (t : SyntaxTree) (i : NodeId) : Int :=
  match (t.node i).span with
  | some s => s.startLine
  | none => unknownLine

/-- Last line of a node. -/
def endLine (t : SyntaxTree) (i : NodeId) : Int :=
  match (t.node i).span with
  | some s => s.endLine
  | none => unknownLine

/-- Line of the declared name; the first line of the node if the name has none. -/
def nameLine (t : SyntaxTree) (i : NodeId) : Int :=
  match (t.node i).name.bind Ident.line with
  | some l => l
  | none => t.line i

end SyntaxTree

end Excerpt
