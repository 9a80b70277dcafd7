/-!
# Concrete syntax of Java

A piece of concrete syntax keeps every token of its source. Words and punctuation are unnamed
pieces whose kind is their text, all other pieces are named after the construct of the grammar
that they are. A piece may play a role in the piece around it, its field. Comments are named
pieces that may stand among any others.

Concrete syntax is made of any source. What is no Java, or is missing, is a fault, and faults may
be anywhere inside a piece.

A `Focus` is a piece seen together with the pieces before it in the same construct. What becomes
of a piece depends on its parts and, for the comment before a declaration, on what stands before
it.

* `Concrete`: a piece with its parts, its role and its range.
* `Concrete.isFault`, `Concrete.faultLines`: what is no Java.
* `Focus`, `Focus.parts`: a piece in its place, and its parts in theirs.
* `Focus.partIn?`, `Focus.partsIn`: parts by their roles.
-/

namespace Excerpt.Java

/-- Where a piece of syntax lies: bytes index into the source, rows count line feeds. -/
structure Range where
  startByte : Nat
  endByte : Nat
  startRow : Nat
  endRow : Nat
  deriving DecidableEq, Repr, Inhabited

/-- A piece of concrete syntax with its parts. A piece that is `missing` is not in the source: it
was put in so that reading could go on. -/
inductive Concrete
  | node (kind : String) (named : Bool) (field : Option String) (range : Range)
      (children : List Concrete) (missing : Bool := false)
  deriving Repr, Inhabited

namespace Concrete

/-- The name of the construct that a piece is. -/
def kind : Concrete → String
  | node k .. => k

/-- The piece is a construct with a name, and not a token. -/
def isNamed : Concrete → Bool
  | node _ n .. => n

/-- The role of the piece in the one around it. -/
def field : Concrete → Option String
  | node _ _ f .. => f

/-- Where the piece stands in the source. -/
def range : Concrete → Range
  | node _ _ _ r .. => r

/-- The pieces that a piece is made of, in their order. -/
def children : Concrete → List Concrete
  | node _ _ _ _ cs _ => cs

/-- The piece is a token that is missing in the source. -/
def isMissing : Concrete → Bool
  | node _ _ _ _ _ m => m

/-- Give the piece a role. -/
def withField (c : Concrete) (f : Option String) : Concrete :=
  node c.kind c.isNamed f c.range c.children c.isMissing

/-- The piece is a comment. -/
def isComment (c : Concrete) : Bool :=
  c.kind == "line_comment" || c.kind == "block_comment"

/-- The kind of pieces that are no Java. -/
def errorKind : String := "ERROR"

/-- The piece is no Java, or it is missing. -/
def isFault (c : Concrete) : Bool :=
  c.kind == errorKind || c.isMissing

/-- One more than the number of levels below the piece. -/
def depth : Concrete → Nat
  | node _ _ _ _ cs _ => depths cs + 1
where
  /-- The greatest depth of a list of pieces. -/
  depths : List Concrete → Nat
    | [] => 0
    | c :: cs => max c.depth (depths cs)

/-- The piece or something inside it is a fault. -/
def hasFault : Concrete → Bool
  | c@(node _ _ _ _ cs _) => c.isFault || anyFault cs
where
  /-- Some of the pieces has a fault. -/
  anyFault : List Concrete → Bool
    | [] => false
    | c :: cs => c.hasFault || anyFault cs

/-- The lines on which the outermost faults begin. -/
def faultLines : Concrete → List Nat
  | c@(node _ _ _ range cs _) =>
    if c.isFault then [range.startRow + 1] else if c.hasFault then linesAll cs else []
where
  /-- The lines of all pieces. -/
  linesAll : List Concrete → List Nat
    | [] => []
    | c :: cs => c.faultLines ++ linesAll cs

end Concrete

/-- A piece of syntax and the pieces before it, nearest first. -/
structure Focus where
  before : List Concrete
  piece : Concrete
  deriving Repr, Inhabited

namespace Focus

/-- The pieces of a list, each with those before it. -/
def along (before : List Concrete) : List Concrete → List Focus
  | [] => []
  | c :: cs => ⟨before, c⟩ :: along (c :: before) cs

/-- The parts of a piece. -/
def parts (f : Focus) : List Focus :=
  along [] f.piece.children

/-- The name of the construct in focus. -/
def kind (f : Focus) : String := f.piece.kind

/-- Where the piece in focus stands in the source. -/
def range (f : Focus) : Range := f.piece.range

/-- The piece in focus is a comment. -/
def isComment (f : Focus) : Bool := f.piece.isComment

/-- The named parts of a piece. -/
def namedParts (f : Focus) : List Focus :=
  f.parts.filter (·.piece.isNamed)

/-- The parts that play the role `field`. -/
def partsIn (f : Focus) (field : String) : List Focus :=
  f.parts.filter (·.piece.field == some field)

/-- The first part that plays the role `field`. -/
def partIn? (f : Focus) (field : String) : Option Focus :=
  f.parts.find? (·.piece.field == some field)

end Focus

end Excerpt.Java
