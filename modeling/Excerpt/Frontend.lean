import Excerpt.Path
import Excerpt.Tree.Basic

/-!
# Front ends

A front end turns the text of a source into a syntax tree, or says why it cannot. It also says
which files it is for, by the endings of their names. Nothing else in the program depends on the
language of the sources: files are collected and scanned by any front end (`Frontend.collect`,
`Scanner.scan`), and `Java.frontend` is the one that the program is run with.

* `SourceUnit` is what a front end makes of a source: a tree, with the path of the source.
* `FrontendError` is why it makes none. A front end that rejects sources with syntax errors says
  how many there are and where the first one is.
* `Frontend` is a front end. It is a value, so that theorems can be about all of them. What is
  asked of a front end is stated where it is needed; only that its units have the path of their
  source ever is (`Frontend.KeepsPath`).
-/

namespace Excerpt

/-- The tree of a source and the path that it was read from. -/
structure SourceUnit where
  path : String
  tree : SyntaxTree
  deriving Repr

/-- Why a source cannot be turned into a tree. -/
inductive FrontendError
  /-- The grammar of the language cannot be used. -/
  | badGrammar (cause : String)
  | noTree (path : String)
  /-- The source has syntax errors. -/
  | malformed (path : String) (errors firstLine : Nat)
  deriving DecidableEq, Repr

/-- The error in words. -/
def FrontendError.message : FrontendError → String
  | badGrammar cause => "failed to load grammar: " ++ cause
  | noTree path => "parser produced no tree for " ++ path
  | malformed path errors firstLine =>
    path ++ ": " ++ toString errors ++ " syntax error(s), first at line " ++ toString firstLine

/-- A way to turn sources into trees. -/
structure Frontend where
  /-- The endings of the names of its files, without the dot. -/
  extensions : List String
  /-- The tree of a source that was read from a path. -/
  parse (path source : String) : Except FrontendError SourceUnit

namespace Frontend

variable (f : Frontend)

/-- The path is that of a source for the front end. -/
def handles (path : String) : Bool :=
  (Path.extension? path).any f.extensions.contains

/-- A unit has the path that its source was read from. -/
def KeepsPath : Prop :=
  ∀ path source u, f.parse path source = .ok u → u.path = path

end Frontend

end Excerpt
