import Excerpt.Rule.Basic
import Excerpt.Signature
import Excerpt.Tree.Walk

/-!
# Detectors

A detector looks at one node under one rule and reports findings. Its call may also fail or crash;
what it had found until then is part of the outcome, although an extraction makes no use of it.

The payload of a node may refer to any other node. `SyntaxTree.follow` takes such a reference and
fails where the tree has no such node; a detector that follows a reference into nothing crashes.
In the trees that are made of sources this does not happen, but trees may be made in other ways.
Detectors that only search are written as values of type `Option (List Finding)`, where nothing
stands for a crash (`Detector.searching`).

* `Finding`: what is reported: where, the code, and what it is about.
* `Context`: what a detector is shown.
* `Outcome`: how a call ends.
* `Detector`: a detector and the name that it is bound by.
* `gather`: the findings for each element of a list, one after the other.
-/

namespace Excerpt

/-- What a detector reports: where, the code, and what it is about. -/
structure Finding where
  line : Int
  code : String
  subject : String
  deriving DecidableEq, Repr

/-- A finding without a place. -/
def Finding.unplaced (code subject : String) : Finding :=
  ⟨SyntaxTree.unknownLine, code, subject⟩

/-- What a detector looks at: a node of a tree read from `path`, under a rule. -/
structure Context where
  tree : SyntaxTree
  node : NodeId
  rule : Rule
  path : String

namespace Context

variable (cx : Context)

/-- The kind of the node that is shown. -/
def kind : Kind := cx.tree.kind cx.node

/-- The line that a finding on the node is reported at. -/
def line : Int := cx.tree.line cx.node

/-- The name of the node. -/
def name : String := (cx.tree.node cx.node).nameText

/-- The text of the node. -/
def text : String := cx.tree.text cx.node

/-- The text of the node without the blanks around it. -/
def trimmedText : String := cx.tree.trimmedText cx.node

end Context

/-- How a call of a detector ends. -/
inductive Outcome
  | completed (findings : List Finding)
  /-- The detector gives up after having made some findings. -/
  | failed (made : List Finding)
  /-- The detector breaks off after having made some findings. -/
  | crashed (made : List Finding)
  deriving DecidableEq, Repr

/-- The findings of a call that completed. -/
def Outcome.findings? : Outcome → Option (List Finding)
  | completed fs => some fs
  | _ => none

/-- What a search that may follow references into nothing amounts to. -/
def Outcome.ofSearch : Option (List Finding) → Outcome
  | some fs => completed fs
  | none => crashed []

/-- A detector and the name that it is bound by. -/
structure Detector where
  name : String
  detect : Context → Outcome

/-- A detector that does not fail on its own. -/
def Detector.searching (name : String) (search : Context → Option (List Finding)) : Detector where
  name := name
  detect cx := .ofSearch (search cx)

/-- The findings for each element of a list, one after the other. -/
def gather {α β : Type} (xs : List α) (f : α → Option (List β)) : Option (List β) :=
  match xs with
  | [] => some []
  | x :: xs => do
    let here ← f x
    let more ← gather xs f
    return here ++ more

namespace SyntaxTree

variable (t : SyntaxTree)

/-- A reference, if the tree has the node. -/
def follow (i : NodeId) : Option NodeId :=
  if i < t.size then some i else none

/-- The value of a string literal. -/
def stringValue? (i : NodeId) : Option String :=
  match t.kind i with
  | .expr (.stringLiteral value) => some value
  | _ => none

/-- The value of a string literal, or the source of anything else. -/
def valueOrText (i : NodeId) : String :=
  (t.stringValue? i).getD (t.trimmedText i)

/-- The signature of a variable, whose value has to be in the tree. -/
def variableText (i : NodeId) : Option String :=
  match t.kind i with
  | .declarator _ (some value) => (t.follow value).map fun _ => Signature.ofVariable t i
  | _ => some (Signature.ofVariable t i)

/-- The variables that a node declares. -/
def declarators (i : NodeId) : List NodeId :=
  (t.children i).filter fun c =>
    match t.kind c with
    | .declarator _ _ => true
    | _ => false

end SyntaxTree

end Excerpt
