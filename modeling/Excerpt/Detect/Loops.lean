import Excerpt.Detect.Basic

/-!
# Loops

`loopBody` reports every loop of a method, `loopContains` the calls of `contains` inside loops on
variables whose type searches all its elements.

Both look at the nodes of a method that belong to it and not to a method or constructor inside
it (`ownNodes`), so a loop in a local class is reported with the method of this class. The type
of a variable is found by its name, among all variables below the method.

* `enclosingLoop?`: the nearest loop around a node.
* `ownNodes`: the nodes of a method.
* `loopContains`, `loopBody`: the detectors.
-/

namespace Excerpt.Detect

/-- The nearest loop around a node in the same method or constructor. -/
def enclosingLoop? (t : SyntaxTree) (i : NodeId) : Option NodeId :=
  ((t.ancestors i).find? fun a =>
    (t.kind a).isLoop || (t.kind a).isCallable || (t.kind a).isType).filter
    fun a => (t.kind a).isLoop

/-- The nodes below a method that belong to it and not to a callable inside it. -/
def ownNodes (t : SyntaxTree) (method : NodeId) : List NodeId :=
  (t.descendants method).filter fun i => t.enclosingCallable? i == some method

/-- Below the method, a variable of the name has one of the types. -/
def declaresAs (t : SyntaxTree) (types : List String) (method : NodeId) (name : String) : Bool :=
  (t.descendants method).any fun i =>
    match t.kind i with
    | .declarator type _ => (t.node i).nameText == name && types.contains (simpleTypeName type)
    | _ => false

/-- The finding for a call of `contains` in a loop. -/
def scanFindings (t : SyntaxTree) (types : List String) (method call : NodeId) :
    Option (List Finding) :=
  match t.kind call with
  | .expr (.call (some receiver) _) =>
    if (t.node call).nameText == "contains" then do
      let r ← t.follow receiver
      match t.kind r, enclosingLoop? t call with
      | .expr .name, some loop =>
        if declaresAs t types method (t.node r).nameText then
          return [⟨t.line call, t.trimmedText loop, t.trimmedText call⟩]
        else return []
      | _, _ => return []
    else some []
  | _ => some []

/-- Calls of `contains` in a loop on variables whose types look at all elements. -/
def loopContains (types : List String) : Detector := .searching "loop-contains" fun cx =>
  if cx.kind.isMethod then gather (ownNodes cx.tree cx.node) (scanFindings cx.tree types cx.node)
  else some []

/-- Each loop of a method. -/
def loopBody : Detector := .searching "loop-body" fun cx =>
  let t := cx.tree
  if cx.kind.isMethod then
    let signature := Signature.ofCallable t cx.node
    some (((ownNodes t cx.node).filter fun i => (t.kind i).isLoop).map fun i =>
      ⟨t.line i, t.trimmedText i, signature⟩)
  else some []

end Excerpt.Detect
