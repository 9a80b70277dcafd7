import Excerpt.Detect.Basic

/-!
# Request paths

An annotation of a type gives the first part of request paths, annotations of its methods the
rest. Each method is reported with every path that it answers: with each path of the type before
each of its own.

How the two parts are written does not matter: they are put together with one slash between
components and none at the end (`compose`). An annotation that names no path stands for the empty
one, so a method that is mapped without a path answers the path of its type.

Which annotations count is told by their names: for types the name itself, for methods what it
ends with.

* `compose`: the path of two parts.
* `mappedPaths`, `basePaths`: the paths that annotations give.
* `requestPath`: the detector.
-/

namespace Excerpt.Detect

/-- A path without repeated slashes. -/
def collapseSlashes : List Char → List Char
  | [] => []
  | c :: cs =>
    if c = '/' && cs.head? = some '/' then collapseSlashes cs else c :: collapseSlashes cs

/-- The two parts of a path behind slashes, with one slash between components and none at
the end. -/
def compose (base path : List Char) : List Char :=
  let joined := collapseSlashes ('/' :: base ++ '/' :: path)
  (Text.dropEnd? ['/'] joined).getD joined

/-- The annotations of a declaration. -/
def annotationsOf (t : SyntaxTree) (i : NodeId) : List NodeId :=
  (t.children i).filter fun c =>
    match t.kind c with
    | .annotationUse _ => true
    | _ => false

/-- The values of an argument: those of a list, or the one that it is. -/
def argumentValues (t : SyntaxTree) (value : NodeId) : Option (List String) :=
  (t.follow value).map fun v =>
    match t.kind v with
    | .expr .arrayInitializer => (t.children v).map t.valueOrText
    | _ => [t.valueOrText v]

/-- The paths that an annotation names; the empty one if it names none. -/
def mappedPaths (t : SyntaxTree) (use : NodeId) : Option (List String) := do
  let found ← match t.kind use with
    | .annotationUse (.single value) => argumentValues t value
    | .annotationUse (.pairs entries) =>
      gather (entries.filter fun e => e.1 == "value" || e.1 == "path") fun e => argumentValues t e.2
    | _ => some []
  return if found.isEmpty then [""] else found

/-- The first parts of the request paths of a type; the last annotation that gives them counts. -/
def basePaths (t : SyntaxTree) (type : NodeId) (base : String) : Option (List String) := do
  let uses := (annotationsOf t type).filter fun a => (t.node a).nameText == base
  let all ← gather uses fun a => (mappedPaths t a).map ([·])
  return all.getLast?.getD [""]

/-- The name ends with the suffix. -/
def endsWith (suffix name : String) : Bool :=
  (Text.dropEnd? suffix.toList name.toList).isSome

/-- The paths of the requests that the methods of a type answer, each composed of a path of the
type and one of the method. -/
def requestPath (base suffix : String) : Detector := .searching "request-path" fun cx => do
  let t := cx.tree
  if cx.kind.isType then
    let bases ← basePaths t cx.node base
    gather ((t.members cx.node).filter fun m => (t.kind m).isMethod) fun method =>
      gather ((annotationsOf t method).filter fun a => endsWith suffix (t.node a).nameText) fun a =>
        do
        let paths ← mappedPaths t a
        return bases.flatMap fun b => paths.map fun p =>
          ⟨t.line a, String.ofList (compose b.toList p.toList), (t.node method).nameText⟩
  else return []

end Excerpt.Detect
