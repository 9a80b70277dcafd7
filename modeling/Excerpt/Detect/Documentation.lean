import Excerpt.Detect.Basic
import Excerpt.Javadoc
import Excerpt.Words

/-!
# Names and documentation

Three detectors that look at declarations. `naming` reports what is declared together with the
words of its name, so that names can be checked for their words. `javadoc` reports the description
in the javadoc comment of what is visible from outside. `methodDoc` reports every method with its
documentation, or with a mark where there is none.

A comment that is no javadoc counts as the documentation of a method, but not as a description. A
description that is blank is not reported.
-/

namespace Excerpt.Detect

/-! ### Names -/

/-- The declaration whose name is judged. -/
def namedDeclaration (cx : Context) : Option (Option String) :=
  match cx.kind with
  | .typeDecl _ => some (some (Signature.header cx.tree cx.node))
  | .methodDecl _ => some (some (Signature.ofCallable cx.tree cx.node))
  | .declarator _ _ => (cx.tree.variableText cx.node).map some
  | _ => some none

/-- Each declaration of a type, method or variable with the words of its name. -/
def naming : Detector := .searching "naming" fun cx => do
  match ← namedDeclaration cx with
  | some declaration =>
    let words := Words.format (Words.tokenize cx.name)
    return [⟨cx.tree.nameLine cx.node, declaration ++ "\n" ++ words, cx.name⟩]
  | none => return []

/-! ### Comments -/

/-- The kind of the type whose member a node is. -/
def ownerKind? (t : SyntaxTree) (i : NodeId) : Option TypeKind :=
  ((t.parent? i).bind fun p => (t.kind p).type?).map TypeDecl.kind

/-- Public or protected, or in an interface and not private. -/
def isVisible (t : SyntaxTree) (method : NodeId) : Bool :=
  let n := t.node method
  n.hasModifier .publicAccess || n.hasModifier .protectedAccess ||
    (ownerKind? t method == some .interfaceType && !n.hasModifier .privateAccess)

/-- The node is one whose javadoc is reported. -/
def isDocumented (cx : Context) : Bool :=
  match cx.kind with
  | .typeDecl _ => true
  | .methodDecl _ => isVisible cx.tree cx.node
  | _ => false

/-- The description of each documented declaration, at the line where it begins. -/
def javadoc : Detector := .searching "javadoc" fun cx =>
  match (if isDocumented cx then (cx.tree.node cx.node).javadoc? else none) with
  | some doc =>
    let description := Javadoc.description doc
    if Text.isBlankText description then some []
    else
      let line : Int := Javadoc.descriptionLine doc description
      some [⟨line, String.ofList description ++ "\n" ++ Signature.ofNode cx.tree cx.node, cx.name⟩]
  | none => some []

/-- What stands for the documentation of a method without a comment. -/
def noJavadoc : String := "<no javadoc>"

/-- The documentation in a comment. -/
def docText (c : Comment) : String :=
  String.ofList (if c.isJavadoc then Javadoc.description c else c.content)

/-- Each method with its documentation. -/
def methodDoc : Detector := .searching "method-doc" fun cx =>
  if cx.kind.isMethod then
    let doc := match (cx.tree.node cx.node).comment with
      | some c => docText c
      | none => noJavadoc
    some [⟨cx.tree.nameLine cx.node, doc, cx.name⟩]
  else some []

end Excerpt.Detect
