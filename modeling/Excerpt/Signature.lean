import Excerpt.Tree.Basic

/-!
# Signatures of declarations

The canonical text of a declaration, without annotations and bodies. Modifiers come in a fixed
order, whatever the order in which they are written. What is no declaration of the kind asked for
is given by its source.

Detectors report code by signatures, so that findings do not depend on how a declaration is laid
out. They also compare types by their simple names (`simpleTypeName`), which is what is left of
the text of a type without its package and its arguments.

* `Signature.ofType`, `Signature.ofCallable`, `Signature.ofVariable`: the signature of each kind
  of declaration.
* `Signature.header`: a type without type parameters and supertypes.
* `Signature.ofNode`: the signature of a declaration, or the source of anything else.
-/

namespace Excerpt

/-! ### Simple names of types -/

open Text in
/-- The text of a type without what follows its first type argument or array bracket, and without
the package it is qualified with. -/
def simpleTypeChars (type : List Char) : List Char :=
  let base := type.takeWhile (· != '<')
  let base := trim (base.takeWhile (· != '['))
  trim (afterLast '.' base)

/-- The simple name of a type: `java.util.List<String>` is `List`. -/
def simpleTypeName (type : String) : String :=
  String.ofList (simpleTypeChars type.toList)

end Excerpt

namespace Excerpt.Signature

/-- The modifiers of methods that follow the access modifier. -/
def methodModifiers : List Modifier :=
  [.static, .abstract, .final, .native, .synchronized]

/-- The keyword of the access modifier. -/
def access (n : Node) : List String :=
  ((n.modifiers.find? Modifier.isAccess).map Modifier.keyword).toList

/-- The keywords of those of the given modifiers that a node has. -/
def keywords (n : Node) (ms : List Modifier) : List String :=
  (ms.filter n.hasModifier).map Modifier.keyword

/-- A keyword and the names after it, if there are any. -/
def clause (keyword : String) (names : List String) : List String :=
  if names.isEmpty then [] else [keyword ++ " " ++ ", ".intercalate names]

/-- The parts with a space between them. -/
def unwords (parts : List String) : String :=
  " ".intercalate parts

/-- `public static class Name<T> extends Base implements A, B`. -/
def ofType (t : SyntaxTree) (i : NodeId) : String :=
  let n := t.node i
  match n.kind.type? with
  | some d =>
    unwords (access n ++ keywords n [.static] ++
      [d.kind.keyword, n.nameText ++ d.typeParams.getD ""] ++
      clause "extends" d.supertypes ++ clause "implements" d.interfaces)
  | none => t.trimmedText i

/-- `public interface Name`, without type parameters and supertypes. -/
def header (t : SyntaxTree) (i : NodeId) : String :=
  let n := t.node i
  unwords (access n ++ keywords n [.static] ++ (n.kind.type?.map fun d => d.kind.keyword).toList ++
    [n.nameText])

/-- `public static <T> List<T> name(Type a, Type b) throws X, Y`. -/
def ofCallable (t : SyntaxTree) (i : NodeId) : String :=
  let n := t.node i
  match n.kind.callable? with
  | some d =>
    let result := if n.kind.isMethod then keywords n methodModifiers ++ d.typeParams.toList ++
      d.returnType.toList
      else []
    let params := d.params.map fun p => p.type ++ " " ++ p.name
    unwords (access n ++ result ++ [n.nameText ++ "(" ++ ", ".intercalate params ++ ")"] ++
      clause "throws" d.throws)
  | none => t.trimmedText i

/-- `Type name = value`, or `Type name` without a value. -/
def ofVariable (t : SyntaxTree) (i : NodeId) : String :=
  let n := t.node i
  match n.kind with
  | .declarator type (some value) => type ++ " " ++ n.nameText ++ " = " ++ t.text value
  | .declarator type none => type ++ " " ++ n.nameText
  | _ => t.trimmedText i

/-- The signature of a declaration; the source of anything else. -/
def ofNode (t : SyntaxTree) (i : NodeId) : String :=
  match t.kind i with
  | .typeDecl _ => ofType t i
  | .methodDecl _ | .constructorDecl _ => ofCallable t i
  | .declarator _ _ => ofVariable t i
  | _ => t.trimmedText i

end Excerpt.Signature
