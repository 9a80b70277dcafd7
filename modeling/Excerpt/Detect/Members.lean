import Excerpt.Detect.Basic

/-!
# Members of types

`continuity` reports constructors and methods of one name that do not stand together,
`classOutline` lists the members of a type, and the other detectors are about its constants:
`interfaceConstants` reports fields of interfaces that do not look like constants, `constants` all
static final fields.

For continuity, members are gone through once. A constructor is reported if it comes after the
first run of constructors, and only the first such one. For methods, the name of the run that
is open and the names of runs that are over are kept on the way (`strayMethods`), so every
method that resumes a name is reported.

* `strayConstructor?`, `strayMethods`: the members that do not stand with their group.
* `continuity`, `classOutline`, `interfaceConstants`, `constants`: the detectors.
-/

namespace Excerpt.Detect

/-- The kind of the type that a node declares. -/
def typeKind? (k : Kind) : Option TypeKind :=
  k.type?.map TypeDecl.kind

/-- Classes and interfaces; enums and records are neither. -/
def isClassOrInterface (k : Kind) : Bool :=
  (typeKind? k).any TypeKind.isClassOrInterface

/-! ### Overloads -/

/-- A declaration of a constructor. -/
def isConstructor : Kind → Bool
  | .constructorDecl _ => true
  | _ => false

/-- The first constructor after the first run of constructors. -/
def strayConstructor? (t : SyntaxTree) (members : List NodeId) : Option NodeId :=
  let isCtor := fun m => isConstructor (t.kind m)
  ((members.dropWhile (!isCtor ·)).dropWhile isCtor).find? isCtor

/-- A member of a type, with its name if it is a method. -/
structure Member where
  node : NodeId
  method? : Option String
  deriving DecidableEq, Repr

/-- The members of a type. -/
def membersOf (t : SyntaxTree) (type : NodeId) : List Member :=
  (t.members type).map fun m =>
    ⟨m, if (t.kind m).isMethod then some (t.node m).nameText else none⟩

/-- The methods whose name has a run of methods that is over. `current` is the name of the run
that is not, and `finished` are the names of those that are. -/
def strayMethods (current : Option String) (finished : List String) : List Member → List NodeId
  | [] => []
  | m :: ms =>
    match m.method? with
    | none => strayMethods none (current.toList ++ finished) ms
    | some name =>
      let rest :=
        if current = some name then strayMethods current finished ms
        else strayMethods (some name) (current.toList ++ finished) ms
      if name ∈ finished then m.node :: rest else rest

/-- Constructors and overloads that are separated by other members. -/
def continuity : Detector := .searching "continuity" fun cx =>
  let t := cx.tree
  if isClassOrInterface cx.kind then
    let constructors := (strayConstructor? t (t.members cx.node)).toList.map fun c =>
      ⟨t.line c, t.trimmedText c, "constructors of class " ++ cx.name ++ " are not contiguous"⟩
    let methods := (strayMethods none [] (membersOf t cx.node)).map fun m =>
      ⟨t.line m, t.trimmedText m,
        "overloads of " ++ (t.node m).nameText ++ " in class " ++ cx.name ++ " are not contiguous"⟩
    some (constructors ++ methods)
  else some []

/-! ### Outlines -/

/-- A member as a line of an outline. -/
def outlineLine (t : SyntaxTree) (m : NodeId) : Option String :=
  match t.kind m with
  | .fieldDecl _ => some (t.trimmedText m)
  | .methodDecl _ | .constructorDecl _ => some (Signature.ofCallable t m ++ ";")
  | _ => none

/-- The fields and methods of a type, one on a line. -/
def classOutline : Detector := .searching "class-outline" fun cx =>
  if isClassOrInterface cx.kind then
    let lines := ((cx.tree.members cx.node).filterMap (outlineLine cx.tree)).map fun l =>
      "    " ++ l ++ "\n"
    some [⟨cx.line, String.join lines, Signature.ofType cx.tree cx.node⟩]
  else some []

/-! ### Constants -/

/-- Capital letters, digits and underscores. -/
def isUpperSnake (name : String) : Bool :=
  !name.isEmpty && name.toList.all fun c => c.isUpper || c.isDigit || c == '_'

/-- A declaration of fields. -/
def isField : Kind → Bool
  | .fieldDecl _ => true
  | _ => false

/-- The variable has a literal as its value. -/
def hasLiteralValue (t : SyntaxTree) (var : NodeId) : Option Bool :=
  match t.kind var with
  | .declarator _ (some value) => (t.follow value).map fun v => (t.kind v).expr?.any Expr.isLiteral
  | _ => some false

/-- Fields of interfaces whose value is no literal or whose name is not upper snake case. -/
def interfaceConstants : Detector := .searching "interface-constants" fun cx =>
  let t := cx.tree
  if typeKind? cx.kind = some .interfaceType then
    gather ((t.members cx.node).filter fun m => isField (t.kind m)) fun field =>
      gather (t.declarators field) fun var => do
        let literal ← hasLiteralValue t var
        if literal && isUpperSnake (t.node var).nameText then return []
        else return [⟨t.line var, t.trimmedText field, Signature.header t cx.node⟩]
  else some []

/-- The value of a variable as it is written; empty without one. -/
def valueText (t : SyntaxTree) : Option NodeId → Option String
  | some value => (t.follow value).map t.text
  | none => some ""

/-- Static final fields as `access static final Type NAME = value;`. -/
def constants : Detector := .searching "constants" fun cx =>
  let t := cx.tree
  let field := t.node cx.node
  if isField field.kind && field.hasModifier .static && field.hasModifier .final then
    let access := " ".intercalate (Signature.access field)
    gather (t.declarators cx.node) fun var =>
      match t.kind var with
      | .declarator type value => do
        let name := (t.node var).nameText
        let text ← valueText t value
        let code := access ++ " static final " ++ type ++ " " ++ name ++ " = " ++ text ++ ";"
        return [⟨t.nameLine var, String.ofList (Text.trimStart code.toList), name⟩]
      | _ => some []
  else some []

end Excerpt.Detect
