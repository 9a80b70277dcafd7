/-!
# Kinds of syntax nodes

A node of a syntax tree is a declaration, a statement, an expression, an annotation, a block or
something the extraction rules do not model, which keeps its grammar name. Payloads refer to other
nodes by their index in the tree. `Kind.references` lists these indices and `Kind.redirect`
changes them.

The payload of a kind is what the rules need to know of the construct besides its parts: the
header of a type, the parameters of a method, the operator of an expression. Names, modifiers and
comments belong to all nodes and are not part of the kind.

* `TypeDecl`, `CallableDecl`, `Stmt`, `Expr`, `AnnotationArgs`: payloads.
* `Kind`: what a node of the tree is.
* `Kind.references`, `Kind.redirect`: the nodes that a payload refers to.
-/

namespace Excerpt

/-- Index of a node in its tree. -/
abbrev NodeId := Nat

/-- Kinds of type declarations. -/
inductive TypeKind
  | classType
  | interfaceType
  | enumType
  | recordType
  | annotationType
  deriving DecidableEq, Repr, Inhabited

/-- The keyword that declares a type of this kind. -/
def TypeKind.keyword : TypeKind → String
  | .classType => "class"
  | .interfaceType => "interface"
  | .enumType => "enum"
  | .recordType => "record"
  | .annotationType => "@interface"

/-- Classes and interfaces, the kinds with free-form member lists. -/
def TypeKind.isClassOrInterface : TypeKind → Bool
  | .classType | .interfaceType => true
  | _ => false

/-- What a type declaration says before its body. `typeParams` includes the brackets. -/
structure TypeDecl where
  kind : TypeKind
  typeParams : Option String := none
  supertypes : List String := []
  interfaces : List String := []
  deriving DecidableEq, Repr

/-- A formal parameter. -/
structure Param where
  type : String
  name : String
  deriving DecidableEq, Repr

/-- What a method or constructor declaration says, with a reference to its body. -/
structure CallableDecl where
  returnType : Option String := none
  typeParams : Option String := none
  params : List Param := []
  throws : List String := []
  body : Option NodeId := none
  deriving DecidableEq, Repr

/-- Kinds of statements. -/
inductive Stmt
  | forLoop
  | forEach
  | whileLoop
  | doLoop
  | throwStmt (expr : Option NodeId)
  | returnStmt (expr : Option NodeId)
  | synchronized (lock body : Option NodeId)
  | expression
  | localVariable
  | conditional
  | tryStmt
  | other
  deriving DecidableEq, Repr

/-- Kinds of expressions. Calls, names and field accesses carry their identifier as the name of
the node. -/
inductive Expr
  | call (receiver : Option NodeId) (args : List NodeId)
  | creation (type : String) (args : List NodeId)
  | binary (op : String) (opLine : Option Nat) (left right : NodeId)
  | assignment (op : String) (target value : NodeId)
  | name
  | fieldAccess (object : Option NodeId)
  | stringLiteral (value : String)
  | literal
  | classLiteral (type : String)
  | parenthesized (inner : Option NodeId)
  | lambda
  | arrayInitializer
  | other
  deriving DecidableEq, Repr

/-- String literals and the literals of the other primitive types. -/
def Expr.isLiteral : Expr → Bool
  | .stringLiteral _ | .literal => true
  | _ => false

/-- Arguments of an annotation: none, one value, or named values. -/
inductive AnnotationArgs
  | absent
  | single (value : NodeId)
  | pairs (entries : List (String × NodeId))
  deriving DecidableEq, Repr

/-- What a node of the tree is. -/
inductive Kind
  | compilationUnit
  | typeDecl (decl : TypeDecl)
  | methodDecl (decl : CallableDecl)
  | constructorDecl (decl : CallableDecl)
  | fieldDecl (type : String)
  | declarator (type : String) (initializer : Option NodeId)
  | block
  | stmt (s : Stmt)
  | expr (e : Expr)
  | annotationUse (args : AnnotationArgs)
  | other (grammar : String)
  deriving DecidableEq, Repr, Inhabited

namespace Kind

/-! ### Classes of kinds -/

/-- A declaration of a type. -/
def isType : Kind → Bool
  | typeDecl _ => true
  | _ => false

/-- A declaration of a method. -/
def isMethod : Kind → Bool
  | methodDecl _ => true
  | _ => false

/-- A method or constructor. -/
def isCallable : Kind → Bool
  | methodDecl _ | constructorDecl _ => true
  | _ => false

/-- A loop of any form. -/
def isLoop : Kind → Bool
  | stmt .forLoop | stmt .forEach | stmt .whileLoop | stmt .doLoop => true
  | _ => false

/-- A statement; a block is none. -/
def isStatement : Kind → Bool
  | stmt _ => true
  | _ => false

/-- Statements in braces. -/
def isBlock : Kind → Bool
  | block => true
  | _ => false

/-- What may stand in the body of a type. -/
def isMember : Kind → Bool
  | typeDecl _ | methodDecl _ | constructorDecl _ | fieldDecl _ => true
  | other grammar => grammar == "initializer" || grammar == "enum_constant"
  | _ => false

/-- The declaration of a method or constructor. -/
def callable? : Kind → Option CallableDecl
  | methodDecl d | constructorDecl d => some d
  | _ => none

/-- The declaration of a type. -/
def type? : Kind → Option TypeDecl
  | typeDecl d => some d
  | _ => none

/-- The kind of an expression. -/
def expr? : Kind → Option Expr
  | expr e => some e
  | _ => none

/-! ### References to other nodes -/

/-- The nodes that a payload refers to. -/
def references : Kind → List NodeId
  | methodDecl d | constructorDecl d => d.body.toList
  | declarator _ init => init.toList
  | stmt (.throwStmt e) | stmt (.returnStmt e) => e.toList
  | stmt (.synchronized lock body) => lock.toList ++ body.toList
  | expr (.call receiver args) => receiver.toList ++ args
  | expr (.creation _ args) => args
  | expr (.binary _ _ left right) => [left, right]
  | expr (.assignment _ target value) => [target, value]
  | expr (.fieldAccess object) => object.toList
  | expr (.parenthesized inner) => inner.toList
  | annotationUse (.single value) => [value]
  | annotationUse (.pairs entries) => entries.map Prod.snd
  | _ => []

/-- The kind with every reference `i` replaced by `f i`. -/
def redirect (f : NodeId → NodeId) : Kind → Kind
  | methodDecl d => methodDecl { d with body := d.body.map f }
  | constructorDecl d => constructorDecl { d with body := d.body.map f }
  | declarator type init => declarator type (init.map f)
  | stmt (.throwStmt e) => stmt (.throwStmt (e.map f))
  | stmt (.returnStmt e) => stmt (.returnStmt (e.map f))
  | stmt (.synchronized lock body) => stmt (.synchronized (lock.map f) (body.map f))
  | expr (.call receiver args) => expr (.call (receiver.map f) (args.map f))
  | expr (.creation type args) => expr (.creation type (args.map f))
  | expr (.binary op opLine left right) => expr (.binary op opLine (f left) (f right))
  | expr (.assignment op target value) => expr (.assignment op (f target) (f value))
  | expr (.fieldAccess object) => expr (.fieldAccess (object.map f))
  | expr (.parenthesized inner) => expr (.parenthesized (inner.map f))
  | annotationUse (.single value) => annotationUse (.single (f value))
  | annotationUse (.pairs entries) => annotationUse (.pairs (entries.map fun e => (e.1, f e.2)))
  | k => k

/-- Redirecting a kind redirects the nodes it refers to. -/
@[simp] theorem references_redirect (f : NodeId → NodeId) (k : Kind) :
    (k.redirect f).references = k.references.map f := by
  have option (o : Option NodeId) : (o.map f).toList = o.toList.map f := by cases o <;> rfl
  cases k with
  | stmt s => cases s <;> simp [redirect, references, option]
  | expr e => cases e <;> simp [redirect, references, option]
  | annotationUse args => cases args <;> simp [redirect, references, Function.comp_def]
  | _ => simp [redirect, references, option]

end Kind

end Excerpt
