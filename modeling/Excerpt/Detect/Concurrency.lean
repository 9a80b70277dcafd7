import Excerpt.Detect.Basic

/-!
# Threads and locks

`threadName` reports the names given to threads, when they are made or by a setter. `lock` reports
methods and blocks that hold a lock and the code around the construction of one.

The name of a thread is an expression, of which as much is resolved as can be without running the
program: strings stand for their values, and sums and parentheses for what they are made of. All
other expressions stand for their texts. References may lead in circles, so the search is bounded
(`nameWithin`); a bound of as many levels as there are nodes is enough for every name that can be
found at all.

The code of a finding is the statement around the expression, if there is one, or else what owns
the expression. For a lock it is the body that the lock guards.

* `resolveName`: the name that an expression gives.
* `ownerText`: the code that is reported with a name.
* `threadName`, `lock`: the detectors.
-/

namespace Excerpt.Detect

/-! ### Names of threads -/

/-- The name that an expression gives, followed through at most `fuel` levels of sums and
parentheses. Strings give their value, names themselves, and anything else its source. -/
def nameWithin (t : SyntaxTree) : (fuel : Nat) → NodeId → Option String
  | 0, _ => none
  | fuel + 1, i => do
    let e ← t.follow i
    match t.kind e with
    | .expr (.stringLiteral value) => return value
    | .expr (.binary op _ left right) =>
      if op = "+" then
        let l ← nameWithin t fuel left
        let r ← nameWithin t fuel right
        return l ++ r
      else return t.trimmedText e
    | .expr .name => return (t.node e).nameText
    | .expr (.parenthesized (some inner)) => nameWithin t fuel inner
    | _ => return t.trimmedText e

/-- The name that an expression gives, if the search for it comes to an end. No chain of
references without repetition is longer than the tree has nodes, so more levels would not find a
name either. -/
def resolveName (t : SyntaxTree) (i : NodeId) : Option String :=
  nameWithin t (t.size + 1) i

/-- An expression, declaration or return statement. -/
def isWholeStatement : Kind → Bool
  | .stmt .expression | .stmt (.returnStmt _) | .stmt .localVariable => true
  | _ => false

/-- What an expression that is part of no such statement belongs to. -/
def isOwner : Kind → Bool
  | .declarator _ _ | .expr (.assignment _ _ _) | .stmt _ => true
  | _ => false

/-- The statement around an expression; else the variable, assignment or other statement; else the
expression. -/
def ownerText (t : SyntaxTree) (i : NodeId) : Option String :=
  match t.findAncestor? i isWholeStatement with
  | some stmt => some (t.trimmedText stmt)
  | none =>
    match t.findAncestor? i isOwner with
    | some owner =>
      match t.kind owner with
      | .declarator _ _ => t.variableText owner
      | _ => some (t.trimmedText owner)
    | none => some (t.trimmedText i)

/-- An argument that may be a name: a string, a call, or something made by an operator. -/
def isNameArgument : Kind → Bool
  | .expr (.stringLiteral _) | .expr (.binary _ _ _ _) | .expr (.call _ _) => true
  | _ => false

/-- The finding for a name of a thread. -/
def nameFinding (cx : Context) (arg : NodeId) : Option (List Finding) := do
  let owner ← ownerText cx.tree cx.node
  let name ← resolveName cx.tree arg
  return [⟨cx.line, owner, name⟩]

/-- The finding for an argument of a construction, if the argument may be a name. -/
def argumentFinding (cx : Context) (arg : NodeId) : Option (List Finding) := do
  if isNameArgument (cx.tree.kind (← cx.tree.follow arg)) then nameFinding cx arg else return []

/-- The names of threads, where a thread is constructed or its name is set. -/
def threadName (types : List String) (setter : String) :
    Detector := .searching "thread-name" fun cx =>
  match cx.kind with
  | .expr (.creation type args) =>
    if types.contains (simpleTypeName type) then gather args (argumentFinding cx) else some []
  | .expr (.call _ [arg]) => if cx.name == setter then nameFinding cx arg else some []
  | _ => some []

/-! ### Locks -/

/-- What stands for the method around a lock where there is none. -/
def unknownCallable : String := "<unknown>"

/-- The signature of the method or constructor around a node. -/
def callableSubject (t : SyntaxTree) (i : NodeId) : String :=
  match t.enclosingCallable? i with
  | some c => Signature.ofCallable t c
  | none => unknownCallable

/-- A method, constructor, field or type. -/
def isGuard : Kind → Bool
  | .methodDecl _ | .constructorDecl _ | .fieldDecl _ | .typeDecl _ => true
  | _ => false

/-- The body of the method or constructor around a node, or the field around it; else the node. -/
def guardedCode (t : SyntaxTree) (i : NodeId) : Option String :=
  match t.findAncestor? i isGuard with
  | some a =>
    match t.kind a with
    | .methodDecl d | .constructorDecl d =>
      match d.body with
      | some body => (t.follow body).map t.text
      | none => some (t.trimmedText i)
    | .fieldDecl _ => some (t.trimmedText a)
    | _ => some (t.trimmedText i)
  | none => some (t.trimmedText i)

/-- A class literal such as `A.class`, which makes a lock that all instances share. -/
def isClassLiteral : Kind → Bool
  | .expr (.classLiteral _) => true
  | _ => false

/-- What is done under a lock: synchronized methods, statements that hold the lock of a class, and
constructions of locks. -/
def lock (types : List String) : Detector := .searching "lock" fun cx => do
  let t := cx.tree
  match cx.kind with
  | .methodDecl d =>
    match d.body with
    | some body =>
      if (t.node cx.node).hasModifier .synchronized then
        return [⟨cx.line, t.text (← t.follow body), Signature.ofCallable t cx.node⟩]
      else return []
    | none => return []
  | .stmt (.synchronized (some held) _) =>
    if isClassLiteral (t.kind (← t.follow held)) then
      return [⟨cx.line, cx.trimmedText, callableSubject t cx.node⟩]
    else return []
  | .expr (.creation type _) =>
    if types.contains (simpleTypeName type) then
      return [⟨cx.line, ← guardedCode t cx.node, callableSubject t cx.node⟩]
    else return []
  | _ => return []

end Excerpt.Detect
