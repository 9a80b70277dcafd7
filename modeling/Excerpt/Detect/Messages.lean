import Excerpt.Detect.Basic

/-!
# Messages

The arguments of exceptions that are thrown, directly or through a variable, and calls that write
to a log.

An exception that is constructed where it is thrown is reported once for each argument. If
a variable is thrown, its declaration is looked up by its name: of the variables before the
statement in the nearest block around it, nested blocks included, the last one counts
(`priorDeclaration?`). It is reported with the first argument of the construction that it
begins with.

* `priorDeclaration?`: the variable that a thrown name stands for.
* `throwMessage`, `logMessage`: the detectors.
-/

namespace Excerpt.Detect

/-- The last variable of the given name before a statement, in the nearest block around it. -/
def priorDeclaration? (t : SyntaxTree) (stmt : NodeId) (name : String) : Option NodeId :=
  match t.findAncestor? stmt Kind.isBlock, (t.node stmt).span with
  | some block, some limit =>
    let isPrior := fun v =>
      match t.kind v with
      | .declarator _ _ =>
        (t.node v).nameText == name && (t.node v).span.any fun s => s.startByte < limit.startByte
      | _ => false
    ((t.descendants block).filter isPrior).getLast?
  | _, _ => none

/-- The finding for an exception that is thrown through a variable. -/
def thrownVariable (cx : Context) (var : NodeId) : Option (List Finding) := do
  let t := cx.tree
  match t.kind var with
  | .declarator _ (some value) =>
    match t.kind (← t.follow value) with
    | .expr (.creation _ (first :: _)) =>
      return [⟨cx.line, Signature.ofVariable t var, t.valueOrText (← t.follow first)⟩]
    | _ => return []
  | _ => return []

/-- The arguments of an exception that is constructed where it is thrown, or the first one of the
construction that a thrown variable begins with. -/
def throwMessage : Detector := .searching "throw-message" fun cx => do
  let t := cx.tree
  match cx.kind with
  | .stmt (.throwStmt (some expr)) =>
    match t.kind (← t.follow expr) with
    | .expr (.creation _ args) =>
      gather args fun arg => (t.follow arg).map fun a =>
        [⟨cx.line, cx.trimmedText, t.valueOrText a⟩]
    | .expr .name =>
      match priorDeclaration? t cx.node (t.node expr).nameText with
      | some var => thrownVariable cx var
      | none => return []
    | _ => return []
  | _ => return []

/-- Calls that write to a log. -/
def logMessage (methods : List String) : Detector := .searching "log-message" fun cx =>
  match cx.kind with
  | .expr (.call _ _) =>
    if methods.contains cx.name then some [⟨cx.line, cx.trimmedText, cx.trimmedText⟩] else some []
  | _ => some []

end Excerpt.Detect
