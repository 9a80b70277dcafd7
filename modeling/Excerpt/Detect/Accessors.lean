import Excerpt.Detect.Members

/-!
# Accessors of fields

A method of the same type that assigns to a field is its setter, one that returns it is its
getter. A field is recognised by its name alone, as a simple name or behind a dot.

The fields of a declaration are kept in a list of slots, one for each field, in which the names of
their setters and getters are put down. The methods of the type are gone through in the order of
their declaration, and each one takes the place of those before it, so that the last one counts.
In the body of a method all assignments come before all returns. Of several fields with one name,
only the first is ever found.

* `FieldSlot`: what is known about a field.
* `FieldSlot.change`: put something down for the first field of a name.
* `scanMethod`: what a method does to the slots.
-/

namespace Excerpt.Detect

/-! ### Slots -/

/-- A field, with the methods that are known to assign to it and to return it. -/
structure FieldSlot where
  field : String
  setter : Option String := none
  getter : Option String := none
  deriving DecidableEq, Repr

namespace FieldSlot

/-- A method as a call. -/
def callText : Option String → String
  | some method => method ++ "()"
  | none => "none"

/-- What is reported on a field. -/
def subject (s : FieldSlot) : String :=
  "field " ++ s.field ++ ", setter " ++ callText s.setter ++ ", getter " ++ callText s.getter

/-- The method is the setter. -/
def setBy (method : String) (s : FieldSlot) : FieldSlot :=
  { s with setter := some method }

/-- The method is the getter. -/
def returnedBy (method : String) (s : FieldSlot) : FieldSlot :=
  { s with getter := some method }

/-- Change the first slot for a field of the name. -/
def change (f : FieldSlot → FieldSlot) (name : String) : List FieldSlot → List FieldSlot
  | [] => []
  | s :: slots => if s.field = name then f s :: slots else s :: change f name slots

/-- Change the first slot for each of the names. -/
def changeAll (f : FieldSlot → FieldSlot) (slots : List FieldSlot) (names : List String) :
    List FieldSlot :=
  names.foldl (fun slots name => change f name slots) slots

end FieldSlot

/-! ### What methods do with fields -/

/-- The name of the field that an expression may be. -/
def fieldName (t : SyntaxTree) (expr : NodeId) : Option (List String) :=
  (t.follow expr).map fun e =>
    match t.kind e with
    | .expr .name | .expr (.fieldAccess _) => [(t.node e).nameText]
    | _ => []

/-- What a node assigns to. -/
def writtenAt (t : SyntaxTree) (i : NodeId) : Option (List String) :=
  match t.kind i with
  | .expr (.assignment _ target _) => fieldName t target
  | _ => some []

/-- What a node returns. -/
def returnedAt (t : SyntaxTree) (i : NodeId) : Option (List String) :=
  match t.kind i with
  | .stmt (.returnStmt (some e)) => fieldName t e
  | _ => some []

/-- Change the slots of the fields that are found at nodes, one node after the other. -/
def changeAt (find : NodeId → Option (List String)) (f : FieldSlot → FieldSlot)
    (nodes : List NodeId) (slots : List FieldSlot) : Option (List FieldSlot) :=
  nodes.foldlM (fun slots i => (find i).map (FieldSlot.changeAll f slots)) slots

/-- Put down what a method does with fields: first what it assigns to, then what it returns. -/
def scanMethod (t : SyntaxTree) (slots : List FieldSlot) (method : NodeId) :
    Option (List FieldSlot) :=
  match (t.kind method).callable?.bind CallableDecl.body with
  | some body => do
    let nodes := t.descendants (← t.follow body)
    let name := (t.node method).nameText
    let written ← changeAt (writtenAt t) (FieldSlot.setBy name) nodes slots
    changeAt (returnedAt t) (FieldSlot.returnedBy name) nodes written
  | none => some slots

/-- The methods of the nearest type around a node, in the order of their declaration. -/
def methodsAround (t : SyntaxTree) (i : NodeId) : List NodeId :=
  (t.enclosingType? i).elim [] fun owner => (t.members owner).filter fun m => (t.kind m).isMethod

/-- Each field of a declaration with the last method that assigns to it and the last one that
returns it. -/
def accessors : Detector := .searching "accessors" fun cx => do
  if isField cx.kind then
    let fields := (cx.tree.declarators cx.node).map fun v => { field := (cx.tree.node v).nameText }
    let slots ← (methodsAround cx.tree cx.node).foldlM (scanMethod cx.tree) fields
    return slots.map fun s => ⟨cx.line, cx.trimmedText, s.subject⟩
  else return []

end Excerpt.Detect
