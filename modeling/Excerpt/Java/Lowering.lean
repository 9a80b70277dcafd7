import Excerpt.Java.Construct
import Excerpt.Java.Concrete
import Excerpt.Java.StringValue
import Excerpt.Tree.Draft

/-!
# From concrete syntax to drafts

A construct becomes a draft node with the drafts of its parts below it. Declarations keep their
modifiers, names and the comment before them; annotations become their first children. Every
reference of a payload is to a child of the same node.

The functions that build one node take the function `below` that lowers its parts; `lower` ties
the knot. It goes down as many levels as it is told, and the depth of a piece is always enough. So
what is proved about one construct needs to know about its parts only what it assumes of `below`.

A construct looks for its parts by role or by kind, and takes what is there: a part that is
missing or that occurs several times is no error, because concrete syntax may be broken. A
reference is made only to a draft that is there.

* `Lowering`: a source, with the function that lowers the parts of a construct.
* `Lowering.draft`: the draft of one construct.
* `lower`: the draft of a construct down to some depth.
-/

namespace Excerpt.Java

/-! ### Positions and texts -/

/-- The range from the beginning of `first` to the end of `last`. -/
def spanBetween (first last : Range) : Span :=
  ⟨first.startRow + 1, last.endRow + 1, first.startByte, last.endByte⟩

/-- The source under a range. -/
def sourceUnder (source : List Char) (r : Range) : List Char :=
  (Text.byteSlice? r.startByte r.endByte source).getD []

/-- A source whose syntax is lowered. -/
structure Lowering where
  source : List Char
  below : Focus → Option Draft

namespace Lowering

variable (l : Lowering)

/-- The characters of a piece. -/
def charsOf (f : Focus) : List Char :=
  sourceUnder l.source f.range

/-- The text of a piece. -/
def textOf (f : Focus) : String :=
  String.ofList (l.charsOf f)

/-- The text of the part in a role. -/
def textIn? (f : Focus) (field : String) : Option String :=
  (f.partIn? field).map l.textOf

/-- The text of the part in a role, or the empty text. -/
def textIn (f : Focus) (field : String) : String :=
  (l.textIn? f field).getD ""

/-- A piece as a name, with its line. -/
def identOf (f : Focus) : Ident :=
  ⟨l.textOf f, some (f.range.startRow + 1)⟩

/-- The part in a role as a name. -/
def identIn? (f : Focus) (field : String) : Option Ident :=
  (f.partIn? field).map l.identOf

/-- A node over the range of a construct. -/
def nodeOver (f : Focus) (kind : Kind) (name : Option Ident) : Node where
  kind := kind
  name := name
  span := some (spanBetween f.range f.range)

/-- The drafts of several constructs. -/
def each (fs : List Focus) : List Draft :=
  fs.filterMap l.below

/-- A node with the drafts of all parts. -/
def whole (f : Focus) (kind : Kind) : Draft :=
  .node (nodeOver f kind none) (l.each f.namedParts)

/-! ### Declarations -/

/-- The parts of the modifiers of a declaration. -/
def modifierParts (f : Focus) : List Focus :=
  match f.parts.find? (·.kind == "modifiers") with
  | some m => m.parts
  | none => []

/-- The modifiers of a declaration. -/
def modifiersOf (f : Focus) : List Modifier :=
  (modifierParts f).filterMap fun m => Modifier.ofKeyword? m.kind

/-- The drafts of the annotations among the modifiers. -/
def annotationsOf (f : Focus) : List Draft :=
  l.each ((modifierParts f).filter fun m => Construct.ofKind m.kind = .annotationUse)

/-- The comment directly before a construct, unless it ends the line of what stands before it. -/
def commentOf? (f : Focus) : Option Comment :=
  match f.before with
  | [] => none
  | previous :: before =>
    let trails := match before with
      | b :: _ => !b.isComment && b.range.endRow == previous.range.startRow
      | [] => false
    if previous.isComment && !trails then
      some ⟨String.ofList (sourceUnder l.source previous.range), previous.range.startRow + 1⟩
    else none

/-- The node of a declaration. -/
def declNode (f : Focus) (kind : Kind) (name : Option Ident) : Node :=
  { nodeOver f kind name with
    modifiers := modifiersOf f
    comment := l.commentOf? f }

mutual

/-- The types of a list, with the comments among them. -/
def typeNames (source : List Char) : Concrete → List String
  | .node _ _ _ _ cs _ => typeNamesAmong source cs

/-- The types among the parts of a list. A list inside the list contributes its types. -/
def typeNamesAmong (source : List Char) : List Concrete → List String
  | [] => []
  | c :: cs =>
    (if !c.isNamed then []
      else if c.kind == "type_list" then typeNames source c
      else [String.ofList (sourceUnder source c.range)]) ++ typeNamesAmong source cs

end

/-- The last part of the given kind. -/
def partOf? (f : Focus) (kind : String) : Option Focus :=
  (f.namedParts.filter (·.kind == kind)).getLast?

/-- The types listed in the parts of the given kinds. -/
def typesIn (f : Focus) (kinds : List String) : List String :=
  (f.namedParts.filter fun c => kinds.contains c.kind).flatMap fun c => typeNames l.source c.piece

mutual

/-- The members of a type body, also those that follow the constants of an enum. -/
def membersIn : Concrete → List Focus
  | .node _ _ _ _ cs _ => membersAmong [] cs

/-- The members among the parts of a type body that come after `before`. -/
def membersAmong (before : List Concrete) : List Concrete → List Focus
  | [] => []
  | c :: cs =>
    (if !c.isNamed then []
      else if c.kind == "enum_body_declarations" then membersIn c
      else [⟨before, c⟩]) ++ membersAmong (c :: before) cs

end

/-- The drafts of the members of a type body. A block among them is an initializer. -/
def membersOf (body : Focus) : List Draft :=
  (membersIn body.piece).flatMap fun m =>
    if m.kind == "block" then [.node (nodeOver m (.other "initializer") none) (l.below m).toList]
    else (l.below m).toList

/-- A type with its annotations and members. -/
def typeDecl (f : Focus) (kind : TypeKind) : Draft :=
  let decl : TypeDecl := {
    kind := kind
    typeParams := (partOf? f "type_parameters").map l.textOf
    supertypes := l.typesIn f ["superclass", "extends_interfaces"]
    interfaces := l.typesIn f ["super_interfaces"] }
  let members := match f.partIn? "body" with
    | some body => l.membersOf body
    | none => []
  .node (l.declNode f (.typeDecl decl) (l.identIn? f "name")) (l.annotationsOf f ++ members)

/-- A parameter with a variable number of arguments. -/
def spreadParam (f : Focus) : Param :=
  let type := f.namedParts.find? fun c => c.kind != "modifiers" && c.kind != "variable_declarator"
  { type := match type with
      | some t => l.textOf t ++ "..."
      | none => ""
    name := match partOf? f "variable_declarator" with
      | some d => l.textIn d "name"
      | none => "" }

/-- The parameters of a method or constructor. -/
def paramsOf (f : Focus) : List Param :=
  f.namedParts.filterMap fun p =>
    if p.kind == "formal_parameter" then some ⟨l.textIn p "type", l.textIn p "name"⟩
    else if p.kind == "spread_parameter" then some (l.spreadParam p)
    else none

/-- A method or constructor with its annotations and its body. -/
def callable (f : Focus) (make : CallableDecl → Kind) (returnType : Option String) : Draft :=
  let annotations := l.annotationsOf f
  let body := (f.partIn? "body").bind l.below
  let decl : CallableDecl := {
    returnType := returnType
    typeParams := (partOf? f "type_parameters").map l.textOf
    params := match partOf? f "formal_parameters" with
      | some list => l.paramsOf list
      | none => []
    throws := match partOf? f "throws" with
      | some list => typeNames l.source list.piece
      | none => []
    body := body.map fun _ => annotations.length }
  .node (l.declNode f (make decl) (l.identIn? f "name")) (annotations ++ body.toList)

/-- A variable with the value that it begins with. -/
def variableOf (f : Focus) (type : String) : Draft :=
  let value := (f.partIn? "value").bind l.below
  .node (nodeOver f (.declarator type (value.map fun _ => 0)) (l.identIn? f "name")) value.toList

/-- The variables of a declaration. Brackets after a name belong to its type. -/
def variablesOf (f : Focus) : List Draft :=
  (f.partsIn "declarator").map fun d =>
    l.variableOf d (l.textIn f "type" ++ l.textIn d "dimensions")

/-- A declaration of fields with its annotations and variables. -/
def fieldDecl (f : Focus) : Draft :=
  .node (l.declNode f (.fieldDecl (l.textIn f "type")) none) (l.annotationsOf f ++ l.variablesOf f)

/-- A constant of an enum, with its arguments and the body of its class. -/
def enumConstant (f : Focus) : Draft :=
  .node { nodeOver f (.other f.kind) (l.identIn? f "name") with comment := l.commentOf? f }
    (l.each f.namedParts)

/-! ### Annotations -/

/-- The name of an annotation, without the package that it is qualified with. -/
def annotationName (f : Focus) : Option Ident :=
  (f.partIn? "name").map fun n =>
    { l.identOf n with text := String.ofList (Text.afterLast '.' (l.charsOf n)) }

/-- The arguments of an annotation. -/
def annotationValues (f : Focus) : List Focus :=
  match f.partIn? "arguments" with
  | some list => list.namedParts.filter (!·.isComment)
  | none => []

/-- The drafts of named values with their names. -/
def namedValues (values : List Focus) : List (String × Draft) :=
  values.filterMap fun p => ((p.partIn? "value").bind l.below).map fun v => (l.textIn p "key", v)

/-- An annotation with its values. -/
def annotationUse (f : Focus) : Draft :=
  let name := l.annotationName f
  let values := annotationValues f
  if values.any (·.kind == "element_value_pair") then
    let entries := l.namedValues values
    let pairs := (entries.map Prod.fst).zip (Draft.positions 0 entries.length)
    .node (nodeOver f (.annotationUse (.pairs pairs)) name) (entries.map Prod.snd)
  else
    match values.head?.bind l.below with
    | some v => .node (nodeOver f (.annotationUse (.single 0)) name) [v]
    | none => .node (nodeOver f (.annotationUse .absent) name) []

/-! ### Statements -/

/-- The variable, the values and the body of a loop over the elements of a collection. -/
def forEach (f : Focus) : Draft :=
  let element := match f.partIn? "type", f.partIn? "name" with
    | some type, some name =>
      [.node { kind := .declarator (l.textOf type) none
               name := some (l.identOf name)
               span := some (spanBetween type.range name.range) } []]
    | _, _ => []
  .node (nodeOver f (.stmt .forEach) none)
    (element ++ ((f.partIn? "value").bind l.below).toList ++
      ((f.partIn? "body").bind l.below).toList)

/-- What is known of a statement that holds a lock: the drafts so far, and which of them are the
lock and the body. -/
structure Held where
  drafts : List Draft := []
  lock : Option NodeId := none
  body : Option NodeId := none

namespace Held

/-- The reference to a draft that comes next, if there is one. -/
def next? (h : Held) (d : Option Draft) : Option NodeId :=
  d.map fun _ => h.drafts.length

/-- Add a draft, if there is one. -/
def add (h : Held) (d : Option Draft) : Held :=
  { h with drafts := h.drafts ++ d.toList }

end Held

/-- Add a part of a statement that holds a lock. The expression between parentheses is the lock
itself. -/
def hold (h : Held) (part : Focus) : Held :=
  if part.kind == "parenthesized_expression" then
    match part.namedParts.find? (!·.isComment) with
    | some inner =>
      let d := l.below inner
      { h.add d with lock := h.next? d }
    | none => h
  else
    let d := l.below part
    if part.kind == "block" then { h.add d with body := h.next? d } else h.add d

/-- A statement that holds a lock. -/
def synchronized (f : Focus) : Draft :=
  let held := f.namedParts.foldl l.hold {}
  .node (nodeOver f (.stmt (.synchronized held.lock held.body)) none) held.drafts

/-- A statement of the given form. -/
def statement (f : Focus) : Stmt → Draft
  | .forEach => l.forEach f
  | .synchronized _ _ => l.synchronized f
  | .throwStmt _ =>
    let parts := l.each f.namedParts
    .node (nodeOver f (.stmt (.throwStmt (Draft.first? parts))) none) parts
  | .returnStmt _ =>
    let parts := l.each f.namedParts
    .node (nodeOver f (.stmt (.returnStmt (Draft.first? parts))) none) parts
  | form => l.whole f (.stmt form)

/-! ### Expressions -/

/-- The drafts of the arguments of a call. -/
def argumentsOf (f : Focus) : List Draft :=
  match f.partIn? "arguments" with
  | some list => l.each list.namedParts
  | none => []

/-- A call with its receiver and arguments. -/
def call (f : Focus) : Draft :=
  let receiver := ((f.partIn? "object").bind l.below).toList
  let args := l.argumentsOf f
  .node (nodeOver f
    (.expr (.call (Draft.first? receiver) (Draft.positions receiver.length args.length)))
    (l.identIn? f "name")) (receiver ++ args)

/-- A construction with its arguments and the members of its class. -/
def creation (f : Focus) : Draft :=
  let args := l.argumentsOf f
  let members := (f.namedParts.filter (·.kind == "class_body")).flatMap l.membersOf
  .node (nodeOver f (.expr (.creation (l.textIn f "type") (Draft.positions 0 args.length))) none)
    (args ++ members)

/-- A construct with an operator between two operands. -/
def infixed (f : Focus) (make : String → Option Nat → Expr) : Draft :=
  let left := (f.partIn? "left").bind l.below
  let right := (f.partIn? "right").bind l.below
  let op := f.partIn? "operator"
  let kind := match left, right with
    | some _, some _ =>
      make (l.textIn f "operator") (op.map fun o => o.range.startRow + 1)
    | _, _ => .other
  .node (nodeOver f (.expr kind) none) (left.toList ++ right.toList)

/-- A field access with its object. -/
def fieldAccess (f : Focus) : Draft :=
  let object := (f.partIn? "object").bind l.below
  .node (nodeOver f (.expr (.fieldAccess (object.map fun _ => 0))) (l.identIn? f "field"))
    object.toList

/-- A class literal, with the text of its type. -/
def classLiteral (f : Focus) : Draft :=
  let type := match f.namedParts.head? with
    | some t => l.textOf t
    | none => ""
  .node (nodeOver f (.expr (.classLiteral type)) none) []

/-- An expression in parentheses. -/
def parenthesized (f : Focus) : Draft :=
  let parts := l.each f.namedParts
  .node (nodeOver f (.expr (.parenthesized (Draft.first? parts))) none) parts

/-! ### All constructs -/

/-- The draft of a construct, unless it is folded. -/
def draft (f : Focus) : Option Draft :=
  match Construct.ofKind f.kind with
  | .folded => none
  | .typeDecl kind => l.typeDecl f kind
  | .methodDecl => l.callable f .methodDecl (l.textIn? f "type")
  | .constructorDecl => l.callable f .constructorDecl none
  | .field => l.fieldDecl f
  | .localVariable => some (.node (nodeOver f (.stmt .localVariable) none) (l.variablesOf f))
  | .resource =>
    match l.textIn? f "type" with
    | some type => l.variableOf f type
    | none => l.whole f (.other f.kind)
  | .block => l.whole f .block
  | .initializer => l.whole f (.other "initializer")
  | .enumConstant => l.enumConstant f
  | .annotationUse => some (l.annotationUse f)
  | .statement form => l.statement f form
  | .call => l.call f
  | .creation => l.creation f
  | .binary => l.infixed f fun op line => .binary op line 0 1
  | .assignment => l.infixed f fun op _ => .assignment op 0 1
  | .name => some (.node (nodeOver f (.expr .name) (some (l.identOf f))) [])
  | .fieldAccess => l.fieldAccess f
  | .string =>
    some (.node
      (nodeOver f (.expr (.stringLiteral (String.ofList (stringValue (l.charsOf f))))) none) [])
  | .classLiteral => l.classLiteral f
  | .parenthesized => l.parenthesized f
  | .lambda =>
    some (.node (nodeOver f (.expr .lambda) none) ((f.partIn? "body").bind l.below).toList)
  | .arrayInitializer => l.whole f (.expr .arrayInitializer)
  | .literal => some (.node (nodeOver f (.expr .literal) none) [])
  | .otherExpression => l.whole f (.expr .other)
  | .other => l.whole f (.other f.kind)

end Lowering

/-- The draft of a construct at most `depth` levels deep, unless it is folded. -/
def lower (source : List Char) : (depth : Nat) → Focus → Option Draft
  | 0, _ => none
  | depth + 1, f => Lowering.draft ⟨source, lower source depth⟩ f

end Excerpt.Java
