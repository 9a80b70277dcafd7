import Excerpt.Yaml.Token

/-!
# Nodes of YAML

The tokens of a document are grouped to a tree of nodes. Anchors are numbered by how many names
were in use before them, and an alias stands for the last node that has its number. As a name that
is used again takes no new place among the names, the next new name gets the same number.

Each function reads one production of the grammar from the front of the tokens and fails if it is
not there. Nodes may be empty where something may be left out, and then an empty scalar stands in
their place. Collections may nest as deep as there are tokens, which the fuel bounds.

Scalars, aliases, and beginnings and ends of collections are counted on the way. The number limits
how often aliases may be replaced later on.

* `Node`: the nodes of a document.
* `Reading`, `Reader`: what is left of the tokens, and what reads them.
* `Document`: a document with the nodes that its aliases stand for.
* `document?`: the document of a text.
-/

namespace Excerpt.Yaml

/-- The nodes of a document. -/
inductive Node
  | alias (number : Nat)
  | scalar (tag : Option (List Char)) (text : List Char) (plain : Bool)
  | sequence (tag : Option (List Char)) (items : List Node)
  | mapping (tag : Option (List Char)) (entries : List (Node × Node))
  deriving Repr, Inhabited

/-- A scalar that is not written. -/
def Node.empty : Node :=
  .scalar none [] true

/-- A document as far as its tokens are read. -/
structure Reading where
  rest : List Token
  /-- What the handles of tags stand for. -/
  handles : List (List Char × List Char) := []
  /-- The numbers of the names of anchors. -/
  names : List (List Char × Nat) := []
  /-- Number of anchors. -/
  anchors : Nat := 0
  /-- The numbers of the anchors, with their positions among the anchors and their nodes. -/
  anchored : List (Nat × Nat × Node) := []
  /-- Number of scalars and aliases, and of beginnings and ends of collections. -/
  events : Nat := 0
  deriving Repr

/-- Read from the tokens, unless they are malformed. -/
abbrev Reader :=
  StateT Reading Option

namespace Reader

/-- The next token. -/
def peek : Reader (Option Token) := do
  return (← get).rest.head?

/-- Go on to the token after the next one. -/
def skip : Reader Unit :=
  modify fun r => { r with rest := r.rest.tail }

/-- The next token is one of the given ones. -/
def atOneOf (ts : List Token) : Reader Bool := do
  return (← peek).any ts.contains

/-- Go on if the next token is the given one. -/
def skipIf (t : Token) : Reader Bool := do
  if (← peek) == some t then
    skip
    return true
  else return false

/-- Go on if the next token is the given one; otherwise the tokens are malformed. -/
def expect (t : Token) : Reader Unit := do
  if !(← skipIf t) then failure

/-- Count scalars, aliases, and beginnings and ends of collections. -/
def count (n : Nat) : Reader Unit :=
  modify fun r => { r with events := r.events + n }

/-! ### Names and tags -/

/-- Give an anchor its number; the result also has its position among the anchors. -/
def anchor (name : List Char) : Reader (Nat × Nat) := do
  let r ← get
  let number := r.names.length
  set { r with names := (name, number) :: r.names.filter (·.1 != name), anchors := r.anchors + 1 }
  return (number, r.anchors)

/-- Remember the node of an anchor. -/
def remember (mark : Option (Nat × Nat)) (node : Node) : Reader Unit :=
  match mark with
  | some (number, position) =>
    modify fun r => { r with anchored := (number, position, node) :: r.anchored }
  | none => pure ()

/-- The number of the name of an alias. -/
def aliasNumber (name : List Char) : Reader Nat := do
  (← get).names.lookup name

/-- A tag with its handle replaced. -/
def resolveTag (handle suffix : List Char) : Reader (List Char) := do
  if handle.isEmpty then return suffix
  else return (← (← get).handles.lookup handle) ++ suffix

/-- The anchor before a node. -/
def anchor? : Reader (Option (List Char)) := do
  match ← peek with
  | some (.anchor name) =>
    skip
    return some name
  | _ => return none

/-- The tag before a node. -/
def tag? : Reader (Option (List Char)) := do
  match ← peek with
  | some (.tag handle suffix) =>
    skip
    return some (← resolveTag handle suffix)
  | _ => return none

/-- The anchor and the tag before a node, in any order. -/
def properties : Reader (Option (List Char) × Option (List Char)) := do
  let before ← anchor?
  let tag ← tag?
  match before, tag with
  | none, some _ => return (← anchor?, tag)
  | _, _ => return (before, tag)

/-! ### Collections -/

mutual

/-- A node. In the place of a key or a value, `listed`, a block sequence may begin without further
indentation. -/
def node : (fuel : Nat) → (block listed : Bool) → Reader Node
  | 0, _, _ => failure
  | fuel + 1, block, listed => do
    match ← peek with
    | some (.alias name) =>
      skip
      count 1
      return .alias (← aliasNumber name)
    | _ =>
      let (name, tag) ← properties
      let mark ← name.mapM anchor
      let content ← content fuel block listed (name.isSome || tag.isSome) tag
      remember mark content
      return content

/-- A node after its anchor and its tag. -/
def content : (fuel : Nat) → (block listed marked : Bool) → (tag : Option (List Char)) → Reader Node
  | 0, _, _, _, _ => failure
  | fuel + 1, block, listed, marked, tag => do
    match ← peek with
    | some (.scalar text plain) =>
      skip
      count 1
      return .scalar (tag.filter (· != ['!'])) text plain
    | some .flowSequenceStart =>
      skip
      count 2
      return .sequence tag (← flowItems fuel true)
    | some .flowMappingStart =>
      skip
      count 2
      return .mapping tag (← flowEntries fuel true)
    | t =>
      if listed && t == some .blockEntry then
        count 2
        return .sequence tag (← listedItems fuel)
      else if block && t == some .blockSequenceStart then
        skip
        count 2
        return .sequence tag (← blockItems fuel)
      else if block && t == some .blockMappingStart then
        skip
        count 2
        return .mapping tag (← blockEntries fuel)
      else if marked then
        count 1
        return .scalar tag [] true
      else failure

/-- A node, or an empty scalar if the next token is one of those that follow it. -/
def nodeBefore : (fuel : Nat) → (block listed : Bool) → (followers : List Token) → Reader Node
  | 0, _, _, _ => failure
  | fuel + 1, block, listed, followers => do
    if ← atOneOf followers then
      count 1
      return .empty
    else node fuel block listed

/-- The items of a block sequence. -/
def blockItems : (fuel : Nat) → Reader (List Node)
  | 0 => failure
  | fuel + 1 => do
    if ← skipIf .blockEntry then
      let item ← nodeBefore fuel true false [.blockEntry, .blockEnd]
      return item :: (← blockItems fuel)
    else
      expect .blockEnd
      return []

/-- The items of a block sequence that has the indentation of the mapping around it. -/
def listedItems : (fuel : Nat) → Reader (List Node)
  | 0 => failure
  | fuel + 1 => do
    if ← skipIf .blockEntry then
      let item ← nodeBefore fuel true false [.blockEntry, .key, .value, .blockEnd]
      return item :: (← listedItems fuel)
    else return []

/-- The entries of a block mapping. -/
def blockEntries : (fuel : Nat) → Reader (List (Node × Node))
  | 0 => failure
  | fuel + 1 => do
    if ← skipIf .key then
      let key ← nodeBefore fuel true true [.key, .value, .blockEnd]
      let value ← optionalValue fuel true [.key, .value, .blockEnd]
      return (key, value) :: (← blockEntries fuel)
    else
      expect .blockEnd
      return []

/-- The value of a key, which may be left out. -/
def optionalValue : (fuel : Nat) → (block : Bool) → (followers : List Token) → Reader Node
  | 0, _, _ => failure
  | fuel + 1, block, followers => do
    if ← skipIf .value then nodeBefore fuel block block followers
    else
      count 1
      return .empty

/-- The items of a flow sequence. -/
def flowItems : (fuel : Nat) → (first : Bool) → Reader (List Node)
  | 0, _ => failure
  | fuel + 1, first => do
    if ← skipIf .flowSequenceEnd then return []
    if !first then expect .flowEntry
    if ← skipIf .key then
      let entry ← flowPair fuel
      return .mapping none [entry] :: (← flowItems fuel false)
    else if ← skipIf .flowSequenceEnd then return []
    else
      let item ← node fuel false false
      return item :: (← flowItems fuel false)

/-- A key and a value that are an item of a flow sequence. An empty key takes the token after it
away. -/
def flowPair : (fuel : Nat) → Reader (Node × Node)
  | 0 => failure
  | fuel + 1 => do
    count 2
    let bare ← atOneOf [.value, .flowEntry, .flowSequenceEnd]
    let key ← nodeBefore fuel false false [.value, .flowEntry, .flowSequenceEnd]
    if bare then skip
    let value ← optionalValue fuel false [.flowEntry, .flowSequenceEnd]
    return (key, value)

/-- The entries of a flow mapping. -/
def flowEntries : (fuel : Nat) → (first : Bool) → Reader (List (Node × Node))
  | 0, _ => failure
  | fuel + 1, first => do
    if ← skipIf .flowMappingEnd then return []
    if !first then expect .flowEntry
    if ← skipIf .key then
      let key ← nodeBefore fuel false false [.value, .flowEntry, .flowMappingEnd]
      let value ← optionalValue fuel false [.flowEntry, .flowMappingEnd]
      return (key, value) :: (← flowEntries fuel false)
    else if ← skipIf .flowMappingEnd then return []
    else
      let key ← node fuel false false
      count 1
      return (key, .empty) :: (← flowEntries fuel false)

end

/-! ### Documents -/

/-- The directives before a document. -/
def directives : (fuel : Nat) → (versioned : Bool) → Reader Unit
  | 0, _ => pure ()
  | fuel + 1, versioned => do
    match ← peek with
    | some (.version major minor) =>
      if versioned || major != 1 || !(minor == 1 || minor == 2) then failure
      skip
      directives fuel true
    | some (.tagHandle handle start) =>
      if ((← get).handles.lookup handle).isSome then failure
      skip
      modify fun r => { r with handles := r.handles ++ [(handle, start)] }
      directives fuel versioned
    | _ => pure ()

/-- The handles that need no directive. -/
def standardHandles : List (List Char × List Char) :=
  [(['!'], ['!']), (['!', '!'], "tag:yaml.org,2002:".toList)]

/-- The end of the text after the first document. -/
def ending : (fuel : Nat) → Reader Unit
  | 0 => failure
  | fuel + 1 => do
    if ← skipIf .documentEnd then ending fuel
    else expect .streamEnd

/-- The only document of a text, if it has one. -/
def document : Reader (Option Node) := do
  let size := 4 * (← get).rest.length + 4
  if ← atOneOf [.streamEnd] then return none
  let before := (← get).rest.length
  directives size false
  modify fun r => { r with handles := r.handles ++ standardHandles }
  let directed := (← get).rest.length != before
  let started ← skipIf .documentStart
  if directed && !started then failure
  let bare := match ← peek with
    | some (.version ..) | some (.tagHandle ..) | some .documentStart | some .documentEnd
      | some .streamEnd => true
    | _ => false
  let root ←
    if started && bare then
      count 1
      pure .empty
    else node size true false
  ending size
  return some root

end Reader

/-- A document with the nodes that its aliases stand for. -/
structure Document where
  root : Node
  /-- The numbers of the anchors, with their positions among the anchors and their nodes. -/
  anchored : List (Nat × Nat × Node)
  /-- Number of scalars and aliases, and of beginnings and ends of collections. -/
  events : Nat
  deriving Repr

/-- The node that an alias stands for: the last one with its number. -/
def Document.target? (d : Document) (number : Nat) : Option Node :=
  let later (best : Option (Nat × Node)) (a : Nat × Nat × Node) : Option (Nat × Node) :=
    if a.1 == number && best.all (·.1 < a.2.1) then some a.2 else best
  (d.anchored.foldl later none).map (·.2)

/-- The document of a text, with an empty scalar for none, unless the text is malformed or has
several documents. -/
def document? (text : List Char) : Option Document := do
  let (root, r) ← Reader.document.run { rest := ← tokens? text }
  return ⟨root.getD .empty, r.anchored, r.events⟩

end Excerpt.Yaml
