import Excerpt.Yaml.Node
import Excerpt.Yaml.Number

/-!
# Values of YAML

A document stands for a value. What a plain scalar stands for shows in its text, unless it has a
tag. Aliases are replaced by the nodes they stand for, to a limited depth and a limited number of
times. The keys of a mapping are pairwise different.

The limits keep a short text from standing for a huge value. The number of replacements is limited
in proportion to the number of nodes that were written.

Keys are compared as values: mappings are the same whatever the order of their entries, and
numbers are the same if they are equal, where the undefined number equals itself.

* `Value`: the values of documents.
* `Value.same`: when two values are the same.
* `scalarValue`: what a scalar stands for.
* `value?`: the value of a text, unless it is malformed.
-/

namespace Excerpt.Yaml

/-- The values of documents. -/
inductive Value
  | null
  | bool (b : Bool)
  | integer (n : Int)
  | float (x : Float)
  | string (s : String)
  | sequence (items : List Value)
  | mapping (entries : List (Value × Value))
  | tagged (tag : String) (content : Value)
  deriving Repr, Inhabited

namespace Value

/-- The numbers are the same; so are any two that are undefined. -/
def sameFloat (x y : Float) : Bool :=
  x == y || (x.isNaN && y.isNaN)

mutual

/-- The values are the same. The order of the entries of a mapping does not matter. -/
def same : Value → Value → Bool
  | .null, .null => true
  | .bool a, .bool b => a == b
  | .integer a, .integer b => a == b
  | .float a, .float b => sameFloat a b
  | .string a, .string b => a == b
  | .sequence as, .sequence bs => sameItems as bs
  | .mapping as, .mapping bs => as.length == bs.length && sameEntries as bs
  | .tagged s a, .tagged t b => s == t && same a b
  | _, _ => false

/-- The values are pairwise the same. -/
def sameItems : List Value → List Value → Bool
  | [], [] => true
  | a :: as, b :: bs => same a b && sameItems as bs
  | _, _ => false

/-- Every entry of the first list is in the second one. -/
def sameEntries : List (Value × Value) → List (Value × Value) → Bool
  | [], _ => true
  | (k, v) :: as, bs => bs.any (fun b => same k b.1 && same v b.2) && sameEntries as bs

end

/-- Some key occurs twice. -/
def hasRepeatedKey : List (Value × Value) → Bool
  | [] => false
  | (k, _) :: es => es.any (fun e => same k e.1) || hasRepeatedKey es

/-- The value without a tag. -/
def untagged : Value → Value
  | .tagged _ v => v
  | v => v

end Value

/-! ### Scalars -/

/-- The text of nothing. -/
def isNull (text : List Char) : Bool :=
  ["null", "Null", "NULL", "~"].contains (String.ofList text)

/-- The truth value that a text stands for. -/
def bool? (text : List Char) : Option Bool :=
  let word := String.ofList text
  if ["true", "True", "TRUE"].contains word then some true
  else if ["false", "False", "FALSE"].contains word then some false
  else none

/-- The value of a whole number. Those that need more than 64 bits are refused. -/
def integerValue? (n : Int) : Option Value :=
  if -9223372036854775808 ≤ n && n < 18446744073709551616 then some (.integer n) else none

/-- The number needs no more than 128 bits. -/
def isWide (n : Int) : Bool :=
  -170141183460469231731687303715884105728 ≤ n && n < 340282366920938463463374607431768211456

/-- The whole number that a text stands for, if it needs no more than 128 bits. -/
def integer? (text : List Char) : Option Int :=
  (wholeNumber? text).filter isWide

/-- The value of a plain scalar without a tag. -/
def plainValue (text : List Char) : Option Value :=
  if text.isEmpty || isNull text then some .null
  else match bool? text with
    | some b => some (.bool b)
    | none =>
      match integer? text with
      | some n => integerValue? n
      | none =>
        match (if hasLeadingZero text then none else float? text) with
        | some x => some (.float x)
        | none => some (.string (String.ofList text))

/-- The value of a scalar. -/
def scalarValue (text : List Char) (plain : Bool) : Option Value :=
  if plain then plainValue text else some (.string (String.ofList text))

/-- The value of a scalar with a tag that is not the writer's own. -/
def standardValue (tag : List Char) (text : List Char) : Option Value :=
  let name := String.ofList tag
  if name == "tag:yaml.org,2002:bool" then (bool? text).map .bool
  else if name == "tag:yaml.org,2002:int" then (integer? text).bind integerValue?
  else if name == "tag:yaml.org,2002:float" then (float? text).map .float
  else if name == "tag:yaml.org,2002:null" then if isNull text then some .null else none
  else some (.string (String.ofList text))

/-- The name of a tag of the writer's own. -/
def ownTag? (tag : Option (List Char)) : Option (List Char) :=
  match tag with
  | some ('!' :: '!' :: c :: name) => some (c :: name)
  | some ('!' :: name) => some name
  | _ => none

/-- A value with a tag of the writer's own, which must not be empty. -/
def tagWith (tag : Option (List Char)) (v : Value) : Option Value :=
  match ownTag? tag with
  | some [] => none
  | some name => some (.tagged (String.ofList name) v)
  | none => some v

/-! ### Documents -/

/-- The number of collections that may be nested. -/
def maxDepth : Nat := 128

/-- How often an alias may be replaced for each event. -/
def maxRepetition : Nat := 100

/-- Values with the number of aliases replaced so far. -/
abbrev Expansion :=
  StateT Nat Option

namespace Document

variable (d : Document)

/-- The node, or the one that it stands for. -/
def resolve (n : Node) : Expansion Node :=
  match n with
  | .alias number => do
    let used ← get
    if maxRepetition * d.events ≤ used then failure
    set (used + 1)
    d.target? number
  | n => pure n

/-- The value of a node, inside of which `depth` collections may be nested. -/
def valueOf : (depth : Nat) → Node → Expansion Value
  | depth, n => do
    match depth, ← d.resolve n with
    | _, .alias _ => failure
    | _, .scalar tag text plain =>
      match tag with
      | some t =>
        if (ownTag? tag).isSome then tagWith tag (← scalarValue text plain)
        else standardValue t text
      | none => scalarValue text plain
    | 0, _ => failure
    | depth + 1, .sequence tag items => tagWith tag (.sequence (← items.mapM (valueOf depth)))
    | depth + 1, .mapping tag entries =>
      let values ← entries.mapM fun e => do return (← valueOf depth e.1, ← valueOf depth e.2)
      if Value.hasRepeatedKey values then failure
      tagWith tag (.mapping values)

end Document

/-- The value of a text, unless it is malformed. -/
def value? (text : List Char) : Option Value := do
  let d ← document? text
  return (← (d.valueOf maxDepth d.root).run 0).1

end Excerpt.Yaml
