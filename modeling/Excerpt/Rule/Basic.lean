import Excerpt.Rule.Scope

/-!
# Rules

A rule says which nodes it is about, in its scope, and what a reader of the extracted code should
look at. The scope is written as a text: parts with `,`, `;` or `|` between them, each of which
should write a tag.

`ScopeReading.ofScope` goes through the parts from left to right. A part that writes a tag adds
the tag, unless it is there already; a part that is blank is passed over; and any other part is
kept apart, for whoever wants to reject it (`RuleSet.checkScopes`). A rule itself is about the
nodes that one of its tags covers, so parts that are no tags do not matter to it.

The scope is all that is stored of this. What is read from it is never out of step with it, and a
rule is equal to another just if it is written in the same way.

* `ScopeReading`: the tags and the other parts of a scope, as they are found.
* `Rule`: a rule as it is written.
* `Rule.tags`, `Rule.unknownTags`, `Rule.applies`: what the scope of a rule says.
-/

namespace Excerpt

open Text

/-- What separates the parts of a scope. -/
def isScopeSeparator (c : Char) : Bool :=
  c == ',' || c == ';' || c == '|'

/-- What is found in a scope: its tags, and the parts that are no tags. -/
structure ScopeReading where
  tags : List ScopeTag := []
  unknown : List (List Char) := []
  deriving DecidableEq, Repr

namespace ScopeReading

/-- One more part of the scope is read. A tag is added only once. -/
def add (found : ScopeReading) (part : List Char) : ScopeReading :=
  if (trim part).isEmpty then found
  else
    match ScopeTag.ofText? (trim part) with
    | some tag => if tag ∈ found.tags then found else { found with tags := found.tags ++ [tag] }
    | none => { found with unknown := found.unknown ++ [trim part] }

/-- A scope is read part by part. -/
def ofScope (scope : List Char) : ScopeReading :=
  (pieces isScopeSeparator scope).foldl add {}

end ScopeReading

/-- A rule of a rule set. -/
structure Rule where
  id : String
  scope : String := ""
  description : String := ""
  criteria : String := ""
  context : String := ""
  deriving DecidableEq, Repr

namespace Rule

/-- The tags of the scope. -/
def tags (r : Rule) : List ScopeTag :=
  (ScopeReading.ofScope r.scope.toList).tags

/-- The parts of the scope that are no tags. -/
def unknownTags (r : Rule) : List String :=
  (ScopeReading.ofScope r.scope.toList).unknown.map String.ofList

/-- The rule is about nodes of the kind. -/
def applies (r : Rule) (k : Kind) : Bool :=
  r.tags.any (·.covers k)

end Rule

end Excerpt
