import Excerpt.Text.Basic

/-!
# Paths

A path is a text of components between slashes. Empty components and single dots say nothing,
except that a path may begin with a slash or a dot. A step to the parent is a component like any
other and is not taken back.

Two views of a path are needed. Its components are what it is compared and ordered by
(`Path.components`, `Path.le`); its steps are what someone who follows it does, where every piece
counts (`Path.steps`): whoever goes on to a dot has to be in a directory.

* `Path.components`, `Path.steps`: the two views.
* `Path.fileName?`, `Path.extension?`: the last component and its ending.
* `Path.le`: the order of paths, component by component.
* `Path.join`: a path below another one.
-/

namespace Excerpt.Path

open Text

/-- A component of a path. -/
inductive Component
  | root
  | current
  | parent
  | name (text : String)
  deriving DecidableEq, Repr

/-- What a piece of a path between slashes says. -/
def componentOf? (piece : List Char) : Option Component :=
  if piece = [] ∨ piece = ['.'] then none
  else if piece = ['.', '.'] then some .parent
  else some (.name (String.ofList piece))

/-- The components of a path. -/
def components (path : String) : List Component :=
  let parts := pieces (· == '/') path.toList
  let start := match path.toList, parts with
    | '/' :: _, _ => [.root]
    | _, ['.'] :: _ => [.current]
    | _, _ => []
  start ++ parts.filterMap componentOf?

/-- What every piece of a path says to someone who follows it. -/
def steps (path : String) : List Component :=
  let parts := pieces (· == '/') path.toList
  let start := if path.toList.head? == some '/' then [.root] else []
  start ++ parts.map fun p => (componentOf? p).getD .current

/-- The last component, if it is a name. -/
def fileName? (path : String) : Option String :=
  match (components path).getLast? with
  | some (.name text) => some text
  | _ => none

/-- What follows the last dot of the file name, if something stands before it. -/
def extension? (path : String) : Option String :=
  (fileName? path).bind fun name =>
    let ending := afterLast '.' name.toList
    if ending.length + 1 < name.length then some (String.ofList ending) else none

/-- The rank of a component among those that are different. -/
def Component.key : Component → Nat × String
  | root => (0, "")
  | current => (1, "")
  | parent => (2, "")
  | name text => (3, text)

/-- The first component comes no later than the second. -/
def Component.le (a b : Component) : Bool :=
  a.key.1 < b.key.1 || (a.key.1 == b.key.1 && decide (a.key.2 ≤ b.key.2))

/-- Components in the order of a dictionary. -/
def componentsLe : List Component → List Component → Bool
  | [], _ => true
  | _ :: _, [] => false
  | a :: as, b :: bs => if a = b then componentsLe as bs else a.le b

/-- The first path comes no later than the second, component by component. -/
def le (a b : String) : Bool :=
  componentsLe (components a) (components b)

/-- The names of a path below another one, with slashes between them. -/
def ofNames (names : List String) : String :=
  "/".intercalate names

/-- A path below another one. -/
def join (base rest : String) : String :=
  if base.isEmpty || base.toList.getLast? == some '/' then base ++ rest else base ++ "/" ++ rest

/-- A path below another one, name by name. -/
def joinAll (base : String) (names : List String) : String :=
  names.foldl join base

end Excerpt.Path
