/-!
# Modifiers of declarations

The modifiers that signatures and rules ask for. Each one has a keyword, and is read back from it
(`Modifier.ofKeyword?_keyword`); other words among the modifiers of a declaration are dropped when
a source is lowered.

* `Modifier`: the modifiers of declarations.
* `Modifier.keyword`, `Modifier.ofKeyword?`: modifiers as they are written.
* `Modifier.isAccess`: those that say who may use a declaration.
-/

namespace Excerpt

/-- The modifiers of declarations. -/
inductive Modifier
  | publicAccess
  | protectedAccess
  | privateAccess
  | static
  | abstract
  | final
  | native
  | synchronized
  | transient
  | volatile
  | strictfp
  | default
  | sealed
  | nonSealed
  deriving DecidableEq, Repr

namespace Modifier

/-- The keyword of a modifier. -/
def keyword : Modifier → String
  | publicAccess => "public"
  | protectedAccess => "protected"
  | privateAccess => "private"
  | static => "static"
  | abstract => "abstract"
  | final => "final"
  | native => "native"
  | synchronized => "synchronized"
  | transient => "transient"
  | volatile => "volatile"
  | strictfp => "strictfp"
  | default => "default"
  | sealed => "sealed"
  | nonSealed => "non-sealed"

/-- All modifiers. -/
def all : List Modifier :=
  [publicAccess, protectedAccess, privateAccess, static, abstract, final, native,
   synchronized, transient, volatile, strictfp, default, sealed, nonSealed]

/-- The modifier with the given keyword. -/
def ofKeyword? (s : String) : Option Modifier :=
  all.find? (·.keyword == s)

/-- The modifiers that say who may use a declaration. -/
def isAccess : Modifier → Bool
  | publicAccess | protectedAccess | privateAccess => true
  | _ => false

/-- A modifier is read back from its keyword. -/
theorem ofKeyword?_keyword (m : Modifier) : ofKeyword? m.keyword = some m := by
  cases m <;> decide

end Modifier

end Excerpt
