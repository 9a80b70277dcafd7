import Excerpt.Files.Basic
import Excerpt.Rule.Basic
import Excerpt.Rule.Settings
import Excerpt.Text.Printable

/-!
# Rule sets

A rule set is a list of rules with settings. `RuleSet.checkScopes` is done whenever a rule set is
loaded, `RuleSet.validate` when it is used. Both stop at the first error, and all that is wrong is
said in terms of the rule set: the rule, the name or the pattern that is at fault.

Bindings and patterns are always checked, scopes only if the rule set is strict. Which patterns
are valid is up to the notation for patterns (`PathPatterns`), and which names are known to
whoever uses the rule set.

* `RuleSet`: rules with settings.
* `RuleError`: why a rule set cannot be used.
* `RuleSet.checkScopes`, `RuleSet.validate`: the checks.
-/

namespace Excerpt

/-- Rules with settings. -/
structure RuleSet where
  rules : List Rule := []
  settings : Settings := {}
  deriving Repr

/-- Why a rule set cannot be used. -/
inductive RuleError
  | unreadable (path : String) (cause : FileError)
  | malformed (path : String)
  | unknownScope (rule tag : String)
  | unknownDetector (rule detector : String)
  | badPattern (pattern : String) (fault : Glob.Fault)
  deriving DecidableEq, Repr

/-- The error in words. -/
def RuleError.message : RuleError → String
  | unreadable path cause => "failed to read rule file " ++ path ++ ": " ++ cause.message
  | malformed path => "invalid rule file " ++ path ++ ": not a rule set"
  | unknownScope rule tag => "rule " ++ rule ++ ": unknown scope tag " ++ Text.quoted tag
  | unknownDetector rule detector =>
    "binding for " ++ rule ++ " names unknown detector " ++ Text.quoted detector
  | badPattern pattern fault =>
    "invalid excluded_paths pattern " ++ Text.quoted pattern ++ ": " ++ fault.message pattern

/-- The first error among those of the elements of a list. -/
def firstError {α ε : Type} (check : α → Option ε) (xs : List α) : Except ε Unit :=
  match xs.findSome? check with
  | some e => .error e
  | none => .ok ()

namespace RuleSet

variable (set : RuleSet)

/-- A part of the scope that is no tag. -/
def scopeError? (r : Rule) : Option RuleError :=
  r.unknownTags.head?.map (.unknownScope r.id)

/-- The rule set, unless it is strict and the scope of some rule has a part that is no tag. -/
def checkScopes : Except RuleError RuleSet :=
  match (if set.settings.strictScopes then set.rules.findSome? scopeError? else none) with
  | some e => .error e
  | none => .ok set

/-- A name that a rule is bound to and that is not known. -/
def bindingError? (known : List String) (entry : String × List String) : Option RuleError :=
  (entry.2.find? (!known.contains ·)).map (.unknownDetector entry.1)

/-- A fault of a pattern. -/
def patternError? [PathPatterns] (pattern : String) : Option RuleError :=
  match PathPatterns.compile pattern with
  | .ok _ => none
  | .error fault => some (.badPattern pattern fault)

/-- A scope without any tag. -/
def emptyScopeError? (r : Rule) : Option RuleError :=
  if r.tags.isEmpty then some (.unknownScope r.id r.scope) else none

/-- Check that bindings name known detectors, that patterns are valid, and, if the rule set is
strict, that every rule has a tag. -/
def validate [PathPatterns] (known : List String) : Except RuleError Unit := do
  firstError (bindingError? known) set.settings.bindings.entries
  firstError patternError? set.settings.excludedPaths
  if set.settings.strictScopes then firstError emptyScopeError? set.rules

end RuleSet

end Excerpt
