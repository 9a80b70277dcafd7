import Excerpt.Rule.Set
import Excerpt.Yaml.Value

/-!
# Rule files in YAML

A rule file holds a mapping with rules and settings, or only a list of rules. Members that are not
known are ignored, and those that are known may occur once. Where a list or a mapping is expected,
nothing counts as an empty one.

Values are read by functions that fail where a value is of another sort (`stringIn`, `natIn`,
`listIn`). A member that is left out has a default or is left open; one that is there has to be
right. There are no messages for what is wrong inside a file, only that it is.

* `ruleIn`, `settingsIn`, `bindingsIn`: the parts of a rule file.
* `RuleSet.ofYaml?`: the rule set of a text.
* `RuleSet.ofYaml`: the same with an error that names the file.
-/

namespace Excerpt

open Text Yaml

/-! ### Parts of values -/

/-- The string in a value. -/
def stringIn (v : Value) : Option String :=
  match v.untagged with
  | .string s => some s
  | _ => none

/-- The truth value in a value. -/
def boolIn (v : Value) : Option Bool :=
  match v.untagged with
  | .bool b => some b
  | _ => none

/-- The number in a value; it is not negative. -/
def natIn (v : Value) : Option Nat :=
  match v.untagged with
  | .integer n => n.toNat?
  | _ => none

/-- The list in a value, read item by item. -/
def listIn {α : Type} (read : Value → Option α) (v : Value) : Option (List α) :=
  match v.untagged with
  | .sequence items => items.mapM read
  | .null => some []
  | _ => none

/-- The entries of the mapping in a value. -/
def entriesIn (v : Value) : Option (List (Value × Value)) :=
  match v.untagged with
  | .mapping entries => some entries
  | .null => some []
  | _ => none

/-- The members of the mapping in a value, whose keys are strings. Each of the known names may
occur once. -/
def membersIn (known : List String) (v : Value) : Option (List (String × Value)) := do
  let members ← (← entriesIn v).mapM fun e => do return (← stringIn e.1, e.2)
  let names := (members.map (·.1)).filter known.contains
  if names.Nodup then return members else none

/-- The member with a name, or a default if there is none. -/
def member {α : Type} (name : String) (read : Value → Option α) (default : α)
    (members : List (String × Value)) :
    Option α :=
  match members.lookup name with
  | some v => read v
  | none => some default

/-- What is read from a value, or nothing from nothing. -/
def optional {α : Type} (read : Value → Option α) (v : Value) : Option (Option α) :=
  match v with
  | .null => some none
  | v => (read v).map some

/-! ### Rules and settings -/

/-- The rule in a value. -/
def ruleIn (v : Value) : Option Rule := do
  let ms ← membersIn ["id", "scope", "description", "criteria", "context"] v
  return {
    id := ← stringIn (← ms.lookup "id")
    scope := ← member "scope" stringIn "" ms
    description := ← member "description" stringIn "" ms
    criteria := ← member "criteria" stringIn "" ms
    context := ← member "context" stringIn "" ms }

/-- The continuation with a name. -/
def continuationNamed? (name : String) : Option Continuation :=
  [Continuation.anyBreak, .trailingOperator].find? (·.label == name)

/-- The continuation in a value: a string, or a tag without content. -/
def continuationIn (v : Value) : Option Continuation :=
  match v with
  | .string s => continuationNamed? s
  | .tagged name .null => continuationNamed? name
  | _ => none

/-- The settings for long statements in a value. -/
def longStatementIn (v : Value) : Option LongStatementSettings := do
  let ms ← membersIn ["max_length", "continuation", "outermost_only"] v
  return {
    maxLength? := ← member "max_length" (optional natIn) none ms
    continuation? := ← member "continuation" (optional continuationIn) none ms
    outermostOnly? := ← member "outermost_only" (optional boolIn) none ms }

/-- The bindings in a value. -/
def bindingsIn (v : Value) : Option Bindings := do
  let entries ← (← entriesIn v).mapM fun e => do return (← stringIn e.1, ← listIn stringIn e.2)
  return .ofList entries

/-- The names of the settings. -/
def settingNames : List String :=
  ["long_statement", "linear_scan_types", "lock_types", "thread_types", "thread_name_setter",
    "log_methods", "base_mapping_annotation", "mapping_suffix", "strict_scopes",
    "tolerate_syntax_errors", "bindings", "excluded_paths"]

/-- The settings in a value. -/
def settingsIn (v : Value) : Option Settings := do
  let ms ← membersIn settingNames v
  let strings := optional (listIn stringIn)
  let string := optional stringIn
  return {
    longStatement := ← member "long_statement" longStatementIn {} ms
    linearScanTypes? := ← member "linear_scan_types" strings none ms
    lockTypes? := ← member "lock_types" strings none ms
    threadTypes? := ← member "thread_types" strings none ms
    threadNameSetter? := ← member "thread_name_setter" string none ms
    logMethods? := ← member "log_methods" strings none ms
    baseMapping? := ← member "base_mapping_annotation" string none ms
    mappingSuffix? := ← member "mapping_suffix" string none ms
    strictScopes := ← member "strict_scopes" boolIn false ms
    tolerateSyntaxErrors := ← member "tolerate_syntax_errors" boolIn false ms
    bindings := ← member "bindings" bindingsIn .empty ms
    excludedPaths := ← member "excluded_paths" (listIn stringIn) [] ms }

/-- The rule set in a value. -/
def ruleSetIn (v : Value) : Option RuleSet :=
  match v with
  | .sequence items => do return { rules := ← items.mapM ruleIn }
  | v => do
    let ms ← membersIn ["rules", "settings"] v
    return {
      rules := ← member "rules" (listIn ruleIn) [] ms
      settings := ← member "settings" settingsIn {} ms }

namespace RuleSet

/-- The rule set of a text in YAML, unless it is malformed. -/
def ofYaml? (text : String) : Option RuleSet :=
  if isBlankText text.toList then some {} else (value? text.toList).bind ruleSetIn

/-- The rule set of a text in YAML from the file at `path`. -/
def ofYaml (path text : String) : Except RuleError RuleSet :=
  match ofYaml? text with
  | some set => set.checkScopes
  | none => .error (.malformed path)

end RuleSet

end Excerpt
