import Excerpt.Files.Basic
import Excerpt.Rule.Yaml

/-!
# Rule files

Rules are kept in a file, in one of two notations. In YAML a rule file may have settings; as
comma-separated values it has rules only, one on a line below a header, and all settings have
their defaults. The name of the file says which one it is.

A row has five fields, and the last one keeps the commas inside it. Lines with fewer fields are
passed over, and so are blank ones, for they often come from editing by hand.

Scopes are checked when a rule set is loaded, if it asks for it. All other checks are left to its
use.

* `RuleSet.ofCsv`: the rule set of a text with a header.
* `RuleSet.ofText`: the rule set of a text, in the notation of its file.
* `RuleSet.load`: the rule set in a file.
-/

namespace Excerpt

open Text

/-! ### Comma-separated values -/

/-- The rule on a line. -/
def ruleOfLine? (line : List Char) : Option Rule :=
  match (piecesUpTo ',' 4 line).map fun field => String.ofList (trim field) with
  | [id, scope, description, criteria, context] => some ⟨id, scope, description, criteria, context⟩
  | _ => none

/-- The rules of a text with a header. -/
def rulesOfCsv (text : List Char) : List Rule :=
  (((lines text).filter (!isBlankText ·)).drop 1).filterMap ruleOfLine?

/-- The rule set of a text with a header. -/
def RuleSet.ofCsv (text : String) : RuleSet where
  rules := rulesOfCsv text.toList

/-! ### Files -/

/-- The name of the file says that it holds comma-separated values. -/
def isCsvPath (path : String) : Bool :=
  (Path.extension? path).any fun e => e.toLower == "csv"

/-- The rule set of a text from the file at a path. -/
def RuleSet.ofText (path text : String) : Except RuleError RuleSet :=
  if isCsvPath path then (RuleSet.ofCsv text).checkScopes else RuleSet.ofYaml path text

/-- Load the rule set in a file. -/
def RuleSet.load (files : FileSystem) (path : String) : Except RuleError RuleSet :=
  match files.read path with
  | .ok text => RuleSet.ofText path text
  | .error e => .error (.unreadable path e)

end Excerpt
