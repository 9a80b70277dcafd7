import Excerpt.Rule.Basic

/-!
# Templates for rule files

Each template is the text of a rule file with some of the rules that there are detectors for. The
rules of a template are values of the same type as those that are read from a rule file, and are
written by one function (`Rule.templateLines`), so a template holds what it is meant to hold. The
full template also spells out the settings.

* `guidelines`: the rules that there are detectors for, with neutral guidelines.
* `minimalTemplate`, `fullTemplate`: the templates.
* `templates`: all of them; the first is the default.
-/

namespace Excerpt

/-- The text of a rule file to begin with. -/
structure Template where
  name : String
  description : String
  content : String
  deriving Repr

/-- The rules that there are detectors for, with neutral guidelines. -/
def guidelines : List Rule :=
  [
    ⟨"RULE-001", "CLASS_DECLARATION", "Class names use UpperCamelCase",
      "Every word of the name starts with an upper-case letter; no underscores", ""⟩,
    ⟨"RULE-002", "METHOD_DECLARATION", "Method names use lowerCamelCase",
      "The first word is lower case, later words start with an upper-case letter", ""⟩,
    ⟨"RULE-003", "VARIABLE_DECLARATION", "Variable names use lowerCamelCase",
      "Constants excepted, names are lowerCamelCase and contain no underscores", ""⟩,
    ⟨"RULE-004", "JAVADOC", "Classes and public methods are documented",
      "A javadoc comment precedes every class and every public or protected method", ""⟩,
    ⟨"RULE-005", "METHOD_DECLARATION", "Method documentation describes the behavior",
      "The javadoc explains what the method does, not how", ""⟩,
    ⟨"RULE-006", "METHOD_DECLARATION", "Method documentation describes the parameters",
      "Every parameter has an @param entry with a meaningful description", ""⟩,
    ⟨"RULE-007", "METHOD_DECLARATION", "Method documentation describes the return value",
      "Non-void methods have an @return entry", ""⟩,
    ⟨"RULE-008", "METHOD_DECLARATION", "Method documentation describes thrown exceptions",
      "Declared exceptions have an @throws entry explaining when they occur", ""⟩,
    ⟨"RULE-009", "CLASS_DECLARATION", "Request paths are lower case and hyphenated",
      "Path segments use lower-case words separated by hyphens", ""⟩,
    ⟨"RULE-010", "CLASS_DECLARATION", "Overloads are kept together",
      "Constructors and methods sharing a name are declared next to each other", ""⟩,
    ⟨"RULE-011", "CLASS_DECLARATION", "Abstract class names start with Abstract or Base",
      "Abstract classes are named AbstractXxx or BaseXxx", ""⟩,
    ⟨"RULE-012", "CLASS_DECLARATION", "Exception class names end with Exception",
      "Classes extending an exception type are named XxxException", ""⟩,
    ⟨"RULE-013", "CLASS_DECLARATION", "Test class names end with Test",
      "Test classes are named after the class under test plus Test", ""⟩,
    ⟨"RULE-014", "CLASS_DECLARATION", "Interfaces declare only constants",
      "Interface fields are initialized with literals and named in UPPER_SNAKE_CASE", ""⟩,
    ⟨"RULE-015", "VARIABLE_DECLARATION", "Boolean fields are not prefixed with is",
      "Boolean names do not start with is, which breaks some serializers", ""⟩,
    ⟨"RULE-017", "METHOD_DECLARATION", "Method names start with a verb",
      "The first word of a method name is a verb", ""⟩,
    ⟨"RULE-018", "FIELD_DECLARATION", "Accessors contain no business logic",
      "Getters return the field and setters assign it, nothing else", ""⟩,
    ⟨"RULE-019", "FIELD_DECLARATION", "Accessor names match their field",
      "setX and getX (or isX) refer to field x", ""⟩,
    ⟨"RULE-020", "VARIABLE_DECLARATION", "Names avoid abbreviations",
      "Words in a name are spelled out unless the abbreviation is well known", ""⟩,
    ⟨"RULE-021", "METHOD_DECLARATION", "Names are meaningful English words",
      "Every token of the name is an English word related to its purpose", ""⟩,
    ⟨"RULE-022", "CLASS_DECLARATION", "Class members follow a fixed order",
      "Fields come first, then constructors, then methods", ""⟩,
    ⟨"RULE-023", "LONGSTATEMENT_DECLARATION", "Long statements are wrapped before operators",
      "Lines are at most 80 characters and continuation lines start with the operator", ""⟩,
    ⟨"RULE-024", "THROW_DECLARATION", "Thrown exceptions carry a descriptive message",
      "The message explains what failed and with which input", ""⟩,
    ⟨"RULE-025", "THROW_DECLARATION", "Exceptions thrown through a variable carry a message",
      "The exception assigned to the variable is created with a descriptive message", ""⟩,
    ⟨"RULE-026", "FIELD_DECLARATION", "Constants are named in UPPER_SNAKE_CASE",
      "static final fields use upper-case words separated by underscores", ""⟩,
    ⟨"RULE-027", "METHOD_DECLARATION", "No linear lookups inside loops",
      "contains on a List inside a loop is replaced by a Set lookup", ""⟩,
    ⟨"RULE-028", "METHOD_DECLARATION", "Loop bodies stay light",
      "Loops do not create connections, compile patterns or catch exceptions per iteration", ""⟩,
    ⟨"RULE-029", "THREAD_DECLARATION", "Threads have meaningful names",
      "Thread names identify the pool or task they run", ""⟩,
    ⟨"RULE-030", "LOCK_DECLARATION", "Locks are as narrow as possible",
      "Prefer block locks on private objects to synchronized methods and class locks", ""⟩,
    ⟨"RULE-031", "LOG_DECLARATION", "Warning and error logs carry enough context",
      "The message names the operation and the identifiers involved", ""⟩]

/-- Lines of text. -/
def textOfLines (lines : List String) : String :=
  String.join (lines.map (· ++ "\n"))

/-- A rule as it is written in a rule file. -/
def Rule.templateLines (r : Rule) : List String :=
  ["  - id: " ++ r.id, "    scope: " ++ r.scope, "    description: " ++ r.description,
    "    criteria: " ++ r.criteria, "    context: \"\""]

/-- Rules as they are written in a rule file, with a blank line between them. -/
def rulesLines : List Rule → List String
  | [] => []
  | [r] => r.templateLines
  | r :: rs => r.templateLines ++ "" :: rulesLines rs

/-- A few rules to begin with. -/
def minimalTemplate : Template where
  name := "minimal"
  description := "A few naming, exception and logging rules to start from"
  content := textOfLines ([
    "# rulesnip rule set: minimal",
    "#",
    "# Each rule names a scope (the node kinds it applies to) and carries the",
    "# description and criteria handed to the reviewer with every snippet.",
    "# Run: rulesnip extract src/main/java --rules rulesnip.yaml",
    "",
    "rules:"] ++
    rulesLines (guidelines.filter fun r =>
      ["RULE-001", "RULE-002", "RULE-024", "RULE-031"].contains r.id))

/-- All rules and all settings. -/
def fullTemplate : Template where
  name := "full"
  description := "Every built-in rule with all settings spelled out"
  content := textOfLines ([
    "# rulesnip rule set: full",
    "#",
    "# Every built-in rule. Remove the ones your team does not review, and adjust",
    "# descriptions and criteria to your own guidelines.",
    "# Run: rulesnip extract src/main/java --rules rulesnip.yaml",
    "",
    "rules:"] ++
    rulesLines guidelines ++ [
    "",
    "settings:",
    "  long_statement:",
    "    max_length: 80",
    "    continuation: any-break",
    "    outermost_only: true",
    "  linear_scan_types: [List, ArrayList, LinkedList, CopyOnWriteArrayList]",
    "  lock_types: [ReentrantLock]",
    "  thread_types: [Thread]",
    "  thread_name_setter: setName",
    "  log_methods: [warn, error]",
    "  base_mapping_annotation: RequestMapping",
    "  mapping_suffix: Mapping",
    "  strict_scopes: false",
    "  tolerate_syntax_errors: false",
    "  excluded_paths:",
    "    - \"**/generated/**\""])

/-- All templates; the first is the default. -/
def templates : List Template :=
  [minimalTemplate, fullTemplate]

end Excerpt
