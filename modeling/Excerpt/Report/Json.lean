import Excerpt.Report.Basic

/-!
# Reports as JSON

Snippets are written as an array of objects, with two blanks for each level. In strings, quotes,
backslashes and control characters are escaped and all else stands for itself. Empty arrays and
objects are written on one line.

Only what reports are made of is there: numbers are integers, and there are neither truth values
nor nothing.

* `Json`: the values that reports are made of.
* `Json.render`: a value as it is written at a level.
* `renderSnippets`: snippets as JSON.
-/

namespace Excerpt

/-- The values that reports are made of. -/
inductive Json
  | number (n : Int)
  | string (s : String)
  | array (items : List Json)
  | object (members : List (String × Json))
  deriving Repr, Inhabited

namespace Json

/-- A digit of a hexadecimal number. -/
def hexDigit (n : Nat) : Char :=
  Char.ofNat (if n < 10 then 48 + n else 87 + n)

/-- A character of a string as it is written. -/
def escaped (c : Char) : List Char :=
  if c = '"' then ['\\', '"']
  else if c = '\\' then ['\\', '\\']
  else if c = '\n' then ['\\', 'n']
  else if c = '\r' then ['\\', 'r']
  else if c = '\t' then ['\\', 't']
  else if c.toNat = 8 then ['\\', 'b']
  else if c.toNat = 12 then ['\\', 'f']
  else if c.toNat < 32 then ['\\', 'u', '0', '0', hexDigit (c.toNat / 16), hexDigit (c.toNat % 16)]
  else [c]

/-- A string in quotes. -/
def quoted (s : String) : List Char :=
  '"' :: s.toList.flatMap escaped ++ ['"']

/-- A line feed and the blanks of a level. -/
def newline (level : Nat) : List Char :=
  '\n' :: List.replicate (2 * level) ' '

mutual

/-- A value as it is written at a level. -/
def render (level : Nat) : Json → List Char
  | .number n => (toString n).toList
  | .string s => quoted s
  | .array [] => ['[', ']']
  | .array (x :: xs) =>
    '[' :: newline (level + 1) ++ render (level + 1) x ++ renderItems (level + 1) xs ++
      newline level ++ [']']
  | .object [] => ['\x7b', '\x7d']
  | .object ((k, v) :: ms) =>
    '\x7b' :: newline (level + 1) ++ quoted k ++ [':', ' '] ++ render (level + 1) v ++
      renderMembers (level + 1) ms ++ newline level ++ ['\x7d']

/-- Further items of an array. -/
def renderItems (level : Nat) : List Json → List Char
  | [] => []
  | x :: xs => ',' :: newline level ++ render level x ++ renderItems level xs

/-- Further members of an object. -/
def renderMembers (level : Nat) : List (String × Json) → List Char
  | [] => []
  | (k, v) :: ms =>
    ',' :: newline level ++ quoted k ++ [':', ' '] ++ render level v ++ renderMembers level ms

end

end Json

/-- A snippet as an object. -/
def Snippet.toJson (s : Snippet) : Json :=
  .object [
    ("ruleId", .string s.rule.id),
    ("ruleScope", .string s.rule.scope),
    ("ruleDescription", .string s.rule.description),
    ("ruleCriteria", .string s.rule.criteria),
    ("ruleContext", .string s.rule.context),
    ("filePath", .string s.path),
    ("line", .number s.finding.line),
    ("code", .string s.finding.code),
    ("subjectName", .string s.finding.subject)]

/-- Snippets as JSON. -/
def renderSnippets (snippets : List Snippet) : String :=
  String.ofList (Json.render 0 (.array (snippets.map Snippet.toJson)))

end Excerpt
