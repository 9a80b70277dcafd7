import Excerpt.Command.Basic
import Excerpt.Command.Template
import Excerpt.Files.Write
import Excerpt.Report.Json
import Excerpt.Report.Pretty
import Excerpt.Rule.File
import Excerpt.Scan.Collect
import Excerpt.Scan.Run
import Excerpt.Words

/-!
# Executing commands

A command turns a file system into one, and writes texts to the terminal. What it does is a value
(`Execution`): the texts, the file system afterwards, and how the command ends. So a command can
be reasoned about without the computer that it is run on.

An extraction that is rejected leaves all files as they are: the format, the rule file, the rules
in it and the path to scan are checked before anything is written. It fails if its result cannot
be written, which is known only then.

A rule file is created where nothing is yet. The directories on the way to it are made before it
is written, and stay if it cannot be.

* `Status`, `Execution`: how a command ends, and what it does.
* `scanFor`: everything that an extraction does before it writes.
* `ExtractRequest.execute`, `InitRequest.execute`: the two commands that change files.
* `Command.execute`: any command.
-/

namespace Excerpt

/-- How a command ends. -/
inductive Status
  | success
  /-- The command cannot be done as it is asked for. -/
  | rejected
  /-- The result cannot be written. -/
  | failed (cause : FileError)
  deriving DecidableEq, Repr

/-- The number that the program ends with. -/
def Status.exitCode : Status → Nat
  | success => 0
  | _ => 2

/-- What a command does. -/
structure Execution where
  /-- The files after it. -/
  files : FileSystem
  status : Status := .success
  /-- What it prints. -/
  output : String := ""
  /-- What it prints as errors. -/
  errors : String := ""

/-- A command that is rejected for a reason. -/
def Execution.reject (files : FileSystem) (lines : List String) : Execution where
  files := files
  status := .rejected
  errors := textOfLines lines

/-! ### Extraction -/

/-- The formats of reports. -/
def formats : List String :=
  ["json", "pretty"]

/-- The names of rule files that are looked for. -/
def ruleFileNames : List String :=
  ["rulesnip.yaml", "rules.yaml", "rules.csv"]

/-- The first of the rule files that is in the working directory. -/
def discoverRules? (files : FileSystem) : Option String :=
  (ruleFileNames.map (Path.join ".")).find? files.isThere

/-- Why snippets cannot be extracted. -/
inductive ExtractError
  | badFormat (format : String)
  | noRules
  | badRules (cause : RuleError)
  | invalidRules (cause : RuleError)
  | badPath (path : String) (cause : MissingRoot)
  deriving DecidableEq, Repr

/-- The error in words, line by line. -/
def ExtractError.lines : ExtractError → List String
  | badFormat format =>
    ["Error: invalid format " ++ Text.quoted format ++ ", must be one of: " ++
      ", ".intercalate formats]
  | noRules =>
    ["Error: no rule file found (looked for " ++ ", ".intercalate ruleFileNames ++ ")",
      "Run 'rulesnip init' to create a rule file"]
  | badRules cause => ["Error loading rules: " ++ cause.message]
  | invalidRules cause => ["Error: invalid rules: " ++ cause.message]
  | badPath path cause => ["Error: cannot scan " ++ path ++ ": " ++ cause.message]

/-- The path of the rule file to use. -/
def rulesPath (files : FileSystem) (request : ExtractRequest) : Except ExtractError String :=
  match request.rules with
  | some path => .ok path
  | none =>
    match discoverRules? files with
    | some path => .ok path
    | none => .error .noRules

/-- Scan the files that are asked for. The result also has the path of the rule file. -/
def scanFor [PathPatterns] (files : FileSystem) (request : ExtractRequest) :
    Except ExtractError (String × Report) := do
  if !formats.contains request.format then .error (.badFormat request.format)
  let path ← rulesPath files request
  let set ← (RuleSet.load files path).mapError .badRules
  let registry ← (Registry.withDefaults set.settings).mapError .invalidRules
  (set.validate registry.names).mapError .invalidRules
  let scanner ← (Scanner.ofRuleSet set).mapError .invalidRules
  let paths ← (scanner.frontend.collect files set.settings request.path).mapError
      (.badPath request.path)
  return (path, scanner.scan files paths)

/-- Write the snippets of a report to a file. -/
def writeReport (files : FileSystem) (path : String) (r : Report) : Execution :=
  match files.makeDirectories (Path.components path).dropLast with
  | .error e => { files := e.files, status := .failed e.cause }
  | .ok made =>
    match made.write path (renderSnippets r.snippets ++ "\n").toUTF8 with
    | .error e => { files := made, status := .failed e }
    | .ok written => { files := written }

/-- Extract snippets. -/
def ExtractRequest.execute [PathPatterns] (color : Bool) (files : FileSystem)
    (request : ExtractRequest) : Execution :=
  match scanFor files request with
  | .error e => .reject files e.lines
  | .ok (rules, r) =>
    let written := match request.output with
      | some path => writeReport files path r
      | none => { files := files }
    if request.format = "pretty" then { written with output := r.pretty color request.path rules }
    else if request.output.isSome then written
    else { written with output := renderSnippets r.snippets ++ "\n" }

/-! ### Rule files -/

/-- The text of a list of templates. -/
def templateList : String :=
  let label (t : Template) := if t.name = "minimal" then t.name ++ " (default)" else t.name
  textOfLines (["Available templates:", ""] ++
    templates.map (fun t => "  " ++ String.ofList (Style.padEnd 20 (label t).toList) ++ " " ++
      t.description) ++
    ["", "Usage:", "  rulesnip init --template <name>"])

/-- What is printed after a rule file is created. -/
def createdText (path : String) (t : Template) : String :=
  textOfLines ["Created " ++ path ++ " from template '" ++ t.name ++ "'", "", "Next steps:",
    "  1. Edit " ++ path ++ " to match your review guidelines",
    "  2. Run: rulesnip extract . --rules " ++ path]

/-- Create a rule file from a template. -/
def createRules (files : FileSystem) (path : String) (t : Template) : Execution :=
  if files.isThere path then
    .reject files ["Error: file already exists: " ++ path,
      "Remove it or use --output to specify a different path"]
  else match files.makeDirectories (Path.components path).dropLast with
    | .error e => .reject e.files ["Error: failed to create directory: " ++ e.cause.message]
    | .ok made =>
      match made.write path t.content.toUTF8 with
      | .error e => .reject made ["Error: failed to write rules: " ++ e.message]
      | .ok written => { files := written, output := createdText path t }

/-- Create a rule file, or show the templates. -/
def InitRequest.execute (files : FileSystem) (request : InitRequest) : Execution :=
  if request.list then { files := files, output := templateList }
  else match templates.find? (·.name == request.template) with
    | none =>
      .reject files ["Error: unknown template " ++ Text.quoted request.template,
        "Run 'rulesnip init --list' to see available templates"]
    | some t => createRules files request.output t

/-! ### All commands -/

/-- The words of names, line by line. -/
def tokenizeText (names : List String) : String :=
  textOfLines (names.map fun name => name ++ " " ++ Words.format (Words.tokenize name))

/-- Execute a command. -/
def Command.execute [PathPatterns] (color : Bool) (files : FileSystem) : Command → Execution
  | .extract request => request.execute color files
  | .init request => request.execute files
  | .tokenize names => { files := files, output := tokenizeText names }

end Excerpt
