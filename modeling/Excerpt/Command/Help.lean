import Excerpt.Command.Template
import Excerpt.Command.Usage

/-!
# Answers to command lines that are no commands

A command line may ask for help or for the version, which is answered, or it may be wrong, and
then it is answered with the reason. Either way the answer is a text; where it is written to and
the number that the program ends with tell the two apart (`Refusal.isAnswered`).

The texts for help are fixed.

* `helpText`, `versionText`: what is shown on demand.
* `Refusal.message`: the answer in words.
-/

namespace Excerpt.Usage

/-- How the program is used. -/
def helpText : String :=
  textOfLines [
    "Rule-driven extraction of annotated Java code snippets", "",
    "Usage: rulesnip <COMMAND>", "",
    "Commands:",
    "  extract   Extract rule-annotated snippets from Java sources [alias: run]",
    "  init      Create a new rule file from a template",
    "  tokenize  Print the word tokens of identifiers",
    "  help      Print this message", "",
    "Options of extract <PATH>:",
    "  -r, --rules <RULES>    Path to the rule file, YAML or CSV (default: auto-discover)",
    "  -f, --format <FORMAT>  Output format: json or pretty (default: json)",
    "  -o, --output <OUTPUT>  Write the JSON report to a file instead of stdout",
    "  -v, --verbose          Log debug details to stderr",
    "      --progress         Show a progress bar on stderr", "",
    "Options of init:",
    "  -o, --output <OUTPUT>      Output file path (default: rulesnip.yaml)",
    "  -t, --template <TEMPLATE>  Template to use (default: minimal)",
    "  -l, --list                 List available templates", "",
    "Options:",
    "  -h, --help     Print help",
    "  -V, --version  Print version"]

/-- The version of the program. -/
def versionText : String :=
  textOfLines ["rulesnip 0.1.0"]

namespace Refusal

/-- What was asked for can be shown. -/
def isAnswered (r : Refusal) : Bool :=
  r = help || r = version

/-- The answer in words. -/
def message : Refusal → String
  | help => helpText
  | version => versionText
  | missingCommand => helpText
  | unknownCommand => "error: unrecognized subcommand\n"
  | unknownArgument => "error: unexpected argument found\n"
  | missingArgument => "error: a required argument was not provided\n"
  | invalidValue => "error: a value is required for an option or an argument\n"
  | unexpectedValue => "error: unexpected value for an option\n"
  | repeatedOption => "error: an option cannot be used multiple times\n"

end Refusal

end Excerpt.Usage
