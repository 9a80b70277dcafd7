/-!
# Commands

What the program can be asked to do: extract snippets, create a rule file, and show the words of
names. A command is what a command line says after it has been read and before anything is done.
So nothing here depends on how options are written, and executing a command needs no further
checks of the command line.

Values that were not given are left open. Which rule file is taken, and which format, is decided
when the command is executed.

* `ExtractRequest`: what to extract snippets from, and how to report them.
* `InitRequest`: which rule file to create.
* `Command`: the commands of the program.
-/

namespace Excerpt

/-- What to extract snippets from, and how to report them. -/
structure ExtractRequest where
  /-- A file or a directory. -/
  path : String
  /-- The rule file. -/
  rules : Option String := none
  format : String := "json"
  /-- A file for the snippets. -/
  output : Option String := none
  verbose : Bool := false
  progress : Bool := false
  deriving DecidableEq, Repr

/-- Which rule file to create. -/
structure InitRequest where
  output : String := "rulesnip.yaml"
  template : String := "minimal"
  /-- Show the templates instead. -/
  list : Bool := false
  deriving DecidableEq, Repr

/-- The commands of the program. -/
inductive Command
  | extract (request : ExtractRequest)
  | init (request : InitRequest)
  | tokenize (names : List String)
  deriving DecidableEq, Repr

/-- The command asks for details of its work. -/
def Command.isVerbose : Command → Bool
  | extract request => request.verbose
  | _ => false

end Excerpt
