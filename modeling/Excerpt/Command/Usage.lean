import Excerpt.Command.Basic

/-!
# Command lines

The first argument names a command. Options begin with two dashes, or with one dash and a letter;
their values follow them as the next argument, after an equals sign, or, for a letter, at once.
The other arguments are operands, and so are all after two dashes alone.

Arguments are settled from left to right: an operand, or an option with its value in the next
argument, waits until the next option or the end. So an argument that is not known wins over a bad
value that is still waiting.

What may follow a command is data (`Form`), and arguments are read the same way for all commands.
A command adds only how a request is made from the arguments that were read (`Verb`). That an
argument is missing shows only then, after all arguments have been read.

* `Refusal`: why a command line is no command.
* `Arguments`: the arguments of a command, as far as they are read.
* `Arguments.takeAll`: read all arguments.
* `commands`: the commands with their forms.
* `parse`: read a command line.
-/

namespace Excerpt.Usage

/-- Why a command line is no command. -/
inductive Refusal
  /-- Help is asked for. -/
  | help
  /-- The version is asked for. -/
  | version
  /-- There is no command. -/
  | missingCommand
  | unknownCommand
  | unknownArgument
  | missingArgument
  /-- A value is missing or empty. -/
  | invalidValue
  /-- A value for an option that has none. -/
  | unexpectedValue
  /-- An option that occurs twice. -/
  | repeatedOption
  deriving DecidableEq, Repr

/-- What an option takes. -/
inductive Taking
  | nothing
  | text
  /-- A text that is not empty. -/
  | path
  deriving DecidableEq, Repr

/-- An option of a command. -/
structure Switch where
  name : String
  letter : Option Char := none
  taking : Taking := .nothing
  deriving DecidableEq, Repr

/-- How many operands a command has. -/
inductive Arity
  | none
  /-- One path. -/
  | one
  | many
  deriving DecidableEq, Repr

/-- What may follow a command. -/
structure Form where
  options : List Switch
  arity : Arity
  deriving DecidableEq, Repr

/-- The option that every command has. -/
def helpOption : Switch := ⟨"help", some 'h', .nothing⟩

/-! ### Arguments -/

/-- An argument that waits. -/
inductive Waiting
  | option (o : Switch) (value : Option String)
  | operands (values : List String)
  deriving DecidableEq, Repr

/-- The arguments of a command, as far as they are read. -/
structure Arguments where
  /-- The values of the options by their names. -/
  values : List (String × String) := []
  operands : List String := []
  waiting : Option Waiting := none
  deriving DecidableEq, Repr

namespace Arguments

variable (a : Arguments)

/-- Give an option its value. -/
def assign (o : Switch) (value : String) : Except Refusal Arguments :=
  if o = helpOption then .error .help
  else if (a.values.lookup o.name).isSome then .error .repeatedOption
  else if o.taking = .path && value.isEmpty then .error .invalidValue
  else .ok { a with values := a.values ++ [(o.name, value)] }

/-- Settle the argument that waits. -/
def settle (form : Form) : Except Refusal Arguments :=
  match a.waiting with
  | none => .ok a
  | some (.option o value) =>
    match value with
    | some v => ({ a with waiting := none } : Arguments).assign o v
    | none => .error .invalidValue
  | some (.operands vs) =>
    if form.arity = .one && vs.any String.isEmpty then .error .invalidValue
    else .ok { a with operands := a.operands ++ vs, waiting := none }

/-- Read an option, with a value if one is attached. -/
def takeOption (form : Form) (o : Switch) (attached : Option String) : Except Refusal Arguments :=
  match o.taking, attached with
  | .nothing, some _ => .error .unexpectedValue
  | .nothing, none => do (← a.settle form).assign o ""
  | _, some v => do (← a.settle form).assign o v
  | _, none => do return { (← a.settle form) with waiting := some (.option o none) }

/-- Read an operand. -/
def takeOperand (form : Form) (value : String) : Except Refusal Arguments :=
  match form.arity, a.waiting with
  | .none, _ => .error .unknownArgument
  | .one, some (.operands _) => .error .unknownArgument
  | .one, _ =>
    if a.operands.isEmpty then do
      return { (← a.settle form) with waiting := some (.operands [value]) }
    else .error .unknownArgument
  | .many, some (.operands vs) => .ok { a with waiting := some (.operands (vs ++ [value])) }
  | .many, _ => do return { (← a.settle form) with waiting := some (.operands [value]) }

/-- What follows an option's letter, without an equals sign before it. -/
def attachedValue (cs : List Char) : Option String :=
  match cs with
  | [] => none
  | '=' :: rest => some (String.ofList rest)
  | rest => some (String.ofList rest)

/-- Read options by their letters; the value of one may follow it. -/
def takeLetters (form : Form) (a : Arguments) : List Char → Except Refusal Arguments
  | [] => .ok a
  | c :: cs =>
    match form.options.find? (·.letter == some c) with
    | none => .error .unknownArgument
    | some o =>
      if o.taking = .nothing then do takeLetters form (← a.takeOption form o none) cs
      else a.takeOption form o (attachedValue cs)

/-- The name of an option and the value after an equals sign. -/
def splitOption (cs : List Char) : String × Option String :=
  let name := cs.takeWhile (· != '=')
  (String.ofList name, if name.length <
    cs.length then some (String.ofList (cs.drop (name.length + 1))) else none)

/-- Read an option by its name. -/
def takeNamed (form : Form) (cs : List Char) : Except Refusal Arguments :=
  let (name, attached) := splitOption cs
  match form.options.find? (·.name == name) with
  | none => .error .unknownArgument
  | some o => a.takeOption form o attached

/-- Read an argument that is no option: the value of one that waits for it, or an operand. -/
def takePlain (form : Form) (arg : String) : Except Refusal Arguments :=
  match a.waiting with
  | some (.option o none) => .ok { a with waiting := some (.option o (some arg)) }
  | _ => a.takeOperand form arg

/-- Read all arguments of a command. -/
def takeAll (form : Form) (a : Arguments) : List String → Except Refusal Arguments
  | [] => a.settle form
  | arg :: args =>
    match arg.toList with
    | ['-', '-'] => do (← args.foldlM (fun a arg => a.takeOperand form arg) a).settle form
    | '-' :: '-' :: cs => do takeAll form (← a.takeNamed form cs) args
    | '-' :: c :: cs => do takeAll form (← takeLetters form a (c :: cs)) args
    | _ => do takeAll form (← a.takePlain form arg) args

/-- The value of an option. -/
def value? (name : String) : Option String :=
  a.values.lookup name

/-- The option is there. -/
def has (name : String) : Bool :=
  (a.value? name).isSome

end Arguments

/-! ### Commands -/

/-- A command as it is written. -/
structure Verb where
  names : List String
  form : Form
  /-- The command, unless an operand is missing. -/
  build : Arguments → Option Command

/-- Extract snippets. -/
def extractVerb : Verb where
  names := ["extract", "run"]
  form := {
    options := [⟨"rules", some 'r', .path⟩, ⟨"format", some 'f', .text⟩,
      ⟨"output", some 'o', .path⟩, ⟨"verbose", some 'v', .nothing⟩,
      ⟨"progress", none, .nothing⟩, helpOption]
    arity := .one }
  build a := a.operands.head?.map fun path => .extract {
    path := path
    rules := a.value? "rules"
    format := (a.value? "format").getD "json"
    output := a.value? "output"
    verbose := a.has "verbose"
    progress := a.has "progress" }

/-- Create a rule file. -/
def initVerb : Verb where
  names := ["init"]
  form := {
    options := [⟨"output", some 'o', .path⟩, ⟨"template", some 't', .text⟩,
      ⟨"list", some 'l', .nothing⟩, helpOption]
    arity := .none }
  build a := some (.init {
    output := (a.value? "output").getD "rulesnip.yaml"
    template := (a.value? "template").getD "minimal"
    list := a.has "list" })

/-- Show the words of names. -/
def tokenizeVerb : Verb where
  names := ["tokenize"]
  form := { options := [helpOption], arity := .many }
  build a := if a.operands.isEmpty then none else some (.tokenize a.operands)

/-- All commands but the one that shows help. -/
def commands : List Verb :=
  [extractVerb, initVerb, tokenizeVerb]

/-- The command with a name. -/
def command? (name : String) : Option Verb :=
  commands.find? (·.names.contains name)

/-- The name is that of a command. -/
def isCommandName (name : String) : Bool :=
  name == "help" || (command? name).isSome

/-- Read the arguments of a command. -/
def Verb.read (c : Verb) (args : List String) : Except Refusal Command := do
  match c.build (← Arguments.takeAll c.form {} args) with
  | some command => return command
  | none => .error .missingArgument

/-- Show help on a command; there are no commands below others. -/
def readHelp : List String → Refusal
  | [] => .help
  | [name] => if isCommandName name then .help else .unknownCommand
  | _ => .unknownCommand

/-- Why an option before any command is refused. -/
def refuseOption : List Char → Refusal
  | '-' :: cs =>
    match Arguments.splitOption cs with
    | ("help", none) => .help
    | ("version", none) => .version
    | ("help", some _) | ("version", some _) => .unexpectedValue
    | _ => .unknownArgument
  | 'h' :: _ => .help
  | 'V' :: _ => .version
  | _ => .unknownArgument

/-- Read a command line. -/
def parse : List String → Except Refusal Command
  | [] => .error .missingCommand
  | name :: args =>
    match command? name with
    | some c => c.read args
    | none =>
      if name == "help" then .error (readHelp args)
      else match name.toList with
        | ['-', '-'] =>
          match args with
          | [] => .error .missingCommand
          | operand :: _ =>
            .error (if isCommandName operand then .unknownArgument else .unknownCommand)
        | '-' :: c :: cs => .error (refuseOption (c :: cs))
        | _ => .error .unknownCommand

end Excerpt.Usage
