/-
Commands.

* `Command`: to check a record, or to show the rules of a configuration;
* `Invocation.ofArguments`: the command that a command line writes, and how much of
  the log it asks for.
-/
import RecordRules.CommandLine.Arguments

namespace RecordRules.CommandLine

/-- How a record is checked. -/
structure CheckOptions where
  /-- The paths of the configuration files, lowest layer first. -/
  configurations : List String
  /-- The path of the record; without it, standard input is read. -/
  input : Option String
  /-- Whether fields without rules are failures. -/
  checksUnknown : Bool
  format : ReportFormat
  deriving DecidableEq, Repr

/-- What is to be done. -/
inductive Command where
  | check (options : CheckOptions)
  | rules (configurations : List String)
  deriving DecidableEq, Repr

namespace Command

/-- The options before a command. -/
def ownVocabulary : Vocabulary := ⟨[.quiet, .debug, .help, .version], []⟩

/-- The options of `check`. -/
def checkVocabulary : Vocabulary := ⟨[.quiet, .debug, .checkUnknown, .help], [.configuration, .input, .format]⟩

/-- The options of `rules`. -/
def rulesVocabulary : Vocabulary := ⟨[.quiet, .debug, .help], [.configuration]⟩

/-- The paths of configuration files; there must be one. -/
def configurationsOf (reading : Reading) : Except Notice (List String) :=
  match reading.valuesOf .configuration with
  | [] => .error (.usage .missingConfiguration)
  | paths => .ok paths

/-- The command that the arguments after `check` write, with its switches. -/
def checkOfArguments (arguments : List String) : Except Notice (List Switch × Command) := do
  let reading ← Reading.ofArguments checkVocabulary arguments
  reading.checkSwitches
  let configurations ← configurationsOf reading
  let format := (reading.valuesOf .format).head?.bind formatOfName?
  .ok (reading.switches,
    .check ⟨configurations, (reading.valuesOf .input).head?, .checkUnknown ∈ reading.switches, format.getD .text⟩)

/-- The command that the arguments after `rules` write, with its switches. -/
def rulesOfArguments (arguments : List String) : Except Notice (List Switch × Command) := do
  let reading ← Reading.ofArguments rulesVocabulary arguments
  reading.checkSwitches
  (configurationsOf reading).map fun paths => (reading.switches, .rules paths)

/-- The names of commands. -/
def names : List String := ["check", "rules", "help"]

/-- What the arguments after `help` ask for: help on everything or on one
command. -/
def helpOfArguments : List String → Notice
  | [] => .help
  | [name] => if name ∈ names then .help else .usage (.unknownCommand name)
  | name :: topic :: _ => .usage (.unknownCommand (if name ∈ names then topic else name))

/-- Whether an argument writes an option. -/
def isOption (argument : String) : Bool :=
  argument.toList.head? == some '-' && argument ≠ "-" && argument ≠ "--"

/-- The paths of the files that a command reads. -/
def paths : Command → List String
  | check options => options.configurations ++ options.input.toList
  | rules configurations => configurations

/-- Whether a command reads standard input. -/
def readsStandardInput : Command → Bool
  | check options => options.input.isNone
  | rules _ => false

end Command

/-- A command, and how much of the log the user asks for. -/
structure Invocation where
  verbosity : Verbosity
  command : Command
  deriving DecidableEq, Repr

/-- What a command line writes: options, the name of the command, and its own
arguments. Switches about the log may stand in both places. -/
def Invocation.ofArguments (arguments : List String) : Except Notice Invocation := do
  let (own, rest) := arguments.span Command.isOption
  let reading ← Reading.ofArguments Command.ownVocabulary own
  let (switches, command) ←
    match rest with
    | [] => .error (.usage .missingCommand)
    | "check" :: rest => Command.checkOfArguments rest
    | "rules" :: rest => Command.rulesOfArguments rest
    | "help" :: rest => .error (Command.helpOfArguments rest)
    | name :: _ => .error (.usage (.unknownCommand name))
  reading.checkSwitches
  .ok ⟨.ofSwitches (reading.switches ++ switches), command⟩

end RecordRules.CommandLine
