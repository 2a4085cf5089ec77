/-
What commands do.

* `Outcome`: how a command ends, and what it writes;
* `check`, `rules`: the two commands, given what files and standard input hold;
* `checkLog`, `rulesLog`: what they say in the log;
* `run`: a whole command line.

A command that cannot be carried out writes nothing but one line about the
fault, behind the log.
-/
import RecordRules.CommandLine.Command
import RecordRules.Engine.Log
import RecordRules.Json.Record

namespace RecordRules.CommandLine

/-- How a command ends. -/
inductive Status where
  /-- The command was carried out, and the record is valid. -/
  | valid
  /-- The record has failures. -/
  | invalid
  /-- The command could not be carried out. -/
  | faulty
  /-- A rule cut a text inside of a character. -/
  | broken
  deriving DecidableEq, Repr

/-- The exit code of a status. -/
def Status.code : Status → Nat
  | valid => 0
  | invalid => 1
  | faulty => 2
  | broken => 101

/-- How a command ends, and what it writes to its two outputs. -/
structure Outcome where
  status : Status
  output : String
  complaint : String
  deriving DecidableEq, Repr

/-- What a command finds around it. -/
structure Console where
  surroundings : Surroundings
  files : Files
  standardInput : Except FileFault String
  /-- Whether colours are shown in the output. -/
  outputInColor : Bool
  /-- Whether colours are shown in complaints. -/
  complaintInColor : Bool
  /-- What parsers say about what they refuse. -/
  words : ParserWords
  /-- What the logger writes for a line; nothing if it leaves the line out. -/
  logger : Verbosity → LogLine → String

/-- Why a command cannot be carried out. -/
inductive CommandFault where
  | load (fault : LoadFault)
  /-- There is no text at the path of the record. -/
  | unreadableInput (path : String) (fault : FileFault)
  /-- Standard input holds no text. -/
  | unreadableStandardInput (fault : FileFault)
  /-- The text is no record. -/
  | noRecord (fault : RecordFault)
  /-- A rule of the record stopped the run. -/
  | stopped (fault : Fault)
  deriving DecidableEq, Repr

namespace CommandFault

/-- A command fault in words. -/
def message (words : ParserWords) : CommandFault → String
  | load fault => fault.message words
  | unreadableInput path fault => "Failed to read input file " ++ path ++ ": " ++ fault.message
  | unreadableStandardInput fault => "Failed to read from stdin: " ++ fault.message
  | noRecord fault => fault.message words.json
  | stopped fault => "Sanitization failed: " ++ fault.message

/-- The status with which a command fault ends a command. -/
def status : CommandFault → Status
  | stopped .insideCharacter => .broken
  | _ => .faulty

end CommandFault

/-! ### Checking a record -/

/-- The text of the record: of the input file, else of standard input. -/
def inputText (console : Console) (input : Option String) : Except CommandFault String :=
  match input with
  | some path => (console.files path).mapError (.unreadableInput path)
  | none => console.standardInput.mapError .unreadableStandardInput

/-- The record that is checked. -/
def inputRecord (console : Console) (options : CheckOptions) : Except CommandFault Record := do
  let text ← inputText console options.input
  (Record.ofString text).mapError .noRecord

/-- A record over several lines. -/
def recordText (record : Record) : String := (Json.object record).pretty ++ "\n"

/-- Checks a record. The sanitized record is written if it is valid, and else
the report of its failures. -/
def check (registry : Registry) (console : Console) (options : CheckOptions) : Except CommandFault Outcome := do
  let engine ← (Engine.ofFiles registry console.files options.configurations).mapError .load
  let record ← inputRecord console options
  let (engine, result) ← (engine.run console.surroundings record options.checksUnknown).mapError .stopped
  match result with
  | some sanitized => .ok ⟨.valid, recordText sanitized, ""⟩
  | none => .ok ⟨.invalid, Failure.report options.format console.outputInColor engine.failures, ""⟩

/-- A line about a check. -/
def checkLine (level : LogLevel) (text : String) : LogLine := ⟨level, "fieldsieve::commands::check", text⟩

/-- A record that was read is checked. -/
def recordLog (console : Console) (options : CheckOptions) (engine : Engine) (record : Record) : List LogLine :=
  let counted := checkLine .debug ("Input record has " ++ countText record.length ++ " fields.")
  let concluded := match engine.run console.surroundings record options.checksUnknown with
    | .ok (_, some _) => [checkLine .info "Record is valid."]
    | .ok (after, none) =>
      [checkLine .info ("Record failed validation with " ++ countText after.failures.length ++ " error(s).")]
    | .error _ => []
  counted :: engine.runLog console.words.pattern console.surroundings record options.checksUnknown ++ concluded

/-- A record is checked, as far as that gets. -/
def checkLog (registry : Registry) (console : Console) (options : CheckOptions) : List LogLine :=
  let loading := Engine.loadLog registry console.files options.configurations
  let reading := match options.input with
    | some path => checkLine .info ("Reading input from file: " ++ path)
    | none => checkLine .info "Reading input from stdin."
  match Engine.ofFiles registry console.files options.configurations, inputRecord console options with
  | .error _, _ => loading
  | .ok _, .error _ => loading ++ [reading]
  | .ok engine, .ok record => loading ++ reading :: recordLog console options engine record

/-! ### Showing rules -/

/-- Writes the table of the rules of a configuration. -/
def rules (registry : Registry) (console : Console) (configurations : List String) : Except CommandFault Outcome := do
  let engine ← (Engine.ofFiles registry console.files configurations).mapError .load
  .ok ⟨.valid, engine.ruleTable.render ++ "\n", ""⟩

/-- The rules of a configuration are shown. -/
def rulesLog (registry : Registry) (console : Console) (configurations : List String) : List LogLine :=
  let loading := Engine.loadLog registry console.files configurations
  match Engine.ofFiles registry console.files configurations with
  | .error _ => loading
  | .ok engine => loading ++ engine.tableLog

/-! ### Command lines -/

/-- What a command says in the log. -/
def Command.log (registry : Registry) (console : Console) : Command → List LogLine
  | .check options => checkLog registry console options
  | .rules configurations => rulesLog registry console configurations

/-- The outcome of a command. The log goes before what is said about a fault. -/
def runCommand (registry : Registry) (console : Console) (invocation : Invocation) : Outcome :=
  let log := String.join ((invocation.command.log registry console).map (console.logger invocation.verbosity))
  let result := match invocation.command with
    | .check options => check registry console options
    | .rules configurations => rules registry console configurations
  match result with
  | .ok outcome => { outcome with complaint := log ++ outcome.complaint }
  | .error fault =>
    ⟨fault.status, "", log ++ faultLine console.complaintInColor (fault.message console.words)⟩

/-- The name and the version of the program. -/
def versionText : String := "fieldsieve 0.1.0\n"

/-- What the program can do. -/
def helpText : String :=
  String.intercalate "\n"
    ["Sanitize and validate JSON records against field rules",
     "",
     "Usage: fieldsieve [OPTIONS] <COMMAND>",
     "",
     "Commands:",
     "  check  Sanitize and validate a JSON record read from a file or stdin",
     "  rules  Print the parsed field rules of a configuration as a table",
     "  help   Print this message",
     "",
     "Options:",
     "  -c, --config <FILE>    Field configuration file (YAML, or JSON by extension). May be repeated.",
     "  -i, --input <FILE>     Read the JSON record from a file instead of stdin (check)",
     "      --check-unknown    Report input fields that have no configured rules (check)",
     "  -f, --format <FORMAT>  Output format for errors: text or json (check)",
     "  -q, --quiet            Suppress all informational and debug messages",
     "  -d, --debug            Enable debug logging",
     "  -h, --help             Print help",
     "  -V, --version          Print version",
     ""]

/-- The outcome of a notice. -/
def runNotice (inColor : Bool) : Notice → Outcome
  | .help => ⟨.valid, helpText, ""⟩
  | .version => ⟨.valid, versionText, ""⟩
  | .usage fault => ⟨.faulty, "", faultLine inColor fault.message⟩

/-- The outcome of a command line. -/
def run (registry : Registry) (console : Console) (arguments : List String) : Outcome :=
  match Invocation.ofArguments arguments with
  | .ok invocation => runCommand registry console invocation
  | .error notice => runNotice console.complaintInColor notice

end RecordRules.CommandLine
