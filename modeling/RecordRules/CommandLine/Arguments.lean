/-
Options of a command line.

* `Switch`, `Setting`: options without a value and with one;
* `Verbosity`: what the options say about the log;
* `Vocabulary`: the options that a command knows;
* `Reading.step`: one argument, with the options that were given before it;
* `Reading.ofArguments`: all arguments of a command.

An option is written with its name after two hyphens or with its letter after
one. Letters may be joined; the value of a setting follows as the next argument,
after an equals sign, or right after the letter.
-/
import RecordRules.Engine.Report

namespace RecordRules.CommandLine

/-- An option without a value. -/
inductive Switch where
  | quiet
  | debug
  | checkUnknown
  | help
  | version
  deriving DecidableEq, Repr

/-- How much of the log the user asks for. -/
inductive Verbosity where
  /-- The user says nothing. -/
  | usual
  | quiet
  | debug
  deriving DecidableEq, Repr

/-- What switches say about the log. -/
def Verbosity.ofSwitches (switches : List Switch) : Verbosity :=
  if .quiet ∈ switches then quiet else if .debug ∈ switches then debug else usual

/-- An option with a value. -/
inductive Setting where
  | configuration
  | input
  | format
  deriving DecidableEq, Repr

/-- Any option. -/
inductive AnyOption where
  | switch (switch : Switch)
  | setting (setting : Setting)
  deriving DecidableEq, Repr

namespace AnyOption

/-- The name of an option. -/
def name : AnyOption → String
  | switch .quiet => "quiet"
  | switch .debug => "debug"
  | switch .checkUnknown => "check-unknown"
  | switch .help => "help"
  | switch .version => "version"
  | setting .configuration => "config"
  | setting .input => "input"
  | setting .format => "format"

/-- The letter of an option, if it has one. -/
def letter? : AnyOption → Option Char
  | switch .quiet => some 'q'
  | switch .debug => some 'd'
  | switch .checkUnknown => none
  | switch .help => some 'h'
  | switch .version => some 'V'
  | setting .configuration => some 'c'
  | setting .input => some 'i'
  | setting .format => some 'f'

end AnyOption

/-- The report format of a name. -/
def formatOfName? : String → Option ReportFormat
  | "text" => some .text
  | "json" => some .json
  | _ => none

namespace Setting

/-- Settings that may be given more than once. -/
def mayRepeat : Setting → Bool
  | configuration => true
  | input | format => false

/-- Whether a setting may have a value: paths are not empty. -/
def accepts (setting : Setting) (value : String) : Bool :=
  match setting with
  | configuration | input => value ≠ ""
  | format => (formatOfName? value).isSome

end Setting

/-- The options that a command knows. -/
structure Vocabulary where
  switches : List Switch
  settings : List Setting

namespace Vocabulary

/-- All options. -/
def options (vocabulary : Vocabulary) : List AnyOption :=
  vocabulary.switches.map .switch ++ vocabulary.settings.map .setting

/-- The option of a name. -/
def ofName? (vocabulary : Vocabulary) (name : String) : Option AnyOption :=
  vocabulary.options.find? (·.name = name)

/-- The option of a letter. -/
def ofLetter? (vocabulary : Vocabulary) (letter : Char) : Option AnyOption :=
  vocabulary.options.find? (·.letter? = some letter)

end Vocabulary

/-! ### Faults -/

/-- Why a command line is none. -/
inductive UsageFault where
  | unknownOption (argument : String)
  | unexpectedArgument (argument : String)
  | missingValue (setting : Setting)
  | badValue (setting : Setting) (value : String)
  | needlessValue (switch : Switch) (value : String)
  | repeatedOption (option : AnyOption)
  /-- Quiet and debug exclude each other. -/
  | quietDebug
  | missingConfiguration
  | missingCommand
  | unknownCommand (name : String)
  deriving DecidableEq, Repr

/-- An option as it is written. -/
def AnyOption.written (option : AnyOption) : String := "'--" ++ option.name ++ "'"

/-- A usage fault in words. -/
def UsageFault.message : UsageFault → String
  | unknownOption argument | unexpectedArgument argument => "unexpected argument '" ++ argument ++ "' found"
  | missingValue setting =>
    "a value is required for " ++ (AnyOption.setting setting).written ++ " but none was supplied"
  | badValue setting value =>
    "invalid value '" ++ value ++ "' for " ++ (AnyOption.setting setting).written
  | needlessValue switch value =>
    "unexpected value '" ++ value ++ "' for " ++ (AnyOption.switch switch).written ++ " found"
  | repeatedOption option => "the argument " ++ option.written ++ " cannot be used multiple times"
  | quietDebug =>
    "the argument " ++ (AnyOption.switch .debug).written ++ " cannot be used with " ++
      (AnyOption.switch .quiet).written
  | missingConfiguration =>
    "the following required arguments were not provided: " ++ (AnyOption.setting .configuration).written
  | missingCommand => "a command is required"
  | unknownCommand name => "unrecognized subcommand '" ++ name ++ "'"

/-- Why the arguments are not a command to run: the user asks for something
else, or they are faulty. -/
inductive Notice where
  | help
  | version
  | usage (fault : UsageFault)
  deriving DecidableEq, Repr

/-! ### Reading -/

/-- The options that were given so far. -/
structure Reading where
  switches : List Switch
  values : List (Setting × String)
  /-- The setting whose value is the next argument. -/
  pending : Option Setting
  /-- No options may follow. -/
  isOver : Bool
  deriving DecidableEq, Repr

namespace Reading

/-- Nothing is given. -/
def start : Reading := ⟨[], [], none, false⟩

/-- The values of a setting. -/
def valuesOf (reading : Reading) (setting : Setting) : List String :=
  (reading.values.filter (·.1 = setting)).map (·.2)

/-- The reading with a switch. The user may ask for help or the version at any
place. -/
def addSwitch (reading : Reading) : Switch → Except Notice Reading
  | .help => .error .help
  | .version => .error .version
  | switch =>
    if switch ∈ reading.switches then .error (.usage (.repeatedOption (.switch switch)))
    else .ok { reading with switches := reading.switches ++ [switch] }

/-- The reading with the value of a setting. -/
def addValue (reading : Reading) (setting : Setting) (value : String) : Except Notice Reading :=
  if !setting.mayRepeat && reading.valuesOf setting ≠ [] then .error (.usage (.repeatedOption (.setting setting)))
  else if setting.accepts value then
    .ok { reading with values := reading.values ++ [(setting, value)], pending := none }
  else .error (.usage (.badValue setting value))

/-- The reading with an option that is written by name, and the value after an
equals sign. -/
def addNamed (vocabulary : Vocabulary) (reading : Reading) (name : String) (value : Option String) :
    Except Notice Reading :=
  match vocabulary.ofName? name, value with
  | none, _ => .error (.usage (.unknownOption ("--" ++ name)))
  | some (.switch switch), none => reading.addSwitch switch
  | some (.switch switch), some value => .error (.usage (.needlessValue switch value))
  | some (.setting setting), none => .ok { reading with pending := some setting }
  | some (.setting setting), some value => reading.addValue setting value

/-- The reading with options that are written by their letters. What follows the
letter of a setting is its value. -/
def addLetters (vocabulary : Vocabulary) (reading : Reading) : List Char → Except Notice Reading
  | [] => .ok reading
  | letter :: rest =>
    match vocabulary.ofLetter? letter with
    | none => .error (.usage (.unknownOption (String.ofList ['-', letter])))
    | some (.switch switch) => do addLetters vocabulary (← reading.addSwitch switch) rest
    | some (.setting setting) =>
      match rest with
      | [] => .ok { reading with pending := some setting }
      | '=' :: value => reading.addValue setting (String.ofList value)
      | value => reading.addValue setting (String.ofList value)

/-- The name and the value that an equals sign separates. -/
def splitAtEquals (s : List Char) : String × Option String :=
  let name := String.ofList (s.takeWhile (· ≠ '='))
  match s.dropWhile (· ≠ '=') with
  | [] => (name, none)
  | _ :: value => (name, some (String.ofList value))

/-- The reading with one more argument. -/
def step (vocabulary : Vocabulary) (reading : Reading) (argument : String) : Except Notice Reading :=
  if reading.isOver then .error (.usage (.unexpectedArgument argument))
  else
    match reading.pending, argument.toList with
    | some setting, ['-'] => reading.addValue setting argument
    | some setting, '-' :: _ => .error (.usage (.missingValue setting))
    | some setting, _ => reading.addValue setting argument
    | none, ['-', '-'] => .ok { reading with isOver := true }
    | none, '-' :: '-' :: rest =>
      let (name, value) := splitAtEquals rest
      addNamed vocabulary reading name value
    | none, '-' :: letter :: rest => addLetters vocabulary reading (letter :: rest)
    | none, _ => .error (.usage (.unexpectedArgument argument))

/-- The reading with all arguments. -/
def ofArguments (vocabulary : Vocabulary) (arguments : List String) : Except Notice Reading := do
  let reading ← arguments.foldlM (step vocabulary) start
  match reading.pending with
  | some setting => .error (.usage (.missingValue setting))
  | none => .ok reading

/-- Quiet and debug may not be given together. -/
def checkSwitches (reading : Reading) : Except Notice Unit :=
  if .quiet ∈ reading.switches ∧ .debug ∈ reading.switches then .error (.usage .quietDebug) else .ok ()

end Reading

end RecordRules.CommandLine
