/-
The logger of the program.

* `LogFilter.ofText`: directives such as `warn,fieldsieve_core=debug`, which say up
  to which level the lines of a module are written;
* `LogFilter.admits`: whether a line is written;
* `LogLine.written`: a line as it is written.

What stands behind a slash in a text of directives is not read.
-/
import RecordRules.CommandLine.Arguments
import RecordRules.Log

namespace RecordRules

namespace LogLevel

/-- The levels, the most important first. -/
def all : List LogLevel := [error, warn, info, debug, trace]

/-- The name of a level. -/
def name : LogLevel → String
  | error => "ERROR"
  | warn => "WARN"
  | info => "INFO"
  | debug => "DEBUG"
  | trace => "TRACE"

/-- The place of a level among all of them. -/
def rank : LogLevel → Nat
  | error => 1
  | warn => 2
  | info => 3
  | debug => 4
  | trace => 5

end LogLevel

/-- Up to which level the lines of modules whose names begin in a way are written;
rank zero admits none. -/
structure LogDirective where
  prefixOfTarget : String
  rank : Nat
  deriving DecidableEq, Repr

namespace LogDirective

/-- The rank of a level by its name, in any case; `off` admits no line. -/
def rankOfName? (name : String) : Option Nat :=
  let upper := String.ofList (name.toList.map Char.toUpper)
  if upper = "OFF" then some 0 else (LogLevel.all.find? (·.name = upper)).map LogLevel.rank

/-- The directive of a text: a level, a module, or both with an equals sign between. -/
def ofText? (text : String) : Option LogDirective :=
  let parts := (splitChars '=' text.toList).map String.ofList
  match parts with
  | [only] =>
    match rankOfName? only with
    | some rank => some ⟨"", rank⟩
    | none => some ⟨only, LogLevel.trace.rank⟩
  | [target, level] =>
    let level := String.ofList (Text.trim level.toList)
    if level = "" then some ⟨target, LogLevel.trace.rank⟩ else (rankOfName? level).map fun rank => ⟨target, rank⟩
  | _ => none

end LogDirective

/-- Directives about modules; the one with the longest name that fits decides. -/
structure LogFilter where
  directives : List LogDirective
  deriving DecidableEq, Repr

namespace LogFilter

/-- The filter of directives that commas separate. Without any, only errors are
written. -/
def ofText (text : String) : LogFilter :=
  let parts := (splitChars ',' (text.toList.takeWhile (· ≠ '/'))).map fun part => String.ofList (Text.trim part)
  match (parts.filter (· ≠ "")).filterMap LogDirective.ofText? with
  | [] => ⟨[⟨"", LogLevel.error.rank⟩]⟩
  | directives => ⟨directives⟩

/-- The filter with a level for all modules that no directive names. -/
def withRank (filter : LogFilter) (rank : Nat) : LogFilter :=
  ⟨⟨"", rank⟩ :: filter.directives.filter (·.prefixOfTarget ≠ "")⟩

/-- The filter with what the user asks for. -/
def withVerbosity (filter : LogFilter) : CommandLine.Verbosity → LogFilter
  | .usual => filter
  | .quiet => filter.withRank 0
  | .debug => filter.withRank LogLevel.debug.rank

/-- The better of two directives: the one with the longer name, else the later. -/
def better (best : Option LogDirective) (next : LogDirective) : Option LogDirective :=
  match best with
  | some found => if next.prefixOfTarget.length < found.prefixOfTarget.length then best else some next
  | none => some next

/-- Whether a line is written. -/
def admits (filter : LogFilter) (line : LogLine) : Bool :=
  let fitting := filter.directives.filter fun directive =>
    directive.prefixOfTarget.toList.isPrefixOf line.target.toList
  (fitting.foldl better none).any fun directive => line.level.rank ≤ directive.rank

end LogFilter

/-- A line as it is written: the level, in five places, the module, and the text,
whose further lines are indented. -/
def LogLine.written (line : LogLine) : String :=
  let level := line.level.name ++ String.ofList (List.replicate (5 - line.level.name.length) ' ')
  let text := line.text.toList.flatMap fun c => if c = '\n' then '\n' :: List.replicate 4 ' ' else [c]
  "[" ++ level ++ " " ++ line.target ++ "] " ++ String.ofList text ++ "\n"

/-- What is written for a line. -/
def LogFilter.write (filter : LogFilter) (verbosity : CommandLine.Verbosity) (line : LogLine) : String :=
  if (filter.withVerbosity verbosity).admits line then line.written else ""

end RecordRules
