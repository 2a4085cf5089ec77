/-
The program: it reads the files of a command and standard input, carries the
command out, and writes what the command writes.
-/
import Std.Time.Zoned
import RecordRules.CommandLine.Logger
import RecordRules.CommandLine.Run

namespace RecordRules.Main

/-- The text of some bytes. -/
def textOf (bytes : ByteArray) : Except FileFault String :=
  match String.fromUTF8? bytes with
  | some text => .ok text
  | none => .error .notText

/-- The text of the file at a path. -/
def readText (path : String) : IO (Except FileFault String) := do
  try
    let bytes ← IO.FS.readBinFile path
    return textOf bytes
  catch
    | .noFileOrDirectory _ _ _ => return .error .missing
    | .inappropriateType _ code _ => return .error (if code = 20 then .insideFile else .isFolder)
    | other => return .error (.refused (toString other))

/-- All that a stream still holds. -/
partial def readRest (stream : IO.FS.Stream) (before : ByteArray) : IO ByteArray := do
  let bytes ← stream.read 65536
  if bytes.isEmpty then return before else readRest stream (before ++ bytes)

/-- The present day at the place of the user. -/
def today : IO CalendarDate := do
  let date ← Std.Time.PlainDate.now
  return ⟨date.year, date.month.toNat, date.day.toNat⟩

/-- The filter of the log that the surroundings ask for; it lets warnings pass if they
say nothing. -/
def logFilter : IO LogFilter := do
  return .ofText ((← IO.getEnv "RUST_LOG").getD "warn")

/-- What a command finds around it. Host names are not looked up: none
resolves. -/
def console (command : CommandLine.Command) : IO CommandLine.Console := do
  let input ← IO.getStdin
  let bytes ← if command.readsStandardInput then readRest input .empty else pure .empty
  let texts ← command.paths.mapM fun path => do return (path, ← readText path)
  let filter ← logFilter
  return {
    surroundings := .offline (← today)
    files := fun path => (texts.lookup path).getD (.error .missing)
    standardInput := textOf bytes
    outputInColor := ← (← IO.getStdout).isTty
    complaintInColor := ← (← IO.getStderr).isTty
    words := .plain
    logger := filter.write }

/-- Writes an outcome; the result is the exit code. -/
def conclude (outcome : CommandLine.Outcome) : IO UInt32 := do
  (← IO.getStdout).putStr outcome.output
  (← IO.getStderr).putStr outcome.complaint
  return outcome.status.code.toUInt32

/-- Carries out a command line; the result is the exit code. -/
def carryOut (arguments : List String) : IO UInt32 := do
  match CommandLine.Invocation.ofArguments arguments with
  | .error notice => conclude (CommandLine.runNotice (← (← IO.getStderr).isTty) notice)
  | .ok invocation => conclude (CommandLine.runCommand .initial (← console invocation.command) invocation)

end RecordRules.Main

def main (arguments : List String) : IO UInt32 := RecordRules.Main.carryOut arguments
