/-
Reports about the failures of the last run.

* `Engine.sentences`, `Engine.joinedSentences`: for a page, with markup;
* `Engine.sentenceByField`: one plain sentence for each field;
* `Failure.textReport`, `Failure.jsonReport`: for a console or a program.
-/
import RecordRules.Engine.Basic

namespace RecordRules

/-- The classes of the elements around labels and sentences. -/
structure ReportMarkup where
  fieldClass : String
  messageClass : String
  deriving DecidableEq, Repr

/-- The usual classes. -/
def ReportMarkup.default : ReportMarkup := ⟨"valigator-field", "valigator-error-message"⟩

/-- An element of a class around a text. -/
def spanOf (elementClass text : String) : String := "<span class=\"" ++ elementClass ++ "\">" ++ text ++ "</span>"

namespace Engine

/-- One sentence for each failure; labels stand in elements. -/
def sentences (engine : Engine) (markup : ReportMarkup) : List String :=
  engine.failures.map fun failure =>
    failure.sentence (spanOf markup.fieldClass (engine.labelOf failure.field))

/-- All sentences, each in an element; `none` if there is no failure. -/
def joinedSentences (engine : Engine) (markup : ReportMarkup) : Option String :=
  if engine.failures.isEmpty then none
  else some (String.join ((engine.sentences markup).map (spanOf markup.messageClass)))

/-- The sentences as a page shows them. -/
def display (engine : Engine) : String := (engine.joinedSentences .default).getD ""

/-- The sentence of the last failure of each field. -/
def sentenceByField (engine : Engine) : Keyed String :=
  engine.failures.foldl
    (fun list failure => list.put failure.field (failure.sentence (engine.labelOf failure.field))) []

end Engine

/-! ### Console -/

/-- The sequences that begin and end bold text of a colour. -/
structure Emphasis where
  start : String
  stop : String

/-- Bold yellow text, for field ids. -/
def Emphasis.field : Emphasis := ⟨"\x1b[1m\x1b[33m", "\x1b[39m\x1b[0m"⟩

/-- Bold red text, for faults. -/
def Emphasis.fault : Emphasis := ⟨"\x1b[1m\x1b[31m", "\x1b[39m\x1b[0m"⟩

/-- The text, emphasised if colours are shown. -/
def Emphasis.apply (emphasis : Emphasis) (inColor : Bool) (text : String) : String :=
  if inColor then emphasis.start ++ text ++ emphasis.stop else text

/-- The line that reports a fault. -/
def faultLine (inColor : Bool) (message : String) : String :=
  Emphasis.fault.apply inColor "error:" ++ " " ++ message ++ "\n"

/-- The formats of reports. -/
inductive ReportFormat where
  | text
  | json
  deriving DecidableEq, Repr

namespace Failure

/-- A failure as a JSON object. -/
def toJson (failure : Failure) : Json :=
  .object
    [("field", .string failure.field), ("value", .string failure.value), ("rule_name", .string failure.ruleName),
     ("arguments", .array (failure.arguments.map .string)), ("kind", .string failure.kind.name),
     ("message", .string failure.message)]

/-- One line for each failure. -/
def textReport (inColor : Bool) (failures : List Failure) : String :=
  String.join (failures.map fun failure =>
    Emphasis.field.apply inColor failure.field ++ ": " ++ failure.message ++ "\n")

/-- The failures as a JSON array over several lines. -/
def jsonReport (failures : List Failure) : String := (Json.array (failures.map toJson)).pretty ++ "\n"

/-- The report in a format. Colours are for the text only. -/
def report (format : ReportFormat) (inColor : Bool) (failures : List Failure) : String :=
  match format with
  | .text => textReport inColor failures
  | .json => jsonReport failures

end Failure

end RecordRules
