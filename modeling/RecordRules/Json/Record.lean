/-
Reading input records.

* `Record.ofString`: the members of a JSON object, or why a text is none.
-/
import RecordRules.Json.Reader

namespace RecordRules

/-- Why a text is no record. -/
inductive RecordFault where
  /-- The text is no JSON. -/
  | notJson (text : String)
  | notAnObject (found : String)
  deriving DecidableEq, Repr

/-- What a value that is no object is called. -/
def Json.kindName : Json → String
  | .null => "null"
  | .bool _ => "a boolean"
  | .number _ => "a number"
  | .string _ => "a string"
  | .array _ => "an array"
  | .object _ => "an object"

/-- The message of a record fault, with what is said about a text that is no JSON. -/
def RecordFault.message (aboutJson : String → String) : RecordFault → String
  | .notJson text => "Input is not valid JSON: " ++ aboutJson text
  | .notAnObject found => "Input must be a JSON object, got " ++ found

/-- The record that a JSON text holds. -/
def Record.ofString (text : String) : Except RecordFault Record :=
  match Json.ofString? text with
  | none => .error (.notJson text)
  | some (.object members) => .ok members
  | some other => .error (.notAnObject other.kindName)

end RecordRules
