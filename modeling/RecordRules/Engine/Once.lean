/-
Rules for a single record, without an engine that stays.

* `sanitizeOnce`, `validateOnce`.
-/
import RecordRules.Engine.Report

namespace RecordRules

/-- The record after the sanitizations of one rule text for each field. -/
def sanitizeOnce (registry : Registry) (texts : List (String × String)) (record : Record) : Except Fault Record :=
  match (Engine.ofRegistry registry).setSanitizations .after texts with
  | .ok engine => engine.sanitize record
  | .error e => .error (.grammar e)

/-- The sentences about the validations of one rule text for each field. -/
def validateOnce (surroundings : Surroundings) (registry : Registry) (texts : List (String × String))
    (record : Record) : Except Fault (List String) :=
  match (Engine.ofRegistry registry).setValidations texts with
  | .ok engine => (engine.run surroundings record false).map fun (engine, _) => engine.sentences .default
  | .error e => .error (.grammar e)

end RecordRules
