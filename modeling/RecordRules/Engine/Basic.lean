/-
The engine: fields with their rules, and what a run of the rules says about a
record.

* `Engine`: the fields in order, the failures of the last run, the registry;
* `Engine.configure`, `Engine.setLabels`, `Engine.setSanitizations`,
  `Engine.setValidations`: more rules; all rule texts are read before anything
  changes;
* `Engine.sanitize`: the record with changed values, or the first fault;
* `Engine.validate`, `Engine.validateWithVerdict`: all failures of a record;
* `Engine.run`: both, and fields without rules if that is asked for.
-/
import RecordRules.Configuration.Basic
import RecordRules.Engine.Failure
import RecordRules.FieldRules
import RecordRules.Registry

namespace RecordRules

/-- Fields with their rules, the failures of the last run, and the rules that
are known by name. -/
structure Engine where
  fields : Keyed FieldRules
  failures : List Failure
  registry : Registry

namespace Engine

/-- An engine without fields. -/
def ofRegistry (registry : Registry) : Engine := ⟨[], [], registry⟩

/-! ### Fields -/

/-- The rules of a field. -/
def field? (engine : Engine) (id : String) : Option FieldRules := engine.fields.get? id

/-- The label of a field; fields that are not there have the label that is made
from their id. -/
def labelOf (engine : Engine) (id : String) : String :=
  match engine.field? id with
  | some field => field.label
  | none => Label.humanize id

/-- Changes the rules of a field, which is added if it is not there. -/
def changeField (engine : Engine) (id : String) (f : FieldRules → FieldRules) : Engine :=
  { engine with fields := engine.fields.changeOrAdd (FieldRules.ofId id) id f }

/-- What a field spec adds to a field, with its rule texts read. -/
structure Addition where
  label : Option String
  sanitizations : List Rule
  validations : List Rule

/-- Reads the rule texts of a field spec. -/
def Addition.ofSpec (spec : FieldSpec) : Except RuleTextError Addition := do
  let sanitizations ← Rule.ofOptional .sanitization spec.sanitizations
  let validations ← Rule.ofOptional .validation spec.validations
  .ok ⟨spec.label, sanitizations, validations⟩

/-- The field with an addition. -/
def Addition.addTo (addition : Addition) (field : FieldRules) : FieldRules :=
  let field := match addition.label with
    | some label => field.withLabel label
    | none => field
  (field.addSanitizations .after addition.sanitizations).addValidations .after addition.validations

/-- Adds what a configuration says. -/
def configure (engine : Engine) (configuration : Configuration) : Except RuleTextError Engine := do
  let additions ← configuration.fields.mapM fun (id, spec) => (Addition.ofSpec spec).map fun addition => (id, addition)
  .ok (additions.foldl (fun engine (id, addition) => engine.changeField id addition.addTo) engine)

/-- An engine with the fields of a configuration. -/
def ofConfiguration (registry : Registry) (configuration : Configuration) : Except RuleTextError Engine :=
  (ofRegistry registry).configure configuration

/-- Sets labels. -/
def setLabels (engine : Engine) (labels : List (String × String)) : Engine :=
  labels.foldl (fun engine (id, label) => engine.changeField id (·.withLabel label)) engine

/-- Reads one rule text for each field. -/
def readRules (kind : RuleKind) (texts : List (String × String)) : Except RuleTextError (List (String × List Rule)) :=
  texts.mapM fun (id, text) => (Rule.ofOptional kind (some text)).map fun rules => (id, rules)

/-- Adds sanitizations. -/
def setSanitizations (engine : Engine) (placement : Placement) (texts : List (String × String)) :
    Except RuleTextError Engine := do
  let added ← readRules .sanitization texts
  .ok (added.foldl (fun engine (id, rules) => engine.changeField id (·.addSanitizations placement rules)) engine)

/-- Adds validations after those that are there. -/
def setValidations (engine : Engine) (texts : List (String × String)) : Except RuleTextError Engine := do
  let added ← readRules .validation texts
  .ok (added.foldl (fun engine (id, rules) => engine.changeField id (·.addValidations .after rules)) engine)

/-- Changes the given fields that are there, or all of them. -/
def changeFields (engine : Engine) (ids : Option (List String)) (f : FieldRules → FieldRules) : Engine :=
  match ids with
  | none => { engine with fields := engine.fields.map fun (id, field) => (id, f field) }
  | some ids => { engine with fields := ids.foldl (fun fields id => fields.change id f) engine.fields }

/-- Removes the sanitizations of the given fields, or of all. -/
def clearSanitizations (engine : Engine) (ids : Option (List String)) : Engine :=
  engine.changeFields ids FieldRules.clearSanitizations

/-- Removes the validations of the given fields, or of all. -/
def clearValidations (engine : Engine) (ids : Option (List String)) : Engine :=
  engine.changeFields ids FieldRules.clearValidations

/-! ### Sanitizing -/

/-- The value after one rule. -/
def applyRule (registry : Registry) (value : Json) (rule : Rule) : Except Fault Json := do
  let resolved ← registry.sanitizer rule.name rule.arguments
  value.mapLeaves resolved.apply

/-- The value after rules, one after another. -/
def applyRules (registry : Registry) (rules : List Rule) (value : Json) : Except Fault Json :=
  rules.foldlM (applyRule registry) value

/-- The record with one field sanitized, if the record has it. -/
def sanitizeField (registry : Registry) (record : Record) (id : String) (field : FieldRules) :
    Except Fault Record :=
  match record.get? id with
  | some value => (applyRules registry field.sanitizations value).map (record.put id)
  | none => .ok record

/-- The record with all fields sanitized. -/
def sanitize (engine : Engine) (record : Record) : Except Fault Record :=
  engine.fields.foldlM (fun record (id, field) => sanitizeField engine.registry record id field) record

/-! ### Validating -/

/-- The failure of one rule of a field, if it fails. Rules that do not ask for
presence pass on blank values. -/
def judge (surroundings : Surroundings) (registry : Registry) (record : Record) (id label : String) (rule : Rule) :
    Except Fault (Option Failure) :=
  let value := record.get? id
  match registry.validator? rule.name rule.arguments with
  | none => .ok (some (Failure.ofUnknownRule id label value rule))
  | some resolved =>
    if Failure.isBlank value && !resolved.rule.checksPresence then .ok none
    else do
      let accepted ← resolved.check surroundings id record
      if accepted then .ok none
      else .ok (some (Failure.ofRule id label value resolved.name rule resolved.rule.message?))

/-- The failures of a field, in the order of its rules. -/
def fieldFailures (surroundings : Surroundings) (registry : Registry) (record : Record) (id : String)
    (field : FieldRules) : Except Fault (List Failure) :=
  (field.validations.mapM (judge surroundings registry record id field.label)).map fun results =>
    results.filterMap fun result => result

/-- The failures of a record, in the order of the fields. -/
def failuresOf (surroundings : Surroundings) (engine : Engine) (record : Record) : Except Fault (List Failure) :=
  (engine.fields.mapM fun (id, field) => fieldFailures surroundings engine.registry record id field).map
    List.flatten

/-- Records the failures of a record in place of those of the last run. -/
def validate (surroundings : Surroundings) (engine : Engine) (record : Record) : Except Fault Engine :=
  (failuresOf surroundings engine record).map fun failures => { engine with failures := failures }

/-- What is said about the failures of the last run: nothing, or all of them. -/
def verdict (engine : Engine) : Except (List Failure) Unit :=
  if engine.failures.isEmpty then .ok () else .error engine.failures

/-- Records the failures of a record, and gives the verdict. -/
def validateWithVerdict (surroundings : Surroundings) (engine : Engine) (record : Record) :
    Except Fault (Engine × Except (List Failure) Unit) :=
  (validate surroundings engine record).map fun engine => (engine, engine.verdict)

/-- Whether a field has rules. -/
def isConfigured (engine : Engine) (id : String) : Bool := (engine.field? id).any FieldRules.hasRules

/-- A failure for each field of a record that has no rules, in the order of the
record. -/
def mismatches (engine : Engine) (record : Record) : List Failure :=
  (record.filter fun (id, _) => !engine.isConfigured id).map fun (id, value) =>
    Failure.ofMismatch id (engine.labelOf id) value

/-- Sanitizes and validates a record. The sanitized record is the result if
there is no failure. -/
def run (surroundings : Surroundings) (engine : Engine) (record : Record) (checkUnknown : Bool) :
    Except Fault (Engine × Option Record) := do
  let sanitized ← engine.sanitize record
  let failures ← failuresOf surroundings engine sanitized
  let failures := if checkUnknown then failures ++ engine.mismatches sanitized else failures
  let result := if failures.isEmpty then some sanitized else none
  .ok ({ engine with failures := failures }, result)

end Engine

end RecordRules
