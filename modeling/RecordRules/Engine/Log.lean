/-
What is said in the log about rule texts, and about an engine, its files and its
runs.

* `Rule.parseLog`: a rule text is read;
* `Engine.configureLog`, `Engine.loadLog`: fields get their rules, from a
  configuration or from files;
* `Engine.sanitizeLog`, `Engine.validateLog`, `Engine.runLog`: the rules run;
* `Engine.tableLog`: the table of the rules is made.

A rule that is unknown, and an argument that is no pattern, are warnings; files are
for information, and all else is for debugging.
-/
import RecordRules.Engine.Load
import RecordRules.Engine.RuleTable
import RecordRules.Log

namespace RecordRules

/-- A number in a line. -/
def countText (n : Nat) : String := String.ofList (digitsOf n)

/-! ### Rule texts -/

namespace Rule

/-- A line about the reading of rule texts. -/
def readingLine (text : String) : LogLine := ⟨.debug, "fieldsieve_core::grammar", text⟩

/-- A rule text is read: the specs that are left out, and at the end the number of
rules. -/
def parseLog (kind : RuleKind) (text : String) : List LogLine :=
  let excluded := (RuleText.excludedNames text.toList).map fun name =>
    readingLine ("Skipping excluded rule spec '" ++ name ++ "'")
  match parse kind text with
  | .ok rules =>
    excluded ++ [readingLine
      ("Parsed " ++ countText rules.length ++ " " ++ kind.title ++ " rule(s) from '" ++ text ++ "'")]
  | .error _ => excluded

/-- A missing or blank text is not read. -/
def parseOptionalLog (kind : RuleKind) (text : Option String) : List LogLine :=
  match text with
  | none => []
  | some text => if Text.isAllBlank text.toList then [] else parseLog kind text

end Rule

namespace Engine

/-- A line about an engine. -/
def line (level : LogLevel) (text : String) : LogLine := ⟨level, "fieldsieve_core::engine", text⟩

/-- The rule texts of a field are read, up to the first fault. -/
def Addition.log (spec : FieldSpec) : List LogLine :=
  Rule.parseOptionalLog .sanitization spec.sanitizations ++
    match Rule.ofOptional .sanitization spec.sanitizations with
    | .ok _ => Rule.parseOptionalLog .validation spec.validations
    | .error _ => []

/-- The fields of a configuration get their rules, if all rule texts can be read. -/
def configureLog (engine : Engine) (configuration : Configuration) : List LogLine :=
  let reading := LogLine.throughSteps (fun (_, spec) => Addition.log spec)
    (fun (_, spec) => !(Addition.ofSpec spec).isOk) configuration.fields
  match engine.configure configuration with
  | .ok engine => reading ++ [line .debug ("Engine configured with " ++ countText engine.fields.length ++ " fields.")]
  | .error _ => reading

end Engine

/-! ### Files -/

namespace Configuration

/-- A line about a configuration file. -/
def line (level : LogLevel) (text : String) : LogLine := ⟨level, "fieldsieve_core::config", text⟩

/-- The rule texts of all fields are checked. -/
def checkLog (fields : Keyed FieldSpec) : List LogLine :=
  fields.flatMap fun (id, spec) =>
    if Text.isAllBlank id.toList then []
    else Rule.parseOptionalLog .sanitization spec.sanitizations ++ Rule.parseOptionalLog .validation spec.validations

/-- The configuration in the file at a path is read. -/
def fileLog (files : Files) (path : String) : List LogLine :=
  let loading := line .info ("Loading field configuration from: " ++ path)
  let read := (files path).toOption.bind fun text =>
    (if isJsonPath path then fieldsOfJsonText text else fieldsOfYamlText text).toOption
  match read with
  | none => [loading]
  | some fields =>
    let loaded := line .info ("Loaded " ++ countText fields.length ++ " fields from file " ++ path ++ ".")
    loading :: checkLog fields ++ if (defects ⟨fields⟩).isEmpty then [loaded] else []

/-- The configurations of files are read and put on a lower one, up to the first file
without a configuration. -/
def filesLog (files : Files) (lower : Configuration) : List String → List LogLine
  | [] => []
  | path :: rest =>
    match ofFile files path with
    | .error _ => fileLog files path
    | .ok upper =>
      let merging := line .debug ("Merging " ++ countText upper.fields.length ++ " user fields into " ++
        countText lower.fields.length ++ " base fields.")
      fileLog files path ++ merging :: filesLog files (lower.overlay upper) rest

end Configuration

namespace Engine

/-- An engine is made from configuration files. -/
def loadLog (registry : Registry) (files : Files) (paths : List String) : List LogLine :=
  let reading := Configuration.filesLog files .empty paths
  match Configuration.ofFiles files paths with
  | .error _ => reading
  | .ok configuration =>
    let building := ⟨.debug, "fieldsieve::commands",
      "Building engine for " ++ countText configuration.fields.length ++ " configured fields."⟩
    reading ++ building :: (ofRegistry registry).configureLog configuration

/-! ### Runs -/

/-- The name of a sanitization is resolved. -/
def resolvedLine (name : String) : LogLine :=
  ⟨.debug, "fieldsieve_core::registry", "Sanitization rule resolved to '" ++ name ++ "'"⟩

/-- A sanitization runs on a field. -/
def applyRuleLog (registry : Registry) (id : String) (rule : Rule) : List LogLine :=
  match registry.sanitizer rule.name rule.arguments with
  | .ok resolved =>
    [resolvedLine resolved.name, line .debug ("Sanitizing field '" ++ id ++ "' with '" ++ resolved.name ++ "'")]
  | .error _ => []

/-- The fields of a record are sanitized, up to the first unknown rule. -/
def sanitizeLog (engine : Engine) (record : Record) : List LogLine :=
  let steps := engine.fields.flatMap fun (id, field) =>
    if (record.get? id).isSome then field.sanitizations.map fun rule => (id, rule) else []
  LogLine.throughSteps (fun (id, rule) => applyRuleLog engine.registry id rule)
    (fun (_, rule) => !(engine.registry.sanitizer rule.name rule.arguments).isOk) steps

/-- The argument of a rule for patterns is none, with what is said about that. -/
def patternLog (aboutPattern : String → String) (resolved : Resolved ValidatorRule) : List LogLine :=
  match resolved.rule, resolved.arguments with
  | .builtin .pattern, argument :: _ =>
    if (Validator.patternArgument? argument).isSome then []
    else
      [⟨.warn, "fieldsieve_core::validators",
        "Rule argument '" ++ argument ++ "' is not a valid regular expression: " ++ aboutPattern argument⟩]
  | _, _ => []

/-- A validation runs on a field. -/
def judgeLog (aboutPattern : String → String) (surroundings : Surroundings) (registry : Registry) (record : Record)
    (id : String) (rule : Rule) : List LogLine :=
  match registry.validator? rule.name rule.arguments with
  | none => [line .warn ("Validation rule '" ++ rule.name ++ "' for field '" ++ id ++ "' does not exist.")]
  | some resolved =>
    if Failure.isBlank (record.get? id) && !resolved.rule.checksPresence then []
    else
      patternLog aboutPattern resolved ++
        match resolved.check surroundings id record with
        | .ok false => [line .debug ("Field '" ++ id ++ "' failed validation '" ++ resolved.name ++ "'")]
        | _ => []

/-- The fields of a record are validated. -/
def validateLog (aboutPattern : String → String) (surroundings : Surroundings) (engine : Engine) (record : Record) :
    List LogLine :=
  engine.fields.flatMap fun (id, field) =>
    field.validations.flatMap (judgeLog aboutPattern surroundings engine.registry record id)

/-- A record is sanitized and validated. -/
def runLog (aboutPattern : String → String) (surroundings : Surroundings) (engine : Engine) (record : Record)
    (checkUnknown : Bool) : List LogLine :=
  let sanitizing := engine.sanitizeLog record
  match engine.sanitize record with
  | .error _ => sanitizing
  | .ok sanitized =>
    let validating := validateLog aboutPattern surroundings engine sanitized
    match engine.run surroundings record checkUnknown with
    | .ok (after, none) =>
      sanitizing ++ validating ++ [line .debug ("Run finished with " ++ countText after.failures.length ++ " errors.")]
    | _ => sanitizing ++ validating

/-! ### The table of rules -/

/-- The names of sanitizations are resolved, row by row. -/
def tableLog (engine : Engine) : List LogLine :=
  engine.ruleRows.filterMap fun row =>
    match row.kind, row.resolution with
    | .sanitization, some (name, _) => some (resolvedLine name)
    | _, _ => none

end Engine

end RecordRules
