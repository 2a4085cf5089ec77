/-
The rules that are known by name.

* `Registry`: the custom rules and the text functions besides those that are
  always there;
* `Registry.sanitizer`, `Registry.validator?`: what a name stands for;
* `Registry.addSanitizer`, `Registry.addValidator`, `Registry.addTextFunction`:
  a new rule, unless its name is taken.

A name stands for the rule that is always there, else for the custom rule, else
for what its synonym stands for; text functions come last.
-/
import RecordRules.Keyed
import RecordRules.Message.Catalog
import RecordRules.Sanitizer.Basic
import RecordRules.Sanitizer.TextFunction
import RecordRules.Validator.Basic

namespace RecordRules

/-- A custom sanitizer: the value that replaces a leaf, by the leaf and the
resolved arguments. -/
abbrev CustomSanitizer := Json → List String → Json

/-- A custom validator. -/
structure CustomValidator where
  /-- Whether a field of a record is accepted, by the resolved arguments. -/
  accepts : String → Record → List String → Bool
  /-- The template of its messages. -/
  message : String

/-- What the name of a sanitization stands for. -/
inductive SanitizerRule where
  | builtin (sanitizer : Sanitizer)
  | custom (sanitizer : CustomSanitizer)
  /-- A text function, which changes strings only. -/
  | text (function : String → String)

/-- What the name of a validation stands for. -/
inductive ValidatorRule where
  | builtin (validator : Validator)
  | custom (validator : CustomValidator)

/-- A rule by its resolved name, with its resolved arguments. -/
structure Resolved (α : Type) where
  name : String
  arguments : List String
  rule : α

/-- The rules besides those that are always there, by their names in lower
case. -/
structure Registry where
  sanitizers : Keyed CustomSanitizer
  validators : Keyed CustomValidator
  textFunctions : Keyed (String → String)

namespace SanitizerRule

/-- Where a rule comes from. -/
def origin : SanitizerRule → String
  | builtin _ => "builtin"
  | custom _ => "custom"
  | text _ => "host"

end SanitizerRule

namespace ValidatorRule

/-- Where a rule comes from. -/
def origin : ValidatorRule → String
  | builtin _ => "builtin"
  | custom _ => "custom"

/-- Whether a rule also runs on fields that are missing or blank. -/
def checksPresence : ValidatorRule → Bool
  | builtin validator => validator.checksPresence
  | custom _ => false

/-- The template that a custom rule came with. -/
def message? : ValidatorRule → Option String
  | builtin _ => none
  | custom validator => some validator.message

end ValidatorRule

namespace Resolved

/-- The value that replaces a leaf. -/
def apply (resolved : Resolved SanitizerRule) (value : Json) : Except Fault Json :=
  match resolved.rule with
  | .builtin sanitizer => sanitizer.apply value resolved.arguments
  | .custom sanitizer => .ok (sanitizer value resolved.arguments)
  | .text function =>
    match value with
    | .string s => .ok (.string (function s))
    | other => .ok other

/-- Whether a field of a record is accepted. -/
def check (surroundings : Surroundings) (resolved : Resolved ValidatorRule) (field : String) (record : Record) :
    Except Fault Bool :=
  match resolved.rule with
  | .builtin validator => validator.check surroundings field record resolved.arguments
  | .custom validator => .ok (validator.accepts field record resolved.arguments)

end Resolved

namespace Registry

/-- The registry without custom rules. -/
def initial : Registry :=
  ⟨[], [], TextFunction.defaults.map fun (name, function) =>
    (name, fun s => String.ofList (function.apply s.toList))⟩

/-! ### Looking up -/

/-- The sanitization that a name in lower case stands for, with its resolved
name. -/
def findSanitizer? (registry : Registry) (name : String) : Option (String × SanitizerRule) :=
  let synonym := Synonym.resolve name
  let builtin := fun n => (Sanitizer.named? n).map fun s => (n, SanitizerRule.builtin s)
  let custom := fun n => (registry.sanitizers.get? n).map fun s => (n, SanitizerRule.custom s)
  let text := fun n => (registry.textFunctions.get? n).map fun f => (n, SanitizerRule.text f)
  builtin name <|> custom name <|> builtin synonym <|> text name <|> text synonym

/-- The sanitization that a name stands for. -/
def sanitizer (registry : Registry) (name : String) (arguments : List String) :
    Except Fault (Resolved SanitizerRule) :=
  let name := Text.lowerString name
  match registry.findSanitizer? name with
  | some (resolved, rule) => .ok ⟨resolved, Synonym.resolveAll arguments, rule⟩
  | none => .error (.unknownFilter name)

/-- The validation that a name in lower case stands for, with its resolved
name. -/
def findValidator? (registry : Registry) (name : String) : Option (String × ValidatorRule) :=
  let synonym := Synonym.resolve name
  let builtin := fun n => (Validator.named? n).map fun v => (n, ValidatorRule.builtin v)
  let custom := fun n => (registry.validators.get? n).map fun v => (n, ValidatorRule.custom v)
  builtin name <|> custom name <|> builtin synonym

/-- The validation that a name stands for. -/
def validator? (registry : Registry) (name : String) (arguments : List String) : Option (Resolved ValidatorRule) :=
  (registry.findValidator? (Text.lowerString name)).map fun (resolved, rule) =>
    ⟨resolved, Synonym.resolveAll arguments, rule⟩

/-! ### Adding rules -/

/-- Adds a custom sanitizer. -/
def addSanitizer (registry : Registry) (name : String) (sanitizer : CustomSanitizer) : Except Fault Registry :=
  let name := Text.lowerString name
  if (Sanitizer.named? name).isSome ∨ (registry.sanitizers.get? name).isSome then
    .error (.duplicateRule .sanitization name)
  else .ok { registry with sanitizers := registry.sanitizers ++ [(name, sanitizer)] }

/-- Adds a custom validator. Without a message, or with an empty one, it has the
default template. -/
def addValidator (registry : Registry) (name : String) (accepts : String → Record → List String → Bool)
    (message : Option String) : Except Fault Registry :=
  let name := Text.lowerString name
  if (Validator.named? name).isSome ∨ (registry.validators.get? name).isSome then
    .error (.duplicateRule .validation name)
  else
    let message := (message.filter (· ≠ "")).getD Catalog.defaultLong
    .ok { registry with validators := registry.validators ++ [(name, ⟨accepts, message⟩)] }

/-- Adds a text function. -/
def addTextFunction (registry : Registry) (name : String) (function : String → String) : Except Fault Registry :=
  let name := Text.lowerString name
  if (registry.textFunctions.get? name).isSome then .error (.duplicateRule .sanitization name)
  else .ok { registry with textFunctions := registry.textFunctions ++ [(name, function)] }

/-! ### Summary -/

/-- The numbers of rules, by kind. -/
def summary (registry : Registry) : String :=
  let counts :=
    [("builtin_sanitizers", Sanitizer.all.length), ("builtin_validators", Validator.all.length),
     ("custom_sanitizers", registry.sanitizers.length), ("custom_validators", registry.validators.length),
     ("host_functions", registry.textFunctions.length)]
  "RuleRegistry \x7b " ++
    String.intercalate ", " (counts.map fun (name, n) => name ++ ": " ++ String.ofList (digitsOf n)) ++ " \x7d"

end Registry

end RecordRules
