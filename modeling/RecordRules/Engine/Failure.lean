/-
Failures of a validation.

* `Failure`: a field and the rule that rejected it, with the message;
* `Failure.ofRule`, `Failure.ofUnknownRule`, `Failure.ofMismatch`: the three
  kinds.
-/
import RecordRules.Engine.Value
import RecordRules.Message.Catalog
import RecordRules.Message.Sentence
import RecordRules.Message.Template

namespace RecordRules

/-- Why a failure was recorded. -/
inductive FailureKind where
  /-- A rule rejected the value. -/
  | ruleFailed
  /-- No rule has the name. -/
  | unknownRule
  /-- The record has a field without rules. -/
  | fieldMismatch
  deriving DecidableEq, Repr

/-- The name of a kind in reports. -/
def FailureKind.name : FailureKind → String
  | ruleFailed => "rule_failed"
  | unknownRule => "unknown_rule"
  | fieldMismatch => "field_mismatch"

/-- One field that one rule rejected. -/
structure Failure where
  field : String
  /-- The value as it stands in messages. -/
  value : String
  ruleName : String
  arguments : List String
  kind : FailureKind
  message : String
  deriving DecidableEq, Repr

namespace Failure

/-- A value that is missing is blank. -/
def isBlank (value : Option Json) : Bool := value.all Json.isBlank

/-- The value as it stands in templates. -/
def shownValue (value : Option Json) : String := (value.map Json.displayText).getD ""

/-- The value as it is recorded: blank values have a word of their own. -/
def recordedValue (value : Option Json) : String :=
  if isBlank value then Template.emptyValue else shownValue value

/-- A failure whose message is made from a template. -/
def ofTemplate (kind : FailureKind) (template field label : String) (value : Option Json) (ruleName : String)
    (arguments : List String) : Failure :=
  { field := field
    value := recordedValue value
    ruleName := ruleName
    arguments := arguments
    kind := kind
    message := Template.render template ⟨label, shownValue value, ruleName, arguments⟩ }

/-- A rule rejected the value. Its own message comes first, then the message of
the custom rule, then the template of its name. -/
def ofRule (field label : String) (value : Option Json) (resolvedName : String) (rule : Rule)
    (customMessage : Option String) : Failure :=
  let template := (rule.message <|> customMessage <|> Catalog.lookup? rule.name).filter (· ≠ "")
  ofTemplate .ruleFailed (template.getD Catalog.defaultLong) field label value resolvedName rule.arguments

/-- No rule has the name. -/
def ofUnknownRule (field label : String) (value : Option Json) (rule : Rule) : Failure :=
  ofTemplate .unknownRule Catalog.unknownRule field label value rule.name rule.arguments

/-- The record has a field without rules. -/
def ofMismatch (field label : String) (value : Json) : Failure :=
  ofTemplate .fieldMismatch Catalog.mismatch field label (some value) Sentence.mismatch []

/-- The name under which the sentence of a failure is found. -/
def sentenceKey (failure : Failure) : String :=
  match failure.kind with
  | .fieldMismatch => Sentence.mismatch
  | .ruleFailed | .unknownRule => failure.ruleName

/-- The sentence of a failure about a label. -/
def sentence (failure : Failure) (label : String) : String :=
  Sentence.readable failure.sentenceKey label failure.arguments

end Failure

end RecordRules
