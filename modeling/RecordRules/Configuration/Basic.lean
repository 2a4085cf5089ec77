/-
Configurations: what is said about each field.

* `FieldSpec`, `Configuration`: labels and rule texts of fields, in order;
* `Configuration.overlay`: a configuration on top of another one;
* `Configuration.defects`: blank ids and rule texts that cannot be read.
-/
import RecordRules.Keyed
import RecordRules.Rule.Reader
import RecordRules.Text.Blank

namespace RecordRules

/-- What is said about a field. -/
structure FieldSpec where
  label : Option String
  sanitizations : Option String
  validations : Option String
  deriving DecidableEq, Repr

/-- Fields in the order of their first mention. -/
structure Configuration where
  fields : Keyed FieldSpec
  deriving DecidableEq, Repr

/-! ### Rule texts -/

/-- The rules of a text; a missing or blank text has none. -/
def Rule.ofOptional (kind : RuleKind) (text : Option String) : Except RuleTextError (List Rule) :=
  match text with
  | none => .ok []
  | some text => if Text.isAllBlank text.toList then .ok [] else Rule.parse kind text

namespace FieldSpec

/-- Nothing is said. -/
def empty : FieldSpec := ⟨none, none, none⟩

/-- What the upper one says, and else what the lower one says. -/
def overlay (lower upper : FieldSpec) : FieldSpec :=
  ⟨upper.label <|> lower.label, upper.sanitizations <|> lower.sanitizations,
    upper.validations <|> lower.validations⟩

/-- The faults of the rule texts of a field, sanitizations first. -/
def faults (spec : FieldSpec) : List RuleTextError :=
  [Rule.ofOptional .sanitization spec.sanitizations, Rule.ofOptional .validation spec.validations].filterMap
    fun
    | .error e => some e
    | .ok _ => none

theorem overlay_assoc (a b c : FieldSpec) : (a.overlay b).overlay c = a.overlay (b.overlay c) := by
  simp [overlay, Option.orElse_eq_orElse, Option.orElse_eq_or, Option.or_assoc]

end FieldSpec

namespace Configuration

/-- No fields. -/
def empty : Configuration := ⟨[]⟩

/-- A configuration on top of another one: fields of both take every attribute
from the upper one if it sets the attribute. -/
def overlay (lower upper : Configuration) : Configuration :=
  ⟨upper.fields.foldl (fun fields (id, spec) => fields.changeOrAdd .empty id (·.overlay spec)) lower.fields⟩

/-! ### Faults -/

/-- A fault of a configuration. -/
inductive Defect where
  | blankId
  | ruleText (field : String) (error : RuleTextError)
  deriving DecidableEq, Repr

/-- A fault in words. -/
def Defect.message : Defect → String
  | blankId => "A field has an empty id."
  | ruleText field error => "Field '" ++ field ++ "': " ++ error.message

/-- The faults of a field. -/
def fieldDefects (id : String) (spec : FieldSpec) : List Defect :=
  if Text.isAllBlank id.toList then [.blankId] else spec.faults.map (.ruleText id)

/-- All faults, in the order of the fields. -/
def defects (configuration : Configuration) : List Defect :=
  configuration.fields.flatMap fun (id, spec) => fieldDefects id spec

/-- The report of faults. -/
def report (defects : List Defect) : String :=
  "Invalid field configuration:\n" ++ String.intercalate "\n" (defects.map Defect.message)

end Configuration

end RecordRules
