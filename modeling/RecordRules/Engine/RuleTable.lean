/-
The table of all rules of an engine.

* `RuleRow`: one rule of a field, and what its name stands for;
* `Engine.ruleRows`, `Engine.ruleTable`: the rows in the order in which the
  rules run.
-/
import RecordRules.Engine.Basic
import RecordRules.Table

namespace RecordRules

/-- One rule of a field. -/
structure RuleRow where
  field : String
  label : String
  kind : RuleKind
  rule : Rule
  /-- The resolved name and the origin of the rule, if its name stands for one. -/
  resolution : Option (String × String)
  deriving DecidableEq, Repr

namespace RuleRow

/-- What is shown for names that stand for nothing. -/
def unknown : String := "unknown"

/-- The last cell: the resolved name and, in brackets, its origin. -/
def resolutionText (row : RuleRow) : String :=
  match row.resolution with
  | some (name, origin) => name ++ " (" ++ origin ++ ")"
  | none => unknown

/-- The cells of a row. -/
def cells (row : RuleRow) : List String :=
  [row.field, row.label, row.kind.title, row.rule.name, String.intercalate ", " row.rule.arguments,
   row.rule.message.getD "-", row.resolutionText]

/-- The head of the table. -/
def head : List String := ["Field", "Label", "Kind", "Rule", "Arguments", "Message", "Resolves To"]

end RuleRow

namespace Registry

/-- What the name of a rule stands for: the resolved name and the origin. -/
def resolution (registry : Registry) (kind : RuleKind) (rule : Rule) : Option (String × String) :=
  match kind with
  | .sanitization =>
    match registry.sanitizer rule.name rule.arguments with
    | .ok resolved => some (resolved.name, resolved.rule.origin)
    | .error _ => none
  | .validation =>
    (registry.validator? rule.name rule.arguments).map fun resolved => (resolved.name, resolved.rule.origin)

end Registry

namespace Engine

/-- The rows of one kind of rules of a field. -/
def rowsOf (engine : Engine) (id : String) (field : FieldRules) (kind : RuleKind) (rules : List Rule) :
    List RuleRow :=
  rules.map fun rule => ⟨id, field.label, kind, rule, engine.registry.resolution kind rule⟩

/-- The rows of all rules: field by field, sanitizations first. -/
def ruleRows (engine : Engine) : List RuleRow :=
  engine.fields.flatMap fun (id, field) =>
    engine.rowsOf id field .sanitization field.sanitizations ++
      engine.rowsOf id field .validation field.validations

/-- The table of all rules. -/
def ruleTable (engine : Engine) : Table := ⟨RuleRow.head, engine.ruleRows.map RuleRow.cells⟩

end Engine

end RecordRules
