/-
The rules of one field.

* `FieldRules`: a label and two lists of rules, in the order in which they run;
* `FieldRules.addSanitizations`, `FieldRules.addValidations`: more rules, before
  or after those that are there.
-/
import RecordRules.Label
import RecordRules.Rule.Basic

namespace RecordRules

/-- Where rules are added. -/
inductive Placement where
  | before
  | after
  deriving DecidableEq, Repr

/-- The list with rules added. -/
def Placement.add : Placement → List Rule → List Rule → List Rule
  | before, old, added => added ++ old
  | after, old, added => old ++ added

/-- The label and the rules of a field. -/
structure FieldRules where
  label : String
  sanitizations : List Rule
  validations : List Rule
  deriving DecidableEq, Repr

namespace FieldRules

/-- A field without rules; its label is made from its id. -/
def ofId (id : String) : FieldRules := ⟨Label.humanize id, [], []⟩

/-- The field with another label. -/
def withLabel (field : FieldRules) (label : String) : FieldRules := { field with label := label }

/-- The field with more sanitizations. -/
def addSanitizations (field : FieldRules) (placement : Placement) (rules : List Rule) : FieldRules :=
  { field with sanitizations := placement.add field.sanitizations rules }

/-- The field with more validations. -/
def addValidations (field : FieldRules) (placement : Placement) (rules : List Rule) : FieldRules :=
  { field with validations := placement.add field.validations rules }

/-- The field without sanitizations. -/
def clearSanitizations (field : FieldRules) : FieldRules := { field with sanitizations := [] }

/-- The field without validations. -/
def clearValidations (field : FieldRules) : FieldRules := { field with validations := [] }

/-- Whether a field has any rules. -/
def hasRules (field : FieldRules) : Bool := !field.sanitizations.isEmpty || !field.validations.isEmpty

end FieldRules

end RecordRules
