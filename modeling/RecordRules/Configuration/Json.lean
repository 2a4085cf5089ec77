/-
Configurations in JSON.

An object has a member `fields`, whose members are the fields; a field has the
attributes `label`, `sanitizations` and `validations`. An object may also be
written as the list of its values.

* `Configuration.ofJson`: the configuration that a text writes;
* `Configuration.toJson`: the other way round, without unset attributes.
-/
import RecordRules.Configuration.Fault
import RecordRules.Json.Outline

namespace RecordRules

namespace Configuration

open Json (Outline)

/-- What a value is called in faults. -/
def foundInJson : Outline → String
  | .null => "null"
  | .bool _ => "a boolean"
  | .number _ => "a number"
  | .string (some text) => ShapeFault.quotedText text
  | .array _ => "sequence"
  | .object _ => "map"
  | .string none | .broken => "nothing"

/-- The fault of a value that is not of the kind that is due. -/
def misplaced (due : String) : Outline → ConfigurationFault
  | .broken | .number none | .string none => .malformedJson
  | other => .misshapenJson (.wrongKind (foundInJson other) due)

/-- The value of an attribute; null leaves it unset. -/
def attributeOfJson : Outline → Except ConfigurationFault (Option String)
  | .null => .ok none
  | .string (some s) => .ok (some s)
  | other => .error (misplaced "a string" other)

/-- The field spec with the values of attributes. -/
def specOf (values : Keyed (Option String)) : FieldSpec :=
  let value := fun name => (values.get? name).join
  ⟨value "label", value "sanitizations", value "validations"⟩

/-- The attributes that members set. Each may be set once. -/
def attributesOfMembers (values : Keyed (Option String)) :
    List (Option String × Outline) → Except ConfigurationFault (Keyed (Option String))
  | [] => .ok values
  | (none, _) :: _ => .error .malformedJson
  | (some name, item) :: rest => do
    if name ∉ FieldSpec.attributes then .error (.misshapenJson (.unknownAttribute name))
    else if name ∈ values.keys then .error (.misshapenJson (.repeatedName name))
    else
      let value ← attributeOfJson item
      attributesOfMembers (values.put name value) rest

/-- The attributes that the items of a list set, by their places. -/
def attributesOfItems : List String → List Outline → Except ConfigurationFault (Keyed (Option String))
  | _, [] => .ok []
  | [], _ :: _ => .error .malformedJson
  | name :: names, item :: items => do
    let value ← attributeOfJson item
    let rest ← attributesOfItems names items
    .ok ((name, value) :: rest)

/-- The spec of a field. -/
def specOfJson : Outline → Except ConfigurationFault FieldSpec
  | .object members => (attributesOfMembers [] members).map specOf
  | .array items => (attributesOfItems FieldSpec.attributes items).map specOf
  | other => .error (misplaced "a field" other)

/-- The fields so far with further ones. A second spec of a field replaces the
first one in its place. -/
def fieldsOfMembers (fields : Keyed FieldSpec) :
    List (Option String × Outline) → Except ConfigurationFault (Keyed FieldSpec)
  | [] => .ok fields
  | (none, _) :: _ => .error .malformedJson
  | (some id, item) :: rest => do
    let spec ← specOfJson item
    fieldsOfMembers (fields.put id spec) rest

/-- The fields of an object. -/
def fieldsOfJson : Outline → Except ConfigurationFault (Keyed FieldSpec)
  | .object members => fieldsOfMembers [] members
  | other => .error (misplaced "a map" other)

/-- The fields that the members of a configuration set, if they do; other
members are skipped. -/
def fieldsOfTop (found : Option (Keyed FieldSpec)) :
    List (Option String × Outline) → Except ConfigurationFault (Option (Keyed FieldSpec))
  | [] => .ok found
  | (none, _) :: _ => .error .malformedJson
  | (some name, item) :: rest => do
    if name = "fields" then
      if found.isSome then .error (.misshapenJson (.repeatedName name))
      else
        let fields ← fieldsOfJson item
        fieldsOfTop (some fields) rest
    else if item.isSound then fieldsOfTop found rest
    else .error .malformedJson

/-- The fields of a configuration. -/
def fieldsOfOutline : Outline → Except ConfigurationFault (Keyed FieldSpec)
  | .object members => (fieldsOfTop none members).map (·.getD [])
  | .array [] => .ok []
  | .array (item :: rest) => do
    let fields ← fieldsOfJson item
    if rest.isEmpty then .ok fields else .error .malformedJson
  | other => .error (misplaced "a configuration" other)

/-- The configuration unless it has faults. -/
def checked (configuration : Configuration) : Except ConfigurationFault Configuration :=
  if configuration.defects.isEmpty then .ok configuration else .error (.defective configuration.defects)

/-- The fields that a JSON text writes. -/
def fieldsOfJsonText (text : String) : Except ConfigurationFault (Keyed FieldSpec) := do
  let (outline, complete) := Outline.ofChars text.toList
  let fields ← fieldsOfOutline outline
  if complete then .ok fields else .error .malformedJson

/-- The configuration that a JSON text writes. -/
def ofJson (text : String) : Except ConfigurationFault Configuration := do
  checked ⟨← fieldsOfJsonText text⟩

/-- A field spec as a JSON object. -/
def specToJson (spec : FieldSpec) : Json :=
  .object ((FieldSpec.attributes.zip [spec.label, spec.sanitizations, spec.validations]).filterMap fun (name, value) =>
    value.map fun text => (name, .string text))

/-- A configuration as a JSON object. -/
def toJson (configuration : Configuration) : Json :=
  .object [("fields", .object (configuration.fields.map fun (id, spec) => (id, specToJson spec)))]

end Configuration

end RecordRules
