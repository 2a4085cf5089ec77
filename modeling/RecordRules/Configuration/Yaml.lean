/-
Configurations in YAML.

* `Configuration.ofYaml`: the configuration that a text writes.

Every scalar is read as its text, whatever it looks like; `null`, `~` and nothing
leave an attribute unset. Nothing also stands for a mapping without entries. A
fault has the place at which it was met: the keys that lead there.
-/
import RecordRules.Configuration.Json
import RecordRules.Yaml.Node

namespace RecordRules.Configuration

open Yaml (Node)

/-- The spellings of null. -/
def nullSpellings : List String := ["null", "Null", "NULL", "~"]

/-- The tag of null. -/
def nullTag : String := "tag:yaml.org,2002:null"

/-- What a node is called in faults. -/
def foundInYaml : Node → String
  | .scalar text _ _ => ShapeFault.quotedText text
  | .sequence _ => "sequence"
  | .mapping _ => "map"
  | .unfinished => "a node that contains itself"

/-- A node of another kind stands at a place. -/
def misplacedNode (place : List String) (due : String) (node : Node) : ConfigurationFault :=
  .misshapenYaml place (.wrongKind (foundInYaml node) due)

/-- The value of an attribute of the field at a place. -/
def attributeOfNode (place : List String) (name : String) : Node → Except ConfigurationFault (Option String)
  | .scalar text false _ => .ok (some text)
  | .scalar text true none => .ok (if text = "" ∨ text ∈ nullSpellings then none else some text)
  | .scalar text true (some tag) =>
    if tag ≠ nullTag then .ok (some text)
    else if text ∈ nullSpellings then .ok none
    else .error (.misshapenYaml place (.falseNull text))
  | node => .error (misplacedNode (place ++ [name]) "a string" node)

/-- The text of a key of the mapping at a place. -/
def keyOfNode (place : List String) : Node → Except ConfigurationFault String
  | .scalar text _ _ => .ok text
  | node => .error (misplacedNode place "a string" node)

/-- The entries of a mapping at a place. -/
def entriesOfNode (place : List String) : Node → Except ConfigurationFault (List (Node × Node))
  | .mapping entries => .ok entries
  | .scalar "" true _ => .ok []
  | node => .error (misplacedNode place "a map" node)

/-- The attributes that entries set. Each may be set once. -/
def attributesOfEntries (place : List String) (values : Keyed (Option String)) :
    List (Node × Node) → Except ConfigurationFault (Keyed (Option String))
  | [] => .ok values
  | (key, item) :: rest => do
    let name ← keyOfNode place key
    if name ∉ FieldSpec.attributes then .error (.misshapenYaml place (.unknownAttribute name))
    else if name ∈ values.keys then .error (.misshapenYaml place (.repeatedName name))
    else
      let value ← attributeOfNode place name item
      attributesOfEntries place (values.put name value) rest

/-- The spec of the field at a place. -/
def specOfNode (place : List String) (node : Node) : Except ConfigurationFault FieldSpec := do
  let entries ← entriesOfNode place node
  (attributesOfEntries place [] entries).map specOf

/-- The fields so far with further ones. -/
def fieldsOfEntries (place : List String) (fields : Keyed FieldSpec) :
    List (Node × Node) → Except ConfigurationFault (Keyed FieldSpec)
  | [] => .ok fields
  | (key, item) :: rest => do
    let id ← keyOfNode place key
    let spec ← specOfNode (place ++ [id]) item
    fieldsOfEntries place (fields.put id spec) rest

/-- The fields that the entries of a configuration set, if they do; other
entries are skipped. -/
def fieldsOfTopEntries (found : Option (Keyed FieldSpec)) :
    List (Node × Node) → Except ConfigurationFault (Option (Keyed FieldSpec))
  | [] => .ok found
  | (key, item) :: rest => do
    let name ← keyOfNode [] key
    if name = "fields" then
      if found.isSome then .error (.misshapenYaml [] (.repeatedName name))
      else
        let entries ← entriesOfNode [name] item
        let fields ← fieldsOfEntries [name] [] entries
        fieldsOfTopEntries (some fields) rest
    else fieldsOfTopEntries found rest

/-- The fields of a document. -/
def fieldsOfDocument : Option Node → Except ConfigurationFault (Keyed FieldSpec)
  | none => .ok []
  | some node => do
    let entries ← entriesOfNode [] node
    (fieldsOfTopEntries none entries).map (·.getD [])

/-- The fields that a YAML text writes. -/
def fieldsOfYamlText (text : String) : Except ConfigurationFault (Keyed FieldSpec) :=
  match Yaml.document? text with
  | some document => fieldsOfDocument document
  | none => .error .malformedYaml

/-- The configuration that a YAML text writes. -/
def ofYaml (text : String) : Except ConfigurationFault Configuration := do
  checked ⟨← fieldsOfYamlText text⟩

end RecordRules.Configuration
