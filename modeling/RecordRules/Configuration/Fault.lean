/-
Faults of configuration texts.

* `ShapeFault`: a place of a text does not say what is due there;
* `ConfigurationFault`: why a text is no configuration;
* `ParserWords`: what parsers say about texts that they refuse;
* `ConfigurationFault.message`: a fault in words.
-/
import RecordRules.Configuration.Basic

namespace RecordRules

/-- The names of the attributes of a field, in order. -/
def FieldSpec.attributes : List String := ["label", "sanitizations", "validations"]

/-- Why a place of a configuration text does not say what is due there. -/
inductive ShapeFault where
  /-- Something of another kind stands there. -/
  | wrongKind (found due : String)
  /-- The tag of null stands before a text that is not null. -/
  | falseNull (text : String)
  | unknownAttribute (name : String)
  | repeatedName (name : String)
  deriving DecidableEq, Repr

namespace ShapeFault

/-- A name as it stands in messages. -/
def quoted (name : String) : String := "`" ++ name ++ "`"

/-- A text as it stands in messages. -/
def quotedText (text : String) : String := "string \"" ++ text ++ "\""

/-- A shape fault in words. -/
def message : ShapeFault → String
  | wrongKind found due => "invalid type: " ++ found ++ ", expected " ++ due
  | falseNull text => "invalid value: " ++ quotedText text ++ ", expected null"
  | unknownAttribute name =>
    "unknown field " ++ quoted name ++ ", expected one of " ++
      String.intercalate ", " (FieldSpec.attributes.map quoted)
  | repeatedName name => "duplicate field " ++ quoted name

end ShapeFault

/-- Why a text is no configuration. -/
inductive ConfigurationFault where
  /-- The text is no JSON. -/
  | malformedJson
  /-- The JSON text says something else than a configuration. -/
  | misshapenJson (fault : ShapeFault)
  /-- The text is no YAML. -/
  | malformedYaml
  /-- The YAML text says something else than a configuration, at the place that
  some keys lead to. -/
  | misshapenYaml (place : List String) (fault : ShapeFault)
  /-- Rule texts or ids are faulty. -/
  | defective (defects : List Configuration.Defect)
  deriving DecidableEq, Repr

/-! ### Words -/

/-- What parsers say about what they refuse. Their words are their own: they may tell
the line, the column and what was expected there. -/
structure ParserWords where
  /-- About a text that is no JSON. -/
  json : String → String
  /-- About a text that is no configuration, whose first fault is given. -/
  configuration : ConfigurationFault → String → String
  /-- About a rule argument that is no pattern. -/
  pattern : String → String

/-- A fault of a text in words. The report of faulty rules is no parser's. -/
def ConfigurationFault.message (words : ParserWords) (text : String) : ConfigurationFault → String
  | defective defects => Configuration.report defects
  | malformedJson => words.configuration .malformedJson text
  | misshapenJson fault => words.configuration (.misshapenJson fault) text
  | malformedYaml => words.configuration .malformedYaml text
  | misshapenYaml place fault => words.configuration (.misshapenYaml place fault) text

/-- A fault in plain words, without the line and the column. -/
def ConfigurationFault.reason : ConfigurationFault → String
  | malformedJson => "malformed JSON"
  | misshapenJson fault => fault.message
  | malformedYaml => "malformed YAML"
  | misshapenYaml [] fault => fault.message
  | misshapenYaml place fault => String.intercalate "." place ++ ": " ++ fault.message
  | defective defects => Configuration.report defects

/-- Words without lines and columns. -/
def ParserWords.plain : ParserWords :=
  { json := fun _ => "malformed JSON"
    configuration := fun fault _ => fault.reason
    pattern := fun _ => "malformed pattern" }

end RecordRules
