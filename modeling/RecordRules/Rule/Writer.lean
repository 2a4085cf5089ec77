/-
Writing rules as rule texts.

* `Rule.spec`: the text of one rule;
* `Rule.write`: the text of a list of rules.
-/
import RecordRules.Rule.Basic
import RecordRules.Rule.Escape

namespace RecordRules.Rule

/-- The arguments of a rule after a colon, if there are any. -/
def argumentsText (arguments : List String) : List Char :=
  if arguments = [] then []
  else ':' :: List.intercalate [','] (arguments.map fun a => RuleText.escape a.toList)

/-- The message of a rule in single quotes after a semicolon, if there is one. -/
def messageText : Option String → List Char
  | none => []
  | some message => ';' :: '\'' :: (RuleText.escapeMessage message.toList ++ ['\''])

/-- The text of a rule. -/
def specChars (rule : Rule) : List Char :=
  RuleText.escape rule.name.toList ++ argumentsText rule.arguments ++ messageText rule.message

/-- The text of a rule. -/
def spec (rule : Rule) : String := String.ofList rule.specChars

/-- The text of a list of rules. -/
def write (rules : List Rule) : String :=
  String.ofList (List.intercalate ['|'] (rules.map specChars))

end RecordRules.Rule
