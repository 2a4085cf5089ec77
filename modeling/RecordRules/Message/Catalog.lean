/-
The templates that come with the rules.

* `Catalog.lookup?`: the template of a rule, by its name or its synonym;
* `Catalog.template`: the same, with the long default for other names.
-/
import RecordRules.Rule.Synonym

namespace RecordRules.Catalog

/-- The placeholder of the label. -/
def field : String := "\x7bfield\x7d"

/-- The placeholder of the rule name. -/
def rule : String := "\x7bfilter\x7d"

/-- The placeholder of all arguments. -/
def args : String := "\x7bargs\x7d"

/-- The placeholder of the first argument. -/
def arg1 : String := "\x7barg1\x7d"

/-- The placeholder of the value. -/
def value : String := "\x7bvalue\x7d"

/-- The template of rules without one of their own. -/
def defaultLong : String :=
  "Field " ++ field ++ " with value '" ++ value ++ "' failed validation " ++ rule

/-- The template of rules that do not exist. -/
def unknownRule : String :=
  "Validation filter " ++ rule ++ " does not exist for " ++ field ++
    ", please contact the application owner"

/-- The template of fields without rules. -/
def mismatch : String := "There is no validation rule for " ++ field

/-- All templates by their names. -/
def templates : List (String × String) :=
  [("default", field ++ " is invalid"),
   ("default_long", defaultLong),
   ("inexistent_validation", unknownRule),
   ("mismatch", mismatch),
   ("alphabetic", field ++ " may only contain alphabetic characters"),
   ("alphanumeric", field ++ " may only contain alpha-numeric characters"),
   ("boolean", field ++ " field may only contain a true or false value"),
   ("creditcard", field ++ " does not contain a valid credit card number"),
   ("date", field ++ " is not a valid date"),
   ("email", field ++ " is not a valid email address"),
   ("endswith", field ++ " does not end with " ++ arg1),
   ("equalsfield", field ++ " does not equal " ++ arg1),
   ("exactlen", field ++ " must be exactly " ++ arg1 ++ " characters long"),
   ("fileextension", field ++ " does not have a valid file extension"),
   ("float", field ++ " may only contain a float value"),
   ("guidv4", field ++ " is not a valid GUID (v4)"),
   ("iban", field ++ " is not a valid IBAN"),
   ("inlist", field ++ " must be one of these values: " ++ args),
   ("integer", field ++ " may only contain an integer value"),
   ("ip", field ++ " does not contain a valid IP address"),
   ("ipv4", field ++ " does not contain a valid IPv4 address"),
   ("ipv6", field ++ " does not contain a valid IPv6 address"),
   ("jsonstring", field ++ " is not a JSON-encoded string"),
   ("maxlen", field ++ " must be " ++ arg1 ++ " or shorter in length"),
   ("maxnumeric", field ++ " must be a numeric value, equal to or lower than " ++ arg1),
   ("minage", "The " ++ field ++ " field needs to have an age greater than or equal to " ++ arg1),
   ("minlen", field ++ " must be " ++ arg1 ++ " or longer in length"),
   ("minnumeric",
    "The " ++ field ++ " field needs to be a numeric value, equal to, or higher than " ++ arg1),
   ("notinlist", field ++ " cannot be one of these values: " ++ args),
   ("numeric", field ++ " may only contain numeric characters"),
   ("personname", field ++ " does not seem to contain a person's name"),
   ("phonenumber", field ++ " does not seem to contain a valid phone number"),
   ("regex", field ++ " did not match regular expression: " ++ arg1),
   ("required", field ++ " is required"),
   ("requiredfile", "File is required for " ++ field),
   ("startswith", field ++ " does not start with " ++ arg1),
   ("streetaddress", field ++ " does not seem to be a valid street address"),
   ("url", "The " ++ field ++ " field is required to be a valid URL"),
   ("urlexists", field ++ " URL does not exist")]

/-- The template of a name: of the name itself, else of what it is a synonym
for. -/
def lookup? (name : String) : Option String :=
  match templates.lookup name with
  | some template => some template
  | none => templates.lookup (Synonym.resolve name)

/-- The template of a name, or the long default. -/
def template (name : String) : String := (lookup? name).getD defaultLong

end RecordRules.Catalog
