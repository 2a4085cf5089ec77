/-
The fixed sentences that report an error to a reader.

* `Sentence.predicate`: what is said of the field, by rule;
* `Sentence.readable`: the sentence of a rule about a label.
-/

namespace RecordRules.Sentence

/-- The first argument, or nothing. -/
def parameter (arguments : List String) : String := arguments.headD ""

/-- What a sentence says after its label, for the sentences that begin with
`The`. -/
def predicate (rule : String) (arguments : List String) : String :=
  match rule with
  | "required" | "requiredfile" => " field is required"
  | "email" => " field is required to be a valid email address"
  | "maxlen" => " field needs to be " ++ parameter arguments ++ " or shorter in length"
  | "minlen" => " field needs to be " ++ parameter arguments ++ " or longer in length"
  | "exactlen" => " field needs to be exactly " ++ parameter arguments ++ " characters in length"
  | "numeric" => " field may only contain numeric characters"
  | "integer" => " field may only contain a numeric value"
  | "boolean" => " field may only contain a true or false value"
  | "float" => " field may only contain a float value"
  | "url" => " field is required to be a valid URL"
  | "urlexists" => " URL does not exist"
  | "ip" | "ipv4" | "ipv6" => " field needs to contain a valid IP address"
  | "creditcard" => " field needs to contain a valid credit card number"
  | "personname" => " field needs to contain a valid human name"
  | "inlist" => " field needs to contain one of these values: " ++ String.intercalate ", " arguments
  | "notinlist" => " field contains a value that is not accepted"
  | "streetaddress" => " field needs to be a valid street address"
  | "date" => " field needs to be a valid date"
  | "minnumeric" =>
    " field needs to be a numeric value, equal to, or higher than " ++ parameter arguments
  | "maxnumeric" =>
    " field needs to be a numeric value, equal to, or lower than " ++ parameter arguments
  | "startswith" => " field needs to start with " ++ parameter arguments
  | "endswith" => " field needs to end with " ++ parameter arguments
  | "fileextension" =>
    " field can have the following extensions " ++ String.intercalate ", " arguments
  | "equalsfield" => " field does not equal " ++ parameter arguments ++ " field"
  | "minage" => " field needs to have an age greater than or equal to " ++ parameter arguments
  | _ => " field is invalid"

/-- The name under which fields without rules are reported. -/
def mismatch : String := "mismatch"

/-- The sentence of a rule about a field. -/
def readable (rule label : String) (arguments : List String) : String :=
  if rule = mismatch then "There is no validation rule for " ++ label
  else "The " ++ label ++ predicate rule arguments

end RecordRules.Sentence
