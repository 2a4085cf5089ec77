/-
Synonyms of rule names and of arguments, and the flags among the arguments.

* `Synonym.resolve`: the token that a token stands for;
* `Flags.ofArguments`: the flags among resolved arguments.
-/
import RecordRules.Text.Case

namespace RecordRules

namespace Synonym

/-- Other names of rules. -/
def ruleNames : List (String × String) :=
  [("alphabet", "alphabetic"), ("bool", "boolean"), ("fileext", "fileextension"), ("int", "integer"),
   ("num", "numeric"), ("number", "numeric"), ("str", "string")]

/-- The arguments that are flags. -/
def flagNames : List String :=
  ["allow_fraction", "allow_hex", "allow_octal", "allow_scientific", "allow_thousand", "encode_amp",
   "encode_high", "encode_low", "host_required", "ipv4", "ipv6", "no_encode_quotes", "no_priv_range",
   "no_res_range", "null_on_failure", "path_required", "query_required", "scheme_required",
   "strip_backtick", "strip_high", "strip_low"]

/-- The beginning of every resolved flag. -/
def flagMark : String := "flag:"

/-- What a token in lower case stands for, if it is a synonym. -/
def lookup? (token : String) : Option String :=
  match ruleNames.lookup token with
  | some name => some name
  | none => if token ∈ flagNames then some (flagMark ++ token) else none

/-- The token that a token stands for, whatever its case; other tokens stand for
themselves. -/
def resolve (token : String) : String := (lookup? (Text.lowerString token)).getD token

/-- Resolves every argument of a rule. -/
def resolveAll (arguments : List String) : List String := arguments.map resolve

end Synonym

/-- The flags that rules may act on. -/
inductive Flag where
  | allowFraction
  | allowHex
  | allowScientific
  | allowThousand
  | encodeAmp
  | hostRequired
  | ipv4
  | ipv6
  | noPrivateRange
  | noReservedRange
  | pathRequired
  | queryRequired
  | schemeRequired
  | stripBacktick
  | stripHigh
  | stripLow
  deriving DecidableEq, Repr

namespace Flag

/-- All flags, in the order of their names. -/
def all : List Flag :=
  [allowFraction, allowHex, allowScientific, allowThousand, encodeAmp, hostRequired, ipv4, ipv6,
   noPrivateRange, noReservedRange, pathRequired, queryRequired, schemeRequired, stripBacktick,
   stripHigh, stripLow]

/-- The name of a flag. -/
def name : Flag → String
  | allowFraction => "allow_fraction"
  | allowHex => "allow_hex"
  | allowScientific => "allow_scientific"
  | allowThousand => "allow_thousand"
  | encodeAmp => "encode_amp"
  | hostRequired => "host_required"
  | ipv4 => "ipv4"
  | ipv6 => "ipv6"
  | noPrivateRange => "no_priv_range"
  | noReservedRange => "no_res_range"
  | pathRequired => "path_required"
  | queryRequired => "query_required"
  | schemeRequired => "scheme_required"
  | stripBacktick => "strip_backtick"
  | stripHigh => "strip_high"
  | stripLow => "strip_low"

/-- Whether a flag is among resolved arguments. -/
def isSet (flag : Flag) (arguments : List String) : Bool :=
  arguments.contains (Synonym.flagMark ++ flag.name)

/-- The flags among resolved arguments; other arguments are ignored. -/
def ofArguments (arguments : List String) : List Flag := all.filter (·.isSet arguments)

end Flag

end RecordRules
