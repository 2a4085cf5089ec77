/-
Rules and the faults of working with them.

* `Rule`: one occurrence of a rule, with its arguments and its own message;
* `RuleKind`: rules that change a value and rules that judge one;
* `Fault`: everything that stops a step, with its text in `Fault.message`.
-/
import RecordRules.Text.Case
import RecordRules.Decimal.Digits

namespace RecordRules

/-- Sanitizations change a value, validations judge it. -/
inductive RuleKind where
  | sanitization
  | validation
  deriving DecidableEq, Repr

/-- The name of a kind in messages and tables. -/
def RuleKind.title : RuleKind → String
  | .sanitization => "Sanitization"
  | .validation => "Validation"

/-- One occurrence of a rule. -/
structure Rule where
  name : String
  arguments : List String
  /-- The message to show when the rule rejects a value, if the rule has its
  own. -/
  message : Option String
  deriving DecidableEq, Repr

namespace Rule

/-- A rule without a message of its own. Names are kept in lower case. -/
def make (name : String) (arguments : List String) : Rule :=
  ⟨Text.lowerString name, arguments, none⟩

/-- The rule with a message of its own; an empty message is none. -/
def withMessage (rule : Rule) (message : String) : Rule :=
  { rule with message := if message = "" then none else some message }

/-- The rule without a message of its own. -/
def withoutMessage (rule : Rule) : Rule := { rule with message := none }

end Rule

/-- Why a rule text cannot be read. -/
inductive RuleTextFault where
  | misplacedDelimiter
  | emptyName
  | unterminatedMessage
  | noRule
  deriving DecidableEq, Repr

/-- The reason in words. -/
def RuleTextFault.reason : RuleTextFault → String
  | .misplacedDelimiter => "filter name cannot start with ':' or ';'"
  | .emptyName => "empty filter name"
  | .unterminatedMessage => "unterminated error message"
  | .noRule => "no filter found"

/-- A rule text that cannot be read, with the byte offset of the fault. -/
structure RuleTextError where
  input : String
  position : Nat
  fault : RuleTextFault
  deriving DecidableEq, Repr

/-- The message of a rule text error. -/
def RuleTextError.message (e : RuleTextError) : String :=
  "Invalid filter encountered at byte " ++ String.ofList (digitsOf e.position) ++ " of '" ++ e.input ++
    "': " ++ e.fault.reason

/-- Everything that stops a step. -/
inductive Fault where
  /-- A rule text cannot be read. -/
  | grammar (error : RuleTextError)
  /-- No sanitization has this name. -/
  | unknownFilter (name : String)
  /-- A rule of this kind already has this name. -/
  | duplicateRule (kind : RuleKind) (name : String)
  /-- A text would have to be divided inside a character. -/
  | insideCharacter
  deriving DecidableEq, Repr

/-- The message of a fault. -/
def Fault.message : Fault → String
  | .grammar error => error.message
  | .unknownFilter name => "Sanitization filter " ++ name ++ " does not exist."
  | .duplicateRule kind name => kind.title ++ " filter " ++ name ++ " already exists."
  | .insideCharacter => "byte offset inside a character"

end RecordRules
