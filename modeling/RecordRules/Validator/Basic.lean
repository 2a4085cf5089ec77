/-
The validators that are always there.

* `Validator`: the closed set of them, with `Validator.all` in the order of
  their names and `Validator.named?`;
* `Validator.check`: whether a validator accepts a field of a record;
* `Validator.checksPresence`: the two that ask whether there is a value at all.

All other validators accept a field that is missing or null. Most look at the
text of a value, which strings and numbers have; other values fail them.
-/
import RecordRules.Decimal.Natural
import RecordRules.Json.Record
import RecordRules.Json.Writer
import RecordRules.Pattern.Matcher
import RecordRules.Pattern.Reader
import RecordRules.Rule.Synonym
import RecordRules.Validator.Calendar
import RecordRules.Validator.Checksum
import RecordRules.Validator.Shape
import RecordRules.Web.Address

namespace RecordRules

/-- What validators know of the world. -/
structure Surroundings where
  today : CalendarDate
  /-- Whether the name service knows a host name. -/
  resolves : String → Bool

namespace Surroundings

/-- A day on which the name service knows no host. -/
def offline (today : CalendarDate) : Surroundings := ⟨today, fun _ => false⟩

/-- New Year's Day of 2026, for examples. -/
def newYear : Surroundings := offline ⟨2026, 1, 1⟩

end Surroundings

/-- The validators. -/
inductive Validator where
  | alphabetic
  | alphanumeric
  | boolean
  | creditCard
  | date
  | email
  | endsWith
  | equalsField
  | exactLength
  | fileExtension
  | float
  | guidV4
  | iban
  | inList
  | integer
  | ip
  | ipv4
  | ipv6
  | jsonString
  | maxLength
  | maxNumeric
  | minAge
  | minLength
  | minNumeric
  | notInList
  | numeric
  | personName
  | phoneNumber
  | pattern
  | required
  | requiredFile
  | startsWith
  | streetAddress
  | webAddress
  | webHostExists
  deriving DecidableEq, Repr

namespace Validator

/-- All validators, in the order in which they are listed. -/
def all : List Validator :=
  [alphabetic, alphanumeric, boolean, creditCard, date, email, endsWith, equalsField, exactLength,
   fileExtension, float, guidV4, iban, inList, integer, ip, ipv4, ipv6, jsonString, maxLength, maxNumeric,
   minAge, minLength, minNumeric, notInList, numeric, personName, phoneNumber, pattern, required,
   requiredFile, startsWith, streetAddress, webAddress, webHostExists]

/-- The name of a validator in rule texts. -/
def name : Validator → String
  | alphabetic => "alphabetic"
  | alphanumeric => "alphanumeric"
  | boolean => "boolean"
  | creditCard => "creditcard"
  | date => "date"
  | email => "email"
  | endsWith => "endswith"
  | equalsField => "equalsfield"
  | exactLength => "exactlen"
  | fileExtension => "fileextension"
  | float => "float"
  | guidV4 => "guidv4"
  | iban => "iban"
  | inList => "inlist"
  | integer => "integer"
  | ip => "ip"
  | ipv4 => "ipv4"
  | ipv6 => "ipv6"
  | jsonString => "jsonstring"
  | maxLength => "maxlen"
  | maxNumeric => "maxnumeric"
  | minAge => "minage"
  | minLength => "minlen"
  | minNumeric => "minnumeric"
  | notInList => "notinlist"
  | numeric => "numeric"
  | personName => "personname"
  | phoneNumber => "phonenumber"
  | pattern => "regex"
  | required => "required"
  | requiredFile => "requiredfile"
  | startsWith => "startswith"
  | streetAddress => "streetaddress"
  | webAddress => "url"
  | webHostExists => "urlexists"

/-- The validator of a name. -/
def named? (name : String) : Option Validator := all.find? (·.name == name)

/-- The validators that also run on fields that are missing or blank. -/
def checksPresence : Validator → Bool
  | required | requiredFile => true
  | _ => false

/-! ### Values -/

/-- The text of a string or a number. -/
def textOf? : Json → Option (List Char)
  | .string s => some s.toList
  | .number n => some n.text
  | _ => none

/-- A text test on a value: a missing value passes, one without a text fails. -/
def onText (value : Option Json) (test : List Char → Bool) : Bool :=
  match value with
  | none | some .null => true
  | some v => (textOf? v).any test

/-- A test on a value that has a text. -/
theorem onText_of_text {value : Json} {s : List Char} (text : textOf? value = some s) (test : List Char → Bool) :
    onText (some value) test = test s := by
  cases value with
  | null | bool | array | object => cases text
  | string | number =>
    rw [onText, text, Option.any_some]
    exact nofun

/-- The text that is compared with other fields: strings as they are, other
values as JSON texts. -/
def comparedText : Json → String
  | .string s => s
  | value => value.compact

/-- The first argument as a number that is at most `limit`. -/
def countArgument? (limit : Nat) (arguments : List String) : Option Nat :=
  arguments.head?.bind fun a => readNatural? limit (Text.trim a.toList)

/-- The first argument as a number. -/
def numberArgument? (arguments : List String) : Option Extended :=
  arguments.head?.bind fun a => Shape.number? a.toList

/-! ### Tests -/

/-- The spellings of truth values. -/
def truthSpellings : List String := ["true", "false", "1", "0", "yes", "no", "on", "off"]

/-- A truth value, or a number or text that is read as one. -/
def isBoolean : Json → Bool
  | .null | .bool _ => true
  | .number n => n.int64? == some 0 || n.int64? == some 1
  | .string s => truthSpellings.contains (String.ofList (Text.lower (Text.trim s.toList)))
  | _ => false

/-- The check of a card number: its digits, if there are any, pass. -/
def isCardNumber (s : List Char) : Bool :=
  let digits := s.filter Char.isDigit
  digits.isEmpty || Checksum.luhn digits

/-- Whether the first argument stands where `stands` says, without regard to
case if the second argument asks for that. -/
def affixFits (stands : List Char → List Char → Bool) (arguments : List String) (s : List Char) : Bool :=
  match arguments with
  | [] => true
  | affix :: options =>
    if options.head? = some "caseinsensitive" then stands (Text.lower affix.toList) (Text.lower s)
    else stands affix.toList s

/-- Whether a field equals the field that the first argument names. A missing
field equals every other. -/
def equalsOther (value : Option Json) (record : Record) (arguments : List String) : Bool :=
  match arguments with
  | [] => false
  | other :: _ =>
    match value, record.get? other with
    | none, _ => true
    | some _, none => false
    | some a, some b => a.same b || comparedText a == comparedText b

/-- The error code of a file that was not sent. -/
def noFileCode : Int := 4

/-- The error code in the description of a file. -/
def fileErrorCode? (file : Members) : Option Int :=
  match file.get? "error" with
  | some (.number n) => n.int64?
  | _ => none

/-- The name in the description of a file. -/
def fileName? (file : Members) : Option (List Char) :=
  match file.get? "name" with
  | some (.string s) => some s.toList
  | _ => none

/-- Whether a file has one of the extensions, or was not sent. -/
def hasExtension (arguments : List String) : Option Json → Bool
  | none => true
  | some (.object file) =>
    fileErrorCode? file == some noFileCode ||
      match (fileName? file).bind (Text.splitOnLast? '.') with
      | some (_, extension) =>
        arguments.any fun a => a.toList.map Char.toLower == extension.map Char.toLower
      | none => false
  | some _ => false

/-- Whether a file was sent. -/
def isFile : Option Json → Bool
  | some (.object file) =>
    match fileErrorCode? file with
    | some code => code != noFileCode
    | none => (fileName? file).any (!·.isEmpty)
  | _ => false

/-- Whether there is a value: false and zero are values, blank texts and empty
containers are none. -/
def isPresent : Option Json → Bool
  | none | some .null => false
  | some (.bool _) | some (.number _) => true
  | some (.string s) => !Text.isAllBlank s.toList
  | some (.array items) => !items.isEmpty
  | some (.object members) => !members.isEmpty

/-- A whole number of 64 bits in its usual form. -/
def isInteger (s : List Char) : Bool :=
  let s := Text.trim s
  Shape.isInteger s && (readInteger? s).isSome

/-- Whether a text is among the arguments, in lower case. -/
def isListed (arguments : List String) (s : List Char) : Bool :=
  arguments.contains (String.ofList (Text.lower (Text.trim s)))

/-- An admitted address of four bytes. -/
def isIpv4 (arguments : List String) (s : List Char) : Bool :=
  (Ipv4.parse? (Text.trim s)).any fun address =>
    !(Flag.noPrivateRange.isSet arguments && address.isPrivate) &&
      !(Flag.noReservedRange.isSet arguments && address.isReserved)

/-- An admitted address of eight groups. -/
def isIpv6 (arguments : List String) (s : List Char) : Bool :=
  (Ipv6.parse? (Text.trim s)).any fun address =>
    !(Flag.noPrivateRange.isSet arguments && address.isPrivate) &&
      !(Flag.noReservedRange.isSet arguments && address.isReserved)

/-- An admitted address of a kind that is asked for; without a flag both are. -/
def isIp (arguments : List String) (s : List Char) : Bool :=
  let four := Flag.ipv4.isSet arguments
  let six := Flag.ipv6.isSet arguments
  ((!six || four) && isIpv4 arguments s) || ((!four || six) && isIpv6 arguments s)

/-- A text that holds a JSON object. -/
def isJsonString : Option Json → Bool
  | none | some .null => true
  | some (.string s) => (Record.ofString s).isOk
  | some _ => false

/-- The date lies at least some years in the past. -/
def isAtLeastAged (today : CalendarDate) (years : Nat) (s : List Char) : Bool :=
  ((CalendarDate.parse? s).bind today.yearsSince?).any (years ≤ ·)

/-- The pattern of an argument: `/pattern/flags`, or the pattern alone. -/
def patternArgument? (argument : String) : Option Pattern :=
  let whole := argument.toList
  let inSlashes := match whole with
    | '/' :: rest => Text.splitOnLast? '/' rest
    | _ => none
  match inSlashes with
  | some (text, letters) => Pattern.parse? (Pattern.flagsOf letters) text
  | none => Pattern.parse? (Pattern.flagsOf []) whole

/-- Whether the pattern of the first argument is found in a text. -/
def matchesPattern (arguments : List String) (value : Option Json) : Bool :=
  match arguments.head?.bind patternArgument? with
  | some found => onText value found.isFoundIn
  | none => false

/-- A web address with the parts that the flags ask for. -/
def isWebAddress (arguments : List String) (s : List Char) : Bool :=
  (WebAddress.parse? (Text.trim s)).any fun address =>
    (!Flag.hostRequired.isSet arguments || address.host.isSome) &&
      (!Flag.pathRequired.isSet arguments || address.path.isLong) &&
      (!Flag.queryRequired.isSet arguments || address.query.isSome)

/-- Whether a host is there: an address in numbers is, a name if the name service
knows it. -/
def hostExists (surroundings : Surroundings) (host : List Char) : Bool :=
  (Ipv4.parse? host).isSome || (Ipv6.parse? host).isSome || surroundings.resolves (String.ofList host)

/-- Whether the host of a web address is there. A text that is none is taken for
a host. -/
def webHostIsThere (surroundings : Surroundings) (s : List Char) : Bool :=
  let s := Text.lower (Text.trim s)
  match (WebAddress.parse? s).bind (·.host) with
  | some (.ipv4 _) => true
  | some (.ipv6 _) => false
  | some (.name host) => hostExists surroundings host
  | none => hostExists surroundings s

/-! ### Checking a field -/

/-- Whether a validator accepts a field of a record, by its resolved arguments. -/
def check (surroundings : Surroundings) (validator : Validator) (field : String) (record : Record)
    (arguments : List String) : Except Fault Bool :=
  let value := record.get? field
  match validator with
  | alphabetic => .ok (onText value Shape.isAlphabetic)
  | alphanumeric => .ok (onText value Shape.isAlphanumeric)
  | boolean => .ok (value.all isBoolean)
  | creditCard => .ok (onText value isCardNumber)
  | date => .ok (onText value fun s => (CalendarDate.parse? s).isSome)
  | email => .ok (onText value Shape.isEmail)
  | endsWith => .ok (onText value (affixFits List.isSuffixOf arguments))
  | equalsField => .ok (equalsOther value record arguments)
  | exactLength =>
    .ok ((countArgument? countMax arguments).any fun n => onText value fun s => s.length == n)
  | fileExtension => .ok (hasExtension arguments value)
  | float =>
    match value with
    | some (.number _) => .ok true
    | value => .ok (onText value fun s => (Shape.number? s).any Extended.isFinite)
  | guidV4 => .ok (onText value Shape.isGuidV4)
  | iban =>
    match value with
    | none | some .null => .ok true
    | some v =>
      match (textOf? v).filter (Shape.holds Shape.iban) with
      | some s => Checksum.iban s
      | none => .ok false
  | inList => .ok (onText value (isListed arguments))
  | integer =>
    match value with
    | some (.number (.integer _)) => .ok true
    | some (.number (.double _)) => .ok false
    | value => .ok (onText value isInteger)
  | ip => .ok (onText value (isIp arguments))
  | ipv4 => .ok (onText value (isIpv4 arguments))
  | ipv6 => .ok (onText value (isIpv6 arguments))
  | jsonString => .ok (isJsonString value)
  | maxLength => .ok (onText value fun s => s.length ≤ (countArgument? countMax arguments).getD 0)
  | maxNumeric =>
    .ok ((numberArgument? arguments).any fun limit => onText value fun s => (Shape.number? s).any (·.le limit))
  | minAge =>
    .ok ((countArgument? 4294967295 arguments).any fun years =>
      onText value (isAtLeastAged surroundings.today years))
  | minLength => .ok (onText value fun s => (countArgument? countMax arguments).getD 0 ≤ s.length)
  | minNumeric =>
    .ok ((numberArgument? arguments).any fun limit => onText value fun s => (Shape.number? s).any limit.le)
  | notInList => .ok (onText value fun s => !isListed arguments s)
  | numeric =>
    match value with
    | some (.number _) => .ok true
    | value => .ok (onText value Shape.isNumeric)
  | personName => .ok (onText value Shape.isPersonName)
  | phoneNumber => .ok (onText value (Shape.holds Shape.phoneNumber))
  | pattern => .ok (matchesPattern arguments value)
  | required => .ok (isPresent value)
  | requiredFile => .ok (isFile value)
  | startsWith => .ok (onText value (affixFits List.isPrefixOf arguments))
  | streetAddress => .ok (onText value Shape.isStreetAddress)
  | webAddress => .ok (onText value (isWebAddress arguments))
  | webHostExists => .ok (onText value (webHostIsThere surroundings))

end Validator

end RecordRules
