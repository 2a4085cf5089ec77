/-
Web addresses: scheme, host, path and query.

* `WebAddress.Host`: a name, or an internet address in numbers;
* `WebAddress.Path`: one text, or segments below a root;
* `WebAddress.parse?`: the address that a text writes.
-/
import RecordRules.Text.Blank
import RecordRules.Text.Percent
import RecordRules.Validator.NetworkAddress
import RecordRules.Web.HostName

namespace RecordRules

namespace WebAddress

/-! ### Hosts -/

/-- A host. -/
inductive Host where
  | name (text : List Char)
  | ipv4 (address : Ipv4)
  | ipv6 (address : Ipv6)
  deriving DecidableEq, Repr

/-- The value of a part of a number address: hexadecimal after `0x`, octal after
`0`, else decimal. -/
def hostNumber? (s : List Char) : Option Nat :=
  match s with
  | '0' :: x :: digits =>
    if x = 'x' ∨ x = 'X' then
      if digits.all fun c => (hexValue? c).isSome then some (hexNumber digits) else none
    else if (x :: digits).all fun c => '0' ≤ c ∧ c ≤ '7' then
      some ((x :: digits).foldl (fun n c => 8 * n + digitValue c) 0)
    else none
  | [] => none
  | digits => if digits.all Char.isDigit then some (numberOf digits) else none

/-- The parts of a host name; an empty part at the end does not count. -/
def hostParts (s : List Char) : List (List Char) :=
  match (splitChars '.' s).reverse with
  | [] :: part :: rest => (part :: rest).reverse
  | _ => splitChars '.' s

/-- Whether the last part of a host name is a number. -/
def endsInNumber (s : List Char) : Bool :=
  match (hostParts s).getLast? with
  | some part => (!part.isEmpty && part.all Char.isDigit) || (hostNumber? part).isSome
  | none => false

/-- The four bytes of a number. -/
def octetsOf (n : Nat) : Ipv4 := ⟨[n / 16777216 % 256, n / 65536 % 256, n / 256 % 256, n % 256]⟩

/-- The address that up to four numbers write: the last one fills all bytes that
the others leave. -/
def ofNumbers? (numbers : List Nat) : Option Ipv4 :=
  match numbers.reverse with
  | [] => none
  | last :: others =>
    let bytes := others.reverse
    if 3 < bytes.length ∨ bytes.any (255 < ·) ∨ Nat.pow 256 (4 - bytes.length) ≤ last then none
    else
      let front := bytes.foldl (fun n b => 256 * n + b) 0
      some (octetsOf (front * Nat.pow 256 (4 - bytes.length) + last))

/-- The host that a text in brackets or a host name stands for. -/
def Host.parse? (s : List Char) : Option Host :=
  match s with
  | '[' :: rest =>
    if rest.getLast? = some ']' then (Ipv6.parse? rest.dropLast).map .ipv6 else none
  | _ =>
    match HostName.ofBytes? (Percent.decode s) with
    | none => none
    | some text =>
      if text = [] then none
      else if endsInNumber text then (((hostParts text).mapM hostNumber?).bind ofNumbers?).map .ipv4
      else some (.name text)

/-- The characters that no host contains, whatever the scheme. -/
def isHostDelimiter (c : Char) : Bool := c.toNat == 0 || "\t\n\r #/:<>?@[\\]^|".toList.contains c

/-- The host of an address whose scheme has no rules of its own: its text is
kept. -/
def Host.parseOpaque? (s : List Char) : Option Host :=
  match s with
  | '[' :: rest =>
    if rest.getLast? = some ']' then (Ipv6.parse? rest.dropLast).map .ipv6 else none
  | _ => if s.any isHostDelimiter then none else some (.name s)

/-! ### Schemes -/

/-- The kinds of schemes. -/
inductive SchemeKind where
  /-- Files, whose host may be left out. -/
  | file
  /-- Schemes of the web, which need a host. -/
  | web
  /-- All others. -/
  | other
  deriving DecidableEq, Repr

/-- The kind of a scheme in lower case. -/
def SchemeKind.ofScheme (scheme : List Char) : SchemeKind :=
  let name := String.ofList scheme
  if name = "file" then .file
  else if ["http", "https", "ws", "wss", "ftp"].contains name then .web
  else .other

/-- The schemes with rules of their own take a backslash for a slash. -/
def SchemeKind.isSlash (kind : SchemeKind) (c : Char) : Bool := c == '/' || (c == '\\' && kind != .other)

/-- The characters that end the host and its port. -/
def SchemeKind.endsAuthority (kind : SchemeKind) (c : Char) : Bool := kind.isSlash c || c == '?' || c == '#'

/-- The scheme of a text, in lower case, and what follows its colon. -/
def takeScheme? (s : List Char) : Option (List Char × List Char) :=
  let isSchemeChar := fun c : Char => c.isAlphanum || c == '+' || c == '-' || c == '.'
  match s.dropWhile isSchemeChar with
  | ':' :: rest =>
    if s.head?.any Char.isAlpha then some ((s.takeWhile isSchemeChar).map Char.toLower, rest) else none
  | _ => none

/-! ### Paths -/

/-- A path. -/
inductive Path where
  /-- A text without structure. -/
  | opaquePath (text : List Char)
  /-- Segments, each after a slash. -/
  | segments (list : List (List Char))
  deriving DecidableEq, Repr

/-- The spellings of a point. -/
def pointSpellings : List (List Char) := [".".toList, "%2e".toList, "%2E".toList]

/-- A segment that stands for the segment before it. -/
def isSingleDot (segment : List Char) : Bool := pointSpellings.contains segment

/-- A segment that stands for the one above. -/
def isDoubleDot (segment : List Char) : Bool :=
  pointSpellings.any fun a => pointSpellings.any fun b => a ++ b == segment

/-- A letter and a colon or a bar: a drive. -/
def isDrive : List Char → Bool
  | [a, b] => a.isAlpha && (b == ':' || b == '|')
  | _ => false

/-- Removes the last segment; the drive of a file stays. -/
def shorten (kind : SchemeKind) (path : List (List Char)) : List (List Char) :=
  match path with
  | [drive] => if kind = .file ∧ isDrive drive then path else []
  | _ => path.dropLast

/-- Adds segments to a path, and resolves points. -/
def resolve (kind : SchemeKind) (path : List (List Char)) : List (List Char) → List (List Char)
  | [] => path
  | segment :: rest =>
    let isLast := rest.isEmpty
    let path' :=
      if isDoubleDot segment then shorten kind path ++ (if isLast then [[]] else [])
      else if isSingleDot segment then path ++ (if isLast then [[]] else [])
      else path ++ [segment]
    resolve kind path' rest

/-- The parts of a text between slashes. -/
def splitSegments (kind : SchemeKind) (s : List Char) : List (List Char) :=
  splitChars '/' (s.map fun c => if kind.isSlash c then '/' else c)

/-- The segments of a text; a slash at its start adds none. -/
def segmentsOf (kind : SchemeKind) (s : List Char) : List (List Char) :=
  match s with
  | [] => if kind = .other then [] else [[]]
  | c :: rest => resolve kind [] (splitSegments kind (if kind.isSlash c then rest else s))

/-- Whether the first segment of a path is a drive. -/
def beginsWithDrive (path : List (List Char)) : Bool := path.head?.any isDrive

/-- The path without empty segments at its start, but with one segment at
least. -/
def dropEmpty (path : List (List Char)) : List (List Char) :=
  match path.dropWhile (· = []) with
  | [] => [[]]
  | rest => rest

end WebAddress

/-- A web address. Its user and its fragment are not kept. -/
structure WebAddress where
  scheme : List Char
  host : Option WebAddress.Host
  port : Option Nat
  path : WebAddress.Path
  query : Option (List Char)
  deriving DecidableEq, Repr

namespace WebAddress

/-! ### Reading -/

/-- The path text and the query of what is left, without the fragment. -/
def divideTail (s : List Char) : List Char × Option (List Char) :=
  let s := s.takeWhile (· ≠ '#')
  (s.takeWhile (· ≠ '?'),
    match s.dropWhile (· ≠ '?') with
    | _ :: query => some query
    | [] => none)

/-- An address with a path of segments. -/
def rooted (kind : SchemeKind) (scheme : List Char) (host : Option Host) (port : Option Nat) (tail : List Char) :
    WebAddress :=
  let (text, query) := divideTail tail
  ⟨scheme, host, port, .segments (segmentsOf kind text), query⟩

/-- The user part of an authority, and the authority without it. -/
def divideUser (authority : List Char) : Option (List Char) × List Char :=
  match Text.splitOnLast? '@' authority with
  | some (user, rest) => (some user, rest)
  | none => (none, authority)

/-- Where the host ends: at the first colon that is not in brackets. -/
def takeHost (inBrackets : Bool) : List Char → List Char × List Char
  | [] => ([], [])
  | c :: rest =>
    if c = ':' ∧ !inBrackets then ([], c :: rest)
    else
      let (host, after) := takeHost (if c = '[' then true else if c = ']' then false else inBrackets) rest
      (c :: host, after)

/-- The port that digits write; no digits are no port. -/
def port? (digits : List Char) : Option (Option Nat) :=
  if digits = [] then some none
  else if digits.all Char.isDigit ∧ numberOf digits ≤ 65535 then some (some (numberOf digits))
  else none

/-- Whether a user part lets the host be left out: there is none, it is a colon
only, or it is empty and nothing follows. -/
def admitsNoHost (user : Option (List Char)) (tail : List Char) : Bool :=
  match user with
  | none => true
  | some [] => tail.isEmpty
  | some text => text == [':']

/-- An address whose host stands after two slashes. Only a scheme without rules
of its own may leave the host out, and then the user and the port too. A
backslash ends the port, and begins the path. -/
def withAuthority? (kind : SchemeKind) (scheme s : List Char) : Option WebAddress := do
  let (user, hostAndPort) := divideUser (s.takeWhile fun c => !kind.endsAuthority c)
  let tail := s.dropWhile fun c => !kind.endsAuthority c
  let (hostText, portText) := takeHost false hostAndPort
  if hostText = [] then
    if kind = .other ∧ portText = [] ∧ admitsNoHost user tail then some (rooted kind scheme none none tail) else none
  else
    let host ← if kind = .other then Host.parseOpaque? hostText else Host.parse? hostText
    let port ← port? ((portText.drop 1).takeWhile (· ≠ '\\'))
    some (rooted kind scheme host port (portText.dropWhile (· ≠ '\\') ++ tail))

/-- The address of a file with what follows its host. The host of a path that
begins with a drive does not count, and neither does this computer. -/
def fileAddress (scheme : List Char) (host : Option Host) (tail : List Char) : WebAddress :=
  let (text, query) := divideTail tail
  let path := segmentsOf .file text
  let host := if beginsWithDrive path ∨ host = some (.name "localhost".toList) then none else host
  ⟨scheme, host, none, .segments (dropEmpty path), query⟩

/-- The address of a file. A drive is no host. -/
def ofFile? (scheme s : List Char) : Option WebAddress := do
  match s with
  | a :: b :: rest =>
    if SchemeKind.file.isSlash a && SchemeKind.file.isSlash b then
      let hostText := rest.takeWhile fun c => !SchemeKind.file.endsAuthority c
      let tail := rest.dropWhile fun c => !SchemeKind.file.endsAuthority c
      if hostText = [] then some (fileAddress scheme none tail)
      else if isDrive hostText then some (fileAddress scheme none rest)
      else some (fileAddress scheme (← Host.parse? hostText) tail)
    else some (fileAddress scheme none s)
  | _ => some (fileAddress scheme none s)

/-- An address whose scheme has no rules of its own. -/
def ofOther? (scheme s : List Char) : Option WebAddress :=
  match s with
  | '/' :: '/' :: rest => withAuthority? .other scheme rest
  | '/' :: _ => some (rooted .other scheme none none s)
  | _ =>
    let (text, query) := divideTail s
    some ⟨scheme, none, none, .opaquePath text, query⟩

/-- Control characters and the space, which do not count at the ends. -/
def isMargin (c : Char) : Bool := c.toNat ≤ 0x20

/-- The address that a text writes. Tabs and line ends are ignored. -/
def parse? (s : List Char) : Option WebAddress := do
  let s := (Text.trimBoth isMargin s).filter fun c => c ≠ '\t' ∧ c ≠ '\n' ∧ c ≠ '\r'
  let (scheme, rest) ← takeScheme? s
  match SchemeKind.ofScheme scheme with
  | .file => ofFile? scheme rest
  | .web => withAuthority? .web scheme (rest.dropWhile SchemeKind.web.isSlash)
  | .other => ofOther? scheme rest

/-! ### What an address has -/

/-- Whether a path has at least one character after its first slash, or two
characters if it has no structure. Characters that are no ASCII characters, and
control characters, are written as escapes of three. -/
def Path.isLong : Path → Bool
  | .segments list => 1 < list.length || list.any (· ≠ [])
  | .opaquePath text => 1 < text.length || text.any fun c => c.toNat < 0x20 || 0x7E < c.toNat

end WebAddress

end RecordRules
