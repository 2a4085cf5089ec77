/-
Classes of characters that a pattern may name.

* `CharClass`: a set of characters, as ranges of code points;
* `CharClass.named?`: the class of a name such as `Greek`, `Lu` or `Alphabetic`;
* `CharClass.valued?`: the class of a property and a value, as in `sc=Greek`;
* `CharClass.bracketNamed?`: the ASCII class of a name such as `alpha`;
* `CharClass.foldCase`: all characters that are equal without case to one of a
  class.

Names are compared without case, blanks, `_` and `-`, and without a leading
`is`. A class has one form however it is written.
-/
import RecordRules.Text.CaseTable
import RecordRules.Text.CategoryTable
import RecordRules.Text.PropertyTable
import RecordRules.Text.ScriptTable

namespace RecordRules

/-- A set of characters. -/
abbrev CharClass := CodeRanges

namespace CharClass

/-! ### Operations -/

/-- Whether a character is in a class. -/
def has (p : CharClass) (c : Char) : Bool := p.contains c.toNat

/-- The ranges of a class, in order. -/
def ranges (p : CharClass) : List (Nat × Nat) := p.table.toList

/-- No characters. -/
def empty : CharClass := .ofPairs []

/-- The characters from one to another. -/
def range (first last : Char) : CharClass := .ofPairs [(first.toNat, last.toNat)]

/-- One character. -/
def single (c : Char) : CharClass := range c c

/-- The gaps between ranges in order, from a code point on. -/
def gapsFrom (start : Nat) : List (Nat × Nat) → List (Nat × Nat)
  | [] => if start ≤ CodeRanges.maxCode then [(start, CodeRanges.maxCode)] else []
  | (lo, hi) :: rest => if start < lo then (start, lo - 1) :: gapsFrom (hi + 1) rest else gapsFrom (hi + 1) rest

/-- The characters that are in none of a class. -/
def complement (p : CharClass) : CharClass := .ofPairs (gapsFrom 0 p.ranges)

/-- The complement, if asked for. -/
def complementIf (negated : Bool) (p : CharClass) : CharClass := if negated then p.complement else p

/-- The characters of either class. -/
def union (p q : CharClass) : CharClass := .ofPairs (p.ranges ++ q.ranges)

/-- The characters of both classes. -/
def inter (p q : CharClass) : CharClass := (p.complement.union q.complement).complement

/-- The characters of the first class that are not in the second. -/
def diff (p q : CharClass) : CharClass := (p.complement.union q).complement

/-- The characters of exactly one of two classes. -/
def symmDiff (p q : CharClass) : CharClass := (p.diff q).union (q.diff p)

/-- The class with all characters that have a replacement in common with one of it. A
character that is not moved is its own replacement. -/
def foldBy (moved : List (Nat × Nat)) (p : CharClass) : CharClass :=
  let replacements := (moved.filter fun (n, _) => p.contains n).map fun (_, target) => (target, target)
  let q := p.union (.ofPairs replacements)
  let sources := (moved.filter fun (_, target) => q.contains target).map fun (n, _) => (n, n)
  q.union (.ofPairs sources)

/-- The capital ASCII letters with the small ones. -/
def asciiPairs : List (Nat × Nat) := (List.range 26).map fun i => ('A'.toNat + i, 'a'.toNat + i)

/-- The code points that are replaced in comparisons without case. -/
def foldPairs : List (Nat × Nat) := foldMap.pairs

/-- The characters that are equal without case to one of a class. -/
def foldCase (p : CharClass) : CharClass := p.foldBy foldPairs

/-- The characters that are equal to one of a class up to the case of ASCII
letters. -/
def foldAscii (p : CharClass) : CharClass := p.foldBy asciiPairs

/-! ### Names -/

/-- A name without case, blanks, `_`, `-` and a leading `is`. -/
def normalize (name : List Char) : String :=
  let (isDropped, rest) :=
    match name with
    | a :: b :: rest => if a.toLower = 'i' ∧ b.toLower = 's' then (true, rest) else (false, name)
    | _ => (false, name)
  let kept := (rest.filter fun c => c.toNat < 128 && c != ' ' && c != '_' && c != '-').map Char.toLower
  if isDropped ∧ kept = ['c'] then "isc" else String.ofList kept

/-- The value under the first list of names that holds a name. -/
def findNamed? {α : Type} (table : List (List String × α)) (name : String) : Option α :=
  (table.find? fun entry => entry.1.contains name).map (·.2)

/-- The ASCII hexadecimal digits. -/
def hexDigits : CharClass := .ofLines ["30-39 41-46 61-66"]

/-- White space. -/
def blanks : CharClass := .ofLines ["9-D 20 85 A0 1680 2000-200A 2028-2029 202F 205F 3000"]

/-- The names of general categories with the beginnings of their codes. -/
def categoryNames : List (List String × List String) :=
  [
   (["c", "other"], ["C"]),
   (["cc", "control", "cntrl"], ["Cc"]),
   (["cf", "format"], ["Cf"]),
   (["cn", "unassigned"], ["Cn"]),
   (["co", "privateuse"], ["Co"]),
   (["cs", "surrogate"], ["Cs"]),
   (["l", "letter"], ["L"]),
   (["lc", "casedletter"], ["Lu", "Ll", "Lt"]),
   (["ll", "lowercaseletter"], ["Ll"]),
   (["lm", "modifierletter"], ["Lm"]),
   (["lo", "otherletter"], ["Lo"]),
   (["lt", "titlecaseletter"], ["Lt"]),
   (["lu", "uppercaseletter"], ["Lu"]),
   (["m", "mark", "combiningmark"], ["M"]),
   (["mc", "spacingmark"], ["Mc"]),
   (["me", "enclosingmark"], ["Me"]),
   (["mn", "nonspacingmark"], ["Mn"]),
   (["n", "number"], ["N"]),
   (["nd", "decimalnumber", "digit"], ["Nd"]),
   (["nl", "letternumber"], ["Nl"]),
   (["no", "othernumber"], ["No"]),
   (["p", "punctuation", "punct"], ["P"]),
   (["pc", "connectorpunctuation"], ["Pc"]),
   (["pd", "dashpunctuation"], ["Pd"]),
   (["pe", "closepunctuation"], ["Pe"]),
   (["pf", "finalpunctuation"], ["Pf"]),
   (["pi", "initialpunctuation"], ["Pi"]),
   (["po", "otherpunctuation"], ["Po"]),
   (["ps", "openpunctuation"], ["Ps"]),
   (["s", "symbol"], ["S"]),
   (["sc", "currencysymbol"], ["Sc"]),
   (["sk", "modifiersymbol"], ["Sk"]),
   (["sm", "mathsymbol"], ["Sm"]),
   (["so", "othersymbol"], ["So"]),
   (["z", "separator"], ["Z"]),
   (["zl", "lineseparator"], ["Zl"]),
   (["zp", "paragraphseparator"], ["Zp"]),
   (["zs", "spaceseparator"], ["Zs"])]

/-- The names of properties with their code points. -/
def propertyNames : List (List String × CharClass) :=
  [(["alphabetic", "alpha"], alphabeticRanges),
   (["bidicontrol", "bidic"], bidiControlRanges),
   (["caseignorable", "ci"], caseIgnorableRanges),
   (["cased"], casedRanges),
   (["changeswhencasefolded", "cwcf"], changesWhenCasefoldedRanges),
   (["changeswhencasemapped", "cwcm"], changesWhenCasemappedRanges),
   (["changeswhenlowercased", "cwl"], changesWhenLowercasedRanges),
   (["changeswhentitlecased", "cwt"], changesWhenTitlecasedRanges),
   (["changeswhenuppercased", "cwu"], changesWhenUppercasedRanges),
   (["dash"], dashRanges),
   (["defaultignorablecodepoint", "di"], defaultIgnorableCodePointRanges),
   (["deprecated", "dep"], deprecatedRanges),
   (["diacritic", "dia"], diacriticRanges),
   (["emoji"], emojiRanges),
   (["emojicomponent", "ecomp"], emojiComponentRanges),
   (["emojimodifier", "emod"], emojiModifierRanges),
   (["emojimodifierbase", "ebase"], emojiModifierBaseRanges),
   (["emojipresentation", "epres"], emojiPresentationRanges),
   (["extendedpictographic", "extpict"], extendedPictographicRanges),
   (["extender", "ext"], extenderRanges),
   (["graphemebase", "grbase"], graphemeBaseRanges),
   (["graphemeextend", "grext"], graphemeExtendRanges),
   (["hexdigit", "hex"], .ofLines ["30-39 41-46 61-66 FF10-FF19 FF21-FF26 FF41-FF46"]),
   (["asciihexdigit", "ahex"], hexDigits),
   (["hyphen"], .ofLines ["2D AD 58A 1806 2010-2011 2E17 30FB FE63 FF0D FF65"]),
   (["idsbinaryoperator", "idsb"], ideographBinaryOperatorsRanges),
   (["idstrinaryoperator", "idst"], ideographTernaryOperatorsRanges),
   (["idcontinue", "idc"], idContinueRanges),
   (["idstart", "ids"], idStartRanges),
   (["ideographic", "ideo"], ideographicRanges),
   (["joincontrol", "joinc"], .ofLines ["200C-200D"]),
   (["logicalorderexception", "loe"], logicalOrderExceptionRanges),
   (["lowercase", "lower"], lowercaseRanges),
   (["math"], mathRanges),
   (["noncharactercodepoint", "nchar"], noncharacterCodePointRanges),
   (["patternsyntax", "patsyn"], patternSyntaxRanges),
   (["patternwhitespace", "patws"], .ofLines ["9-D 20 85 200E-200F 2028-2029"]),
   (["prependedconcatenationmark", "pcm"], .ofLines ["600-605 6DD 70F 890-891 8E2 110BD 110CD"]),
   (["quotationmark", "qmark"], quotationMarkRanges),
   (["radical"], radicalRanges),
   (["regionalindicator", "ri"], .ofLines ["1F1E6-1F1FF"]),
   (["sentenceterminal", "sterm"], sentenceTerminalRanges),
   (["softdotted", "sd"], softDottedRanges),
   (["terminalpunctuation", "term"], terminalPunctuationRanges),
   (["unifiedideograph", "uideo"], unifiedIdeographRanges),
   (["uppercase", "upper"], uppercaseRanges),
   (["variationselector", "vs"], .ofLines ["180B-180D 180F FE00-FE0F E0100-E01EF"]),
   (["whitespace", "wspace", "space"], blanks),
   (["xidcontinue", "xidc"], xidContinueRanges),
   (["xidstart", "xids"], xidStartRanges)]

/-- The characters whose category begins with one of some codes. -/
def inCategories (codes : List String) : CharClass :=
  categoryRuns.rangesWhere fun label => codes.any fun code => code.toList.isPrefixOf label.toList

/-- The class of a general category. -/
def category? (name : String) : Option CharClass :=
  if name = "any" then some empty.complement
  else if name = "ascii" then some (.ofLines ["0-7F"])
  else if name = "assigned" then some (inCategories ["Cn"]).complement
  else (findNamed? categoryNames name).map inCategories

/-- The four-letter code of a script. -/
def scriptCode? (name : String) : Option String :=
  (scriptNames.find? fun (code, long) =>
    normalize code.toList == name || normalize long.toList == name ||
      (code == "Copt" && name == "qaac") || (code == "Zinh" && name == "qaai")).map (·.1)

/-- The characters of a script. -/
def ofScript (code : String) : CharClass := scriptRuns.rangesWhere (· == code)

/-- The class of a script. -/
def script? (name : String) : Option CharClass := (scriptCode? name).map ofScript

/-- The class of the characters that are used with a script. -/
def scriptExtension? (name : String) : Option CharClass :=
  (scriptCode? name).map fun code =>
    match scriptExtensionChanges.lookup code with
    | some changes => (ofScript code).symmDiff changes
    | none => ofScript code

/-- The class of a property. -/
def property? (name : String) : Option CharClass := findNamed? propertyNames name

/-- The class of a name: of a property, else of a general category, else of a
script. The names `cf`, `sc` and `lc` are categories. -/
def named? (name : List Char) : Option CharClass :=
  let name := normalize name
  let asProperty := if name = "cf" ∨ name = "sc" ∨ name = "lc" then none else property? name
  match asProperty with
  | some p => some p
  | none =>
    match category? name with
    | some p => some p
    | none => script? name

/-- The class of a property and a value. -/
def valued? (property value : List Char) : Option CharClass :=
  match normalize property with
  | "gc" | "generalcategory" => category? (normalize value)
  | "sc" | "script" => script? (normalize value)
  | "scx" | "scriptextensions" => scriptExtension? (normalize value)
  | _ => none

/-- The ASCII class of a name in brackets. -/
def bracketNamed? (name : String) : Option CharClass :=
  match name with
  | "alnum" => some (.ofLines ["30-39 41-5A 61-7A"])
  | "alpha" => some (.ofLines ["41-5A 61-7A"])
  | "ascii" => some (.ofLines ["0-7F"])
  | "blank" => some (.ofLines ["9 20"])
  | "cntrl" => some (.ofLines ["0-1F 7F"])
  | "digit" => some (.ofLines ["30-39"])
  | "graph" => some (.ofLines ["21-7E"])
  | "lower" => some (.ofLines ["61-7A"])
  | "print" => some (.ofLines ["20-7E"])
  | "punct" => some (.ofLines ["21-2F 3A-40 5B-60 7B-7E"])
  | "space" => some (.ofLines ["9-D 20"])
  | "upper" => some (.ofLines ["41-5A"])
  | "word" => some (.ofLines ["30-39 41-5A 5F 61-7A"])
  | "xdigit" => some hexDigits
  | _ => none

/-! ### Escaped classes -/

/-- Decimal digits of all scripts. -/
def digits : CharClass := inCategories ["Nd"]

/-- The characters of words: letters, marks, decimal digits, connecting punctuation
and joiners. -/
def wordChars : CharClass := (union alphabeticRanges (inCategories ["M", "Nd", "Pc"])).union (.ofLines ["200C-200D"])

/-- The class of `d`, `s` or `w` after a backslash: digits, white space, word
characters. -/
def escaped (letter : Char) (unicode : Bool) : CharClass :=
  if letter = 'd' then (if unicode then digits else .ofLines ["30-39"])
  else if letter = 's' then (if unicode then blanks else .ofLines ["9-D 20"])
  else (if unicode then wordChars else .ofLines ["30-39 41-5A 5F 61-7A"])

end CharClass

end RecordRules
