/-
Host names with characters of all scripts.

* `HostName.mapped?`: the characters that a name stands for;
* `HostName.isLabel`: the parts between the points that are admitted;
* `HostName.ofBytes?`: the name that the bytes of an address stand for.
-/
import RecordRules.Text.Category
import RecordRules.Web.HostTable
import RecordRules.Web.Punycode

namespace RecordRules.HostName

/-! ### Characters -/

/-- Characters that have a meaning of their own in web addresses. -/
def isForbidden (c : Char) : Bool := c.toNat ≤ 0x20 || c.toNat == 0x7F || "%#/:<>?@[\\]^|".toList.contains c

/-- What a character stands for: nothing, one character or several; `none` if no
host name contains it. -/
def mapChar? (c : Char) : Option (List Char) :=
  let n := c.toNat
  if hostDisallowed.contains n then none
  else if hostIgnored.contains n then some []
  else
    match hostMap.image? n, hostExpansions.expansion? n with
    | some m, _ => some [Char.ofNat m]
    | none, some sequence => some (sequence.map Char.ofNat)
    | none, none => some [c]

/-- The characters that a name stands for. -/
def mapped? : List Char → Option (List Char)
  | [] => some []
  | c :: rest => do
    let front ← mapChar? c
    let back ← mapped? rest
    some (front ++ back)

/-- A character that stands for itself. -/
def standsForItself (c : Char) : Bool := mapChar? c == some [c]

/-! ### Joiners -/

/-- Characters before which a letter may break its join to what follows. -/
def joinsNext (c : Char) : Bool := joinsNextRanges.contains c.toNat || joinsBothRanges.contains c.toNat

/-- Characters after which a letter may break its join to what is before. -/
def joinsPrevious (c : Char) : Bool := joinsPreviousRanges.contains c.toNat || joinsBothRanges.contains c.toNat

/-- The first character that a join does not pass over, if it is in a class. -/
def reaches (p : Char → Bool) (s : List Char) : Bool :=
  match s.dropWhile fun c => joinTransparentRanges.contains c.toNat with
  | c :: _ => p c
  | [] => false

/-- Whether joiners stand where they have an effect: after a virama, or, for the
one that keeps letters apart, between letters that would join. `before` holds
what is before, the latest first. -/
def joinersFit (before : List Char) : List Char → Bool
  | [] => true
  | c :: rest =>
    (!Text.isJoiner c || before.head?.any (fun b => viramaRanges.contains b.toNat) ||
      (c.toNat == 0x200C && reaches joinsNext before && reaches joinsPrevious rest)) &&
      joinersFit (c :: before) rest

/-! ### Direction -/

/-- The bidirectional class of a character. -/
def bidiClass (c : Char) : String := bidiRuns.label c.toNat

/-- A letter or digit of a script that is written from right to left. -/
def isRightToLeft (c : Char) : Bool := ["R", "AL", "AN"].contains (bidiClass c)

/-- The class of the last character that is no combining mark. -/
def lastClass (classes : List String) : String :=
  ((classes.reverse.dropWhile (· == "NSM")).head?).getD ""

/-- Whether the characters of a label fit to its direction, which is that of the
first character. -/
def directionFits (label : List Char) : Bool :=
  let classes := label.map bidiClass
  let neutral := ["EN", "ES", "CS", "ET", "ON", "BN", "NSM"]
  match classes with
  | [] => true
  | first :: _ =>
    if first == "L" then
      classes.all (fun k => k == "L" || neutral.contains k) && ["L", "EN"].contains (lastClass classes)
    else if first == "R" || first == "AL" then
      classes.all (fun k => ["R", "AL", "AN"].contains k || neutral.contains k) &&
        ["R", "AL", "EN", "AN"].contains (lastClass classes) &&
        !(classes.contains "EN" && classes.contains "AN")
    else false

/-! ### Names -/

/-- The beginning of a label that stands for a label of other characters. -/
def encodedMark : List Char := "xn--".toList

/-- The characters of a label, `none` if it is an encoded one that stands for
no other. -/
def decodeLabel? (label : List Char) : Option (List Char) :=
  if encodedMark.isPrefixOf label then
    match Punycode.decode? (label.drop encodedMark.length) with
    | some text => if text.all (·.toNat < 128) || !text.all standsForItself then none else some text
    | none => none
  else some label

/-- A label: it begins with no combining mark and its joiners have an effect. -/
def isLabel (label : List Char) : Bool := !label.head?.any Text.isMark && joinersFit [] label

/-- The name that a text stands for. Its labels are separated by points, and may
be empty. -/
def ofText? (s : List Char) : Option (List Char) := do
  let name ← mapped? s
  let labels ← (splitChars '.' name).mapM decodeLabel?
  let mixed := labels.any (·.any isRightToLeft)
  if name.any isForbidden || !labels.all isLabel || (mixed && !labels.all directionFits) then none else some name

/-- The name that bytes stand for. -/
def ofBytes? (bytes : List UInt8) : Option (List Char) :=
  match String.fromUTF8? ⟨bytes.toArray⟩ with
  | some text => ofText? text.toList
  | none => none

end RecordRules.HostName
