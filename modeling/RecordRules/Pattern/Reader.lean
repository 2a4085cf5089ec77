/-
Reading patterns.

A pattern is read from left to right with a stack of the groups that are open.
Flags such as `(?i)` hold from their place to the end of their group.

* `PatternText.readEscape`: what a backslash introduces;
* `PatternText.readClass`: a class in brackets;
* `PatternText.step`: one element of a pattern;
* `Pattern.parse?`: the pattern of a text, if it is well formed and not too
  large.
-/
import RecordRules.Decimal.Digits
import RecordRules.Pattern.Basic
import RecordRules.Text.Blank
import RecordRules.Text.Category

namespace RecordRules.PatternText

/-! ### Flags and blanks -/

/-- The flags that are in force at a place. -/
structure Flags where
  ignoreCase : Bool
  multiLine : Bool
  dotMatchesLineEnd : Bool
  /-- Blanks and comments are skipped. -/
  extended : Bool
  unicode : Bool
  crlf : Bool

/-- The text after blanks and comments. A comment goes from `#` to the end of
the line. -/
def dropBlanks (inComment : Bool) : List Char → List Char
  | [] => []
  | c :: rest =>
    if inComment then dropBlanks (c != '\n') rest
    else if c = '#' then dropBlanks true rest
    else if Text.isBlank c then dropBlanks false rest
    else c :: rest

/-- The text after what is skipped. -/
def Flags.skip (flags : Flags) (s : List Char) : List Char := if flags.extended then dropBlanks false s else s

theorem dropBlanks_length (inComment : Bool) (s : List Char) :
    (dropBlanks inComment s).length ≤ s.length := by
  fun_induction dropBlanks inComment s <;> simp_all <;> omega

theorem Flags.skip_length (flags : Flags) (s : List Char) : (flags.skip s).length ≤ s.length := by
  rw [Flags.skip]
  split
  · exact dropBlanks_length false s
  · exact Nat.le_refl _

/-- A class closed under the case that the flags ignore. -/
def Flags.fold (flags : Flags) (p : CharClass) : CharClass :=
  if flags.ignoreCase then (if flags.unicode then p.foldCase else p.foldAscii) else p

/-- The class of word characters. -/
def Flags.word (flags : Flags) : CharClass := CharClass.escaped 'w' flags.unicode

/-- Flags in the order of a flag group: a letter that is set or cleared, or the
minus sign. -/
inductive FlagItem where
  | minus
  | letter (c : Char)
  deriving DecidableEq

/-- The items of a flag group up to `:` or `)`, the end sign, and the text after
it. No letter may be repeated, and a minus sign must be followed by a letter. -/
def readFlagItems (items : List FlagItem) : List Char → Option (List FlagItem × Char × List Char)
  | [] => none
  | c :: rest =>
    if c = ':' ∨ c = ')' then
      if items.head? = some .minus then none else some (items.reverse, c, rest)
    else
      let item := if c = '-' then FlagItem.minus else .letter c
      if items.contains item ∨ (c ≠ '-' ∧ ¬ ['i', 'm', 's', 'U', 'u', 'R', 'x'].contains c) then none
      else readFlagItems (item :: items) rest

/-- Sets or clears the flag of a letter. -/
def Flags.set (flags : Flags) (letter : Char) (value : Bool) : Flags :=
  match letter with
  | 'i' => { flags with ignoreCase := value }
  | 'm' => { flags with multiLine := value }
  | 's' => { flags with dotMatchesLineEnd := value }
  | 'x' => { flags with extended := value }
  | 'u' => { flags with unicode := value }
  | 'R' => { flags with crlf := value }
  | _ => flags

/-- The flags after the items of a flag group: letters after a minus sign are
cleared. -/
def Flags.apply (flags : Flags) (value : Bool) : List FlagItem → Flags
  | [] => flags
  | .minus :: rest => flags.apply false rest
  | .letter c :: rest => (flags.set c value).apply value rest

/-! ### Escapes -/

/-- What stands at one place of a pattern or a class. -/
inductive Primitive where
  | literal (c : Char)
  | set (p : CharClass)
  | assertion (a : Assertion)

/-- The characters with a meaning in patterns. -/
def isMeta (c : Char) : Bool := "\\.+*?()|[]\x7b\x7d^$#&-~".toList.contains c

/-- The characters that a backslash makes literal. -/
def isEscapable (c : Char) : Bool :=
  isMeta c || (c.toNat < 128 && !c.isAlphanum && c != '<' && c != '>')

/-- The character of a code point. -/
def codePoint? (n : Nat) : Option Char := if n.isValidChar then some (Char.ofNat n) else none

/-- A fixed number of hexadecimal digits. -/
def readHexDigits (flags : Flags) : Nat → List Char → Option (List Char × List Char)
  | 0, s => some ([], s)
  | _ + 1, [] => none
  | n + 1, c :: rest =>
    if (hexValue? c).isSome then
      (readHexDigits flags n (flags.skip rest)).map fun (digits, after) => (c :: digits, after)
    else none

/-- The characters before a closing brace, without skipped ones, and the text
after the brace. -/
def readBraced (flags : Flags) (s : List Char) : Option (List Char × List Char) :=
  match s with
  | [] => none
  | c :: rest =>
    if c = '\x7d' then some ([], rest)
    else (readBraced flags (flags.skip rest)).map fun (inner, after) => (c :: inner, after)
termination_by s.length
decreasing_by
  have := flags.skip_length rest
  simp only [List.length_cons]
  omega

/-- A code point in hexadecimal: some digits in braces, or a fixed number of
digits. -/
def readHex (flags : Flags) (count : Nat) (s : List Char) : Option (Char × List Char) :=
  match flags.skip s with
  | [] => none
  | c :: rest =>
    if c = '\x7b' then
      match readBraced flags (flags.skip rest) with
      | some (digits, after) =>
        if digits ≠ [] ∧ digits.all (fun d => (hexValue? d).isSome) then
          (codePoint? (hexNumber digits)).map fun c => (c, flags.skip after)
        else none
      | none => none
    else
      match readHexDigits flags count (c :: rest) with
      | some (digits, after) => (codePoint? (hexNumber digits)).map fun c => (c, after)
      | none => none

/-- The parts of a list around the first occurrence of a character. -/
def splitAtChar? (sep : Char) : List Char → Option (List Char × List Char)
  | [] => none
  | c :: rest =>
    if c = sep then some ([], rest)
    else (splitAtChar? sep rest).map fun (front, back) => (c :: front, back)

/-- The parts of a list around the first `!=`. -/
def splitAtNotEqual? : List Char → Option (List Char × List Char)
  | '!' :: '=' :: rest => some ([], rest)
  | c :: rest => (splitAtNotEqual? rest).map fun (front, back) => (c :: front, back)
  | [] => none

/-- The class of what stands in the braces of a property. -/
def bracedProperty? (inner : List Char) : Option CharClass :=
  match splitAtNotEqual? inner with
  | some (property, value) => (CharClass.valued? property value).map CharClass.complement
  | none =>
    match splitAtChar? ':' inner with
    | some (property, value) => CharClass.valued? property value
    | none =>
      match splitAtChar? '=' inner with
      | some (property, value) => CharClass.valued? property value
      | none => CharClass.named? inner

/-- The class of a property after `p` or `P`. -/
def readProperty (flags : Flags) (negated : Bool) (s : List Char) : Option (Primitive × List Char) :=
  if !flags.unicode then none
  else
    let primitive := fun p => Primitive.set ((flags.fold p).complementIf negated)
    match flags.skip s with
    | [] => none
    | c :: rest =>
      if c = '\x7b' then
        match readBraced flags (flags.skip rest) with
        | some (inner, after) => (bracedProperty? inner).map fun p => (primitive p, after)
        | none => none
      else if c = '\\' then none
      else (CharClass.named? [c]).map fun p => (primitive p, flags.skip rest)

/-- The name in braces after a word boundary, if one begins there. `none` is a
malformed name. -/
def readBoundaryName (flags : Flags) (s : List Char) : Option (Option (List Char) × List Char) :=
  match s with
  | '\x7b' :: rest =>
    match flags.skip rest with
    | [] => none
    | c :: more =>
      if c.isAlpha || c == '-' then
        match readBraced flags (c :: more) with
        | some (name, after) => if name.all fun c => c.isAlpha || c == '-' then some (some name, after) else none
        | none => none
      else some (none, s)
  | _ => some (none, s)

/-- What a backslash before a text introduces. -/
def readEscape (flags : Flags) (s : List Char) : Option (Primitive × List Char) :=
  match s with
  | [] => none
  | c :: rest =>
    if c = 'x' ∨ c = 'u' ∨ c = 'U' then
      (readHex flags (if c = 'x' then 2 else if c = 'u' then 4 else 8) rest).bind fun (d, after) =>
        if flags.unicode ∨ d.toNat < 128 then some (.literal d, after) else none
    else if c = 'p' ∨ c = 'P' then readProperty flags (c == 'P') rest
    else if c = 'd' ∨ c = 's' ∨ c = 'w' then
      some (.set (CharClass.escaped c flags.unicode), rest)
    else if c = 'D' ∨ c = 'S' ∨ c = 'W' then
      if flags.unicode then some (.set (CharClass.escaped c.toLower true).complement, rest) else none
    else if isEscapable c then some (.literal c, rest)
    else
      match c with
      | 'a' => some (.literal '\x07', rest)
      | 'f' => some (.literal '\x0c', rest)
      | 't' => some (.literal '\t', rest)
      | 'n' => some (.literal '\n', rest)
      | 'r' => some (.literal '\r', rest)
      | 'v' => some (.literal '\x0b', rest)
      | 'A' => some (.assertion .textStart, rest)
      | 'z' => some (.assertion .textEnd, rest)
      | 'B' => some (.assertion (.notWordBoundary flags.word), rest)
      | '<' => some (.assertion (.wordStart flags.word), rest)
      | '>' => some (.assertion (.wordEnd flags.word), rest)
      | 'b' =>
        match readBoundaryName flags rest with
        | none => none
        | some (none, after) => some (.assertion (.wordBoundary flags.word), after)
        | some (some name, after) =>
          match String.ofList name with
          | "start" => some (.assertion (.wordStart flags.word), after)
          | "end" => some (.assertion (.wordEnd flags.word), after)
          | "start-half" => some (.assertion (.wordStartHalf flags.word), after)
          | "end-half" => some (.assertion (.wordEndHalf flags.word), after)
          | _ => none
      | _ => none

/-! ### Classes in brackets -/

/-- The operations on classes in brackets. -/
inductive ClassOp where
  | inter
  | diff
  | symmDiff

/-- The class of an operation. -/
def ClassOp.apply : ClassOp → CharClass → CharClass → CharClass
  | inter, p, q => p.inter q
  | diff, p, q => p.diff q
  | symmDiff, p, q => p.symmDiff q

/-- An open bracket: whether the class is negated, the operation that waits for
its right side, and the members so far. -/
structure ClassLevel where
  negated : Bool
  pending : Option (ClassOp × CharClass)
  members : CharClass

/-- The class of a bracket without its negation. -/
def ClassLevel.value (flags : Flags) (level : ClassLevel) : CharClass :=
  match level.pending with
  | none => level.members
  | some (op, left) => op.apply (flags.fold left) (flags.fold level.members)

/-- Adds members. -/
def ClassLevel.add (level : ClassLevel) (p : CharClass) : ClassLevel :=
  { level with members := level.members.union p }

/-- The literal hyphens at the start of a bracket. -/
def readHyphens (flags : Flags) (level : ClassLevel) (s : List Char) : ClassLevel × List Char :=
  match s with
  | '-' :: rest => readHyphens flags (level.add (.single '-')) (flags.skip rest)
  | _ => (level, s)
termination_by s.length
decreasing_by
  have := flags.skip_length rest
  simp only [List.length_cons]
  omega

/-- The start of a bracket: a negation sign, literal hyphens, and a literal
closing bracket if it comes first. -/
def openBracket (flags : Flags) (s : List Char) : Option (ClassLevel × List Char) :=
  let (negated, s) :=
    match flags.skip s with
    | '^' :: rest => (true, flags.skip rest)
    | s => (false, s)
  let start : ClassLevel := ⟨negated, none, .empty⟩
  let (level, s') := readHyphens flags start s
  match s' with
  | [] => none
  | ']' :: rest =>
    if s'.length = s.length then
      match flags.skip rest with
      | [] => none
      | rest => some (level.add (.single ']'), rest)
    else some (level, s')
  | s' => some (level, s')

/-- An ASCII class such as `[:alpha:]`, after its opening bracket. -/
def readNamedClass? (s : List Char) : Option (Bool × CharClass × List Char) :=
  match s with
  | ':' :: rest =>
    let (negated, rest) :=
      match rest with
      | '^' :: rest => (true, rest)
      | _ => (false, rest)
    match splitAtChar? ':' rest with
    | some (name, ']' :: after) => (CharClass.bracketNamed? (String.ofList name)).map fun p => (negated, p, after)
    | _ => none
  | _ => none

/-- One place of a class. -/
def readClassItem (flags : Flags) (s : List Char) : Option (Primitive × List Char) :=
  match s with
  | [] => none
  | '\\' :: rest => readEscape flags rest
  | c :: rest => some (.literal c, rest)

/-- The members that a place of a class stands for. -/
def classMembers? (flags : Flags) : Primitive → Option CharClass
  | .literal c => if flags.unicode ∨ c.toNat < 128 then some (.single c) else none
  | .set p => some p
  | .assertion _ => none

/-- A place of a class or a range of characters. -/
def readClassRange (flags : Flags) (s : List Char) : Option (CharClass × List Char) :=
  match readClassItem flags s with
  | none => none
  | some (first, after) =>
    match flags.skip after with
    | [] => none
    | '-' :: rest =>
      let ahead := (flags.skip rest).head?
      if ahead = some ']' ∨ ahead = some '-' then
        (classMembers? flags first).map fun p => (p, '-' :: rest)
      else
        match first, readClassItem flags (flags.skip rest) with
        | .literal lo, some (.literal hi, after) =>
          if lo ≤ hi ∧ (flags.unicode ∨ hi.toNat < 128) then some (.range lo hi, after) else none
        | _, _ => none
    | after => (classMembers? flags first).map fun p => (p, after)

/-- The rest of a class in brackets, with the brackets that are open around it:
the class, and the text after its last bracket. -/
def readClass (flags : Flags) (outer : List ClassLevel) (level : ClassLevel) (s : List Char) :
    Option (CharClass × List Char) :=
  let continueWith (outer : List ClassLevel) (level : ClassLevel) (next : List Char) :=
    if _shorter : next.length < s.length then readClass flags outer level next else none
  let operation (op : ClassOp) (rest : List Char) :=
    continueWith outer ⟨level.negated, some (op, level.value flags), .empty⟩ rest
  match flags.skip s with
  | [] => none
  | '[' :: rest =>
    match readNamedClass? rest with
    | some (negated, p, after) => continueWith outer (level.add ((flags.fold p).complementIf negated)) after
    | none =>
      match openBracket flags rest with
      | some (inner, after) => continueWith (level :: outer) inner after
      | none => none
  | ']' :: rest =>
    if level.negated ∧ ¬ flags.unicode then none
    else
      let p := (flags.fold (level.value flags)).complementIf level.negated
      match outer with
      | [] => some (p, rest)
      | parent :: outer => continueWith outer (parent.add p) rest
  | '&' :: '&' :: rest => operation .inter rest
  | '-' :: '-' :: rest => operation .diff rest
  | '~' :: '~' :: rest => operation .symmDiff rest
  | s =>
    match readClassRange flags s with
    | some (p, after) => continueWith outer (level.add p) after
    | none => none
termination_by s.length

/-! ### Elements of a pattern -/

/-- A part of a pattern with the depth of its syntax tree. Flag groups are parts
that cannot be repeated. -/
structure Part where
  pattern : Pattern
  depth : Nat
  repeatable : Bool

/-- The parts of an open group: the finished branches and the current one, both
latest first. -/
structure Level where
  branches : List Part
  parts : List Part

/-- The state of reading: the innermost open group, the groups around it with
the flags that were in force before them, the flags, and the names of groups. -/
structure State where
  level : Level
  outer : List (Level × Flags)
  flags : Flags
  names : List (List Char)

/-- The parts of a branch, latest first, as one part. -/
def joinParts : List Part → Part
  | [] => ⟨.nothing, 0, true⟩
  | [part] => part
  | part :: rest =>
    let joined := joinParts rest
    ⟨.seq joined.pattern part.pattern,
      max (part.depth + 1) (if rest.length = 1 then joined.depth + 1 else joined.depth), true⟩

/-- The branches of a group, latest first, as one part. -/
def joinBranches : List Part → Part
  | [] => ⟨.nothing, 0, true⟩
  | [part] => part
  | part :: rest =>
    let joined := joinBranches rest
    ⟨.alt joined.pattern part.pattern,
      max (part.depth + 1) (if rest.length = 1 then joined.depth + 1 else joined.depth), true⟩

/-- All of a group as one part. -/
def Level.close (level : Level) : Part := joinBranches (joinParts level.parts :: level.branches)

/-- Adds a part to the current branch. -/
def State.push (state : State) (part : Part) : State :=
  { state with level := { state.level with parts := part :: state.level.parts } }

/-- Adds a part that is no group. -/
def State.pushPattern (state : State) (pattern : Pattern) : State := state.push ⟨pattern, 0, true⟩

/-- Opens a group under flags. -/
def State.openGroup (state : State) (flags : Flags) : State :=
  { state with level := ⟨[], []⟩, outer := (state.level, state.flags) :: state.outer, flags := flags }

/-- The name of a group up to `>`, and the text after it. A name begins with a
letter or `_`; later on digits, `.` and brackets are allowed too. -/
def readGroupName (s : List Char) : Option (List Char × List Char) :=
  match splitAtChar? '>' s with
  | some (name, after) =>
    let isFirst := fun c => c == '_' || Text.isAlphabetic c
    let isLater := fun c =>
      isFirst c || c == '.' || c == '[' || c == ']' || Text.hasCategory "N" c
    if name.head?.any isFirst && name.all isLater then some (name, after) else none
  | none => none

/-- A group, after its opening parenthesis. Groups that look around are not
supported. -/
def readGroup (state : State) (s : List Char) : Option (State × List Char) :=
  let named (rest : List Char) :=
    match readGroupName rest with
    | some (name, after) =>
      if state.names.contains name then none
      else some ({ state.openGroup state.flags with names := name :: state.names }, after)
    | none => none
  match state.flags.skip s with
  | '?' :: '=' :: _ => none
  | '?' :: '!' :: _ => none
  | '?' :: '<' :: '=' :: _ => none
  | '?' :: '<' :: '!' :: _ => none
  | '?' :: 'P' :: '<' :: rest => named rest
  | '?' :: '<' :: rest => named rest
  | '?' :: rest =>
    match readFlagItems [] rest with
    | none => none
    | some (items, endSign, after) =>
      let flags := state.flags.apply true items
      if endSign = ':' then some (state.openGroup flags, after)
      else if items = [] then none
      else some ({ state.push ⟨.nothing, 0, false⟩ with flags := flags }, after)
  | rest => some (state.openGroup state.flags, rest)

/-- The end of a group. -/
def closeGroup (state : State) : Option State :=
  match state.outer with
  | [] => none
  | (level, flags) :: outer =>
    let part := state.level.close
    some ({ state with level := level, outer := outer, flags := flags }.push ⟨part.pattern, part.depth + 1, true⟩)

/-- Repeats the latest part. -/
def repeatLast (state : State) (least : Nat) (most : Option Nat) : Option State :=
  match state.level.parts with
  | part :: rest =>
    if part.repeatable then
      some { state with
        level := { state.level with parts := ⟨.repeat part.pattern least most, part.depth + 1, true⟩ :: rest } }
    else none
  | [] => none

/-- The text after the sign of a repetition that prefers few rounds. -/
def dropLazySign : List Char → List Char
  | '?' :: rest => rest
  | s => s

/-- The decimal digits of a count, with the blanks that are skipped among them,
and the text after them. -/
def readCountDigits (flags : Flags) (s : List Char) : List Char × List Char :=
  match s with
  | [] => ([], [])
  | c :: rest =>
    if c.isDigit then
      let (digits, after) := readCountDigits flags (flags.skip rest)
      (c :: digits, after)
    else ([], s)
termination_by s.length
decreasing_by
  have := flags.skip_length rest
  simp only [List.length_cons]
  omega

/-- The blanks after a count. -/
def dropCountBlanks (flags : Flags) (s : List Char) : List Char := flags.skip (s.dropWhile Text.isBlank)

/-- A count and the text after it. `none` in place of the count if there are no
digits; no answer at all if the count is too large. -/
def readCount (flags : Flags) (s : List Char) : Option (Option Nat × List Char) :=
  let (digits, after) := readCountDigits flags (s.dropWhile Text.isBlank)
  let after := dropCountBlanks flags after
  if digits = [] then some (none, after)
  else if numberOf digits < 4294967296 then some (some (numberOf digits), after)
  else none

/-- The bounds of a repetition after the opening brace, and the text after the
closing brace. -/
def readBounds (flags : Flags) (s : List Char) : Option (Nat × Option Nat × List Char) :=
  match readCount flags (flags.skip s) with
  | some (some least, '\x7d' :: after) => some (least, some least, after)
  | some (some least, ',' :: rest) =>
    match flags.skip rest with
    | '\x7d' :: after => some (least, none, after)
    | rest =>
      match readCount flags rest with
      | some (some most, '\x7d' :: after) => if least ≤ most then some (least, some most, after) else none
      | _ => none
  | _ => none

/-- The part of a literal character. -/
def literalPattern (flags : Flags) (c : Char) : Pattern := .one (flags.fold (.single c))

/-- The part of a primitive. -/
def primitivePattern (flags : Flags) : Primitive → Pattern
  | .literal c => literalPattern flags c
  | .set p => .one p
  | .assertion a => .assert a

/-- The class of a dot: all characters, or all but line ends. -/
def dotClass (flags : Flags) : CharClass :=
  if flags.dotMatchesLineEnd then CharClass.empty.complement
  else if flags.crlf then (CharClass.union (.single '\n') (.single '\r')).complement
  else (CharClass.single '\n').complement

/-- One element of a pattern that begins with the character `c`. -/
def step (state : State) (c : Char) (rest : List Char) : Option (State × List Char) :=
  let flags := state.flags
  if c = '(' then readGroup state rest
  else if c = ')' then (closeGroup state).map fun state => (state, rest)
  else if c = '|' then
    some ({ state with level := ⟨joinParts state.level.parts :: state.level.branches, []⟩ }, rest)
  else if c = '[' then
    match openBracket flags rest with
    | none => none
    | some (level, after) =>
      (readClass flags [] level after).map fun (p, after) => (state.push ⟨.one p, 2, true⟩, after)
  else if c = '*' then (repeatLast state 0 none).map fun state => (state, dropLazySign rest)
  else if c = '+' then (repeatLast state 1 none).map fun state => (state, dropLazySign rest)
  else if c = '?' then (repeatLast state 0 (some 1)).map fun state => (state, dropLazySign rest)
  else if c = '\x7b' then
    match readBounds flags rest with
    | none => none
    | some (least, most, after) =>
      (repeatLast state least most).map fun state => (state, dropLazySign (flags.skip after))
  else if c = '\\' then
    (readEscape flags rest).map fun (primitive, after) =>
      (state.pushPattern (primitivePattern flags primitive), after)
  else if c = '.' then
    if flags.unicode then some (state.pushPattern (.one (dotClass flags)), rest) else none
  else if c = '^' then
    some (state.pushPattern (.assert
      (if flags.multiLine then (if flags.crlf then .lineStartCrlf else .lineStart) else .textStart)), rest)
  else if c = '$' then
    some (state.pushPattern (.assert
      (if flags.multiLine then (if flags.crlf then .lineEndCrlf else .lineEnd) else .textEnd)), rest)
  else some (state.pushPattern (literalPattern flags c), rest)

/-- Reads to the end of the text. -/
def readAll (state : State) (s : List Char) : Option State :=
  match state.flags.skip s with
  | [] => some state
  | c :: rest =>
    match step state c rest with
    | none => none
    | some (state, after) => if after.length < s.length then readAll state after else none
termination_by s.length

/-- The greatest depth of a syntax tree. -/
def maxDepth : Nat := 250

end RecordRules.PatternText

namespace RecordRules.Pattern

open PatternText

/-- The pattern of a text under flags. `none` if the text is malformed or the
pattern is too deep or too large. -/
def parse? (flags : Flags) (text : List Char) : Option Pattern :=
  match readAll ⟨⟨[], []⟩, [], flags, []⟩ text with
  | some state =>
    let part := state.level.close
    if state.outer.isEmpty ∧ part.depth ≤ maxDepth ∧ part.pattern.size ≤ maxSize then some part.pattern
    else none
  | none => none

/-- The flags of letters; other letters are ignored. -/
def flagsOf (letters : List Char) : Flags :=
  ⟨letters.contains 'i', letters.contains 'm', letters.contains 's', letters.contains 'x', true, false⟩

end RecordRules.Pattern
