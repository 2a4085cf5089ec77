/-
The tokens of YAML texts.

Indentation shows in tokens that begin and end block collections. A key is known
as one only when its colon comes; so the places where a key may begin are
remembered, and the tokens of the key are put in afterwards.

* `Token.State`: a text that has been read in part;
* `Token.next`: the token that comes next, or several;
* `Token.tokens?`: all tokens of a text, if it can be read.
-/
import RecordRules.Decimal.Digits
import RecordRules.Yaml.Scalar

namespace RecordRules.Yaml

/-- A token of a YAML text. -/
inductive Token where
  | versionDirective (major minor : Nat)
  | tagDirective (handle start : String)
  | documentStart
  | documentEnd
  | blockSequenceStart
  | blockMappingStart
  | blockEnd
  | flowSequenceStart
  | flowSequenceEnd
  | flowMappingStart
  | flowMappingEnd
  | blockEntry
  | flowEntry
  | key
  | value
  | alias (name : String)
  | anchor (name : String)
  | tag (handle suffix : String)
  /-- A text, and whether it stands without quotes. -/
  | scalar (text : String) (isPlain : Bool)
  deriving DecidableEq, Repr

namespace Token

/-! ### State -/

/-- A place where a key may have begun. -/
structure Candidate where
  /-- The number of tokens before it. -/
  position : Nat
  /-- Nothing but a key may stand there. -/
  required : Bool
  place : Place

/-- A text that has been read in part. -/
structure State where
  cursor : Cursor
  tokens : Array Token
  /-- The column of the innermost block collection; -1 outside of all. -/
  indent : Int
  /-- The columns of the block collections around it. -/
  outer : List Int
  /-- A key may begin at the next token. -/
  keyAllowed : Bool
  /-- The candidates by depth of brackets, innermost first; there is one place
  more than open brackets. -/
  candidates : List (Option Candidate)

namespace State

/-- The state before a text. -/
def start (text : List Char) : State := ⟨.start text, #[], -1, [], true, [none]⟩

/-- Whether a bracket is open. -/
def inFlow (s : State) : Bool := 1 < s.candidates.length

/-- The column of the cursor. -/
def column (s : State) : Nat := s.cursor.column

/-- The state with one more token. -/
def push (s : State) (token : Token) : State := { s with tokens := s.tokens.push token }

/-- The state after a number of characters. -/
def skip (s : State) (n : Nat) : State := { s with cursor := s.cursor.skip n }

/-- The state with a token in front of the token at a position. -/
def insert (s : State) (position : Nat) (token : Token) : State :=
  { s with tokens := s.tokens.extract 0 position ++ #[token] ++ s.tokens.extract position s.tokens.size }

/-- The candidate at the current depth of brackets. -/
def candidate? (s : State) : Option Candidate := s.candidates.head?.join

/-- The state with another candidate at the current depth. -/
def setCandidate (s : State) (candidate : Option Candidate) : State :=
  { s with candidates := candidate :: s.candidates.drop 1 }

/-- No key began at the candidate; a fault if it had to. -/
def dropCandidate (s : State) : Option State :=
  match s.candidate? with
  | some candidate => if candidate.required then none else some (s.setCandidate none)
  | none => some s

/-- Remembers that a key may begin here. -/
def saveCandidate (s : State) : Option State :=
  if s.keyAllowed then do
    let s ← s.dropCandidate
    let required := !s.inFlow && s.indent == s.column
    some (s.setCandidate (some ⟨s.tokens.size, required, s.cursor.place⟩))
  else some s

/-- The state with keys allowed or not. -/
def allowKey (s : State) (allowed : Bool) : State := { s with keyAllowed := allowed }

/-! ### Indentation -/

/-- Begins a block collection, if the column lies further right. Its token comes
at a position, or last. -/
def indentTo (s : State) (column : Nat) (position : Option Nat) (token : Token) : State :=
  if !s.inFlow && s.indent < column then
    let s := match position with
      | some i => s.insert i token
      | none => s.push token
    { s with indent := column, outer := s.indent :: s.outer }
  else s

/-- Ends the block collections that lie further right than a column. -/
def closeBlocks (column : Int) (indent : Int) (tokens : Array Token) : List Int → Int × List Int × Array Token
  | [] => (indent, [], tokens)
  | o :: outer =>
    if column < indent then closeBlocks column o (tokens.push .blockEnd) outer else (indent, o :: outer, tokens)

/-- Ends the block collections that lie further right than a column. -/
def dedentTo (s : State) (column : Int) : State :=
  if s.inFlow then s
  else
    let (indent, outer, tokens) := closeBlocks column s.indent s.tokens s.outer
    { s with indent := indent, outer := outer, tokens := tokens }

end State

/-! ### Between tokens -/

/-- The cursor at the next token, and whether a key may begin there. A break
allows it outside of brackets; tabs may stand only where it is not allowed. -/
def skipGap (inFlow keyAllowed inComment : Bool) (place : Place) : List Char → Bool × Cursor
  | [] => (keyAllowed, ⟨[], place⟩)
  | c :: rest =>
    if isBreak c then skipGap inFlow (keyAllowed || !inFlow) false (place.after c) rest
    else if inComment || c == ' ' || c == '#' || (c == '\t' && (inFlow || !keyAllowed)) then
      skipGap inFlow keyAllowed (inComment || c == '#') (place.after c) rest
    else (keyAllowed, ⟨c :: rest, place⟩)

/-- The state at the next token. -/
def atNext (s : State) : State :=
  let (keyAllowed, cursor) := skipGap s.inFlow s.keyAllowed false s.cursor.place s.cursor.rest
  { s with keyAllowed := keyAllowed, cursor := cursor }

/-! ### Directives -/

/-- The cursor at the end of a line on which nothing but blanks and a comment
follow. -/
def endLine? (cursor : Cursor) : Option Cursor :=
  let cursor := cursor.skipWhile isBlank
  let cursor := if cursor.rest.head? = some '#' then cursor.skipWhile (!isBreak ·) else cursor
  match cursor.rest with
  | [] => some cursor
  | c :: _ => if isBreak c then some (cursor.skip 1) else none

/-- A number of one to nine digits. -/
def readVersionNumber (cursor : Cursor) : Option (Nat × Cursor) :=
  let (digits, cursor) := cursor.takeWhile Char.isDigit
  if digits = [] ∨ 9 < digits.length then none else some (numberOf digits, cursor)

/-- The handle of a tag: an exclamation mark, or a word between two. -/
def readHandle (cursor : Cursor) : Option (List Char × Cursor) :=
  match cursor.rest with
  | '!' :: _ =>
    let (word, cursor) := (cursor.skip 1).takeWhile isWordChar
    if cursor.rest.head? = some '!' then some ('!' :: (word ++ ['!']), cursor.skip 1) else some ('!' :: word, cursor)
  | _ => none

/-- The characters of tags; commas and brackets only in some places. -/
def isTagChar (everywhere : Bool) (c : Char) : Bool :=
  isWordChar c || ";/?:@&=+$.%!~*'()".toList.contains c || (everywhere && ",[]".toList.contains c)

/-- Every percent sign begins an escape of two hexadecimal digits. -/
def hasGoodEscapes : List Char → Bool
  | [] => true
  | '%' :: a :: b :: rest => (hexValue? a).isSome && (hexValue? b).isSome && hasGoodEscapes rest
  | c :: rest => c != '%' && hasGoodEscapes rest

/-- The text of a tag, or a part of it. -/
def readTagText (everywhere : Bool) (cursor : Cursor) : Option (List Char × Cursor) :=
  let (text, cursor) := cursor.takeWhile (isTagChar everywhere)
  if hasGoodEscapes text then some (text, cursor) else none

/-- A directive, after its percent sign. -/
def readDirective (cursor : Cursor) : Option (Token × Cursor) := do
  let (name, cursor) := cursor.takeWhile isWordChar
  if !atGap cursor.rest then none
  else if name = "YAML".toList then
    let (major, cursor) ← readVersionNumber (cursor.skipWhile isBlank)
    if cursor.rest.head? ≠ some '.' then none
    else
      let (minor, cursor) ← readVersionNumber (cursor.skip 1)
      some (.versionDirective major minor, ← endLine? cursor)
  else if name = "TAG".toList then
    let (handle, cursor) ← readHandle (cursor.skipWhile isBlank)
    if handle.getLast? ≠ some '!' ∨ !cursor.rest.head?.any isBlank then none
    else
      let (text, cursor) ← readTagText true (cursor.skipWhile isBlank)
      if text = [] ∨ !atGap cursor.rest then none
      else some (.tagDirective (String.ofList handle) (String.ofList text), ← endLine? cursor)
  else none

/-! ### Anchors and tags -/

/-- The name of an anchor or alias. -/
def readName (cursor : Cursor) : Option (String × Cursor) :=
  let (name, cursor) := cursor.takeWhile isWordChar
  let ends := atGap cursor.rest || cursor.rest.head?.any ("?:,]\x7d%@`".toList.contains ·)
  if name = [] ∨ !ends then none else some (String.ofList name, cursor)

/-- A tag. -/
def readTag (inFlow : Bool) (cursor : Cursor) : Option (Token × Cursor) := do
  let (token, cursor) ←
    match cursor.rest with
    | '!' :: '<' :: _ =>
      match readTagText true (cursor.skip 2) with
      | some (text, after) =>
        if text ≠ [] ∧ after.rest.head? = some '>' then some (Token.tag "" (String.ofList text), after.skip 1)
        else none
      | none => none
    | _ =>
      match readHandle cursor with
      | none => none
      | some (handle, after) =>
        if 1 < handle.length ∧ handle.getLast? = some '!' then
          match readTagText false after with
          | some (text, after) =>
            if text = [] then none else some (Token.tag (String.ofList handle) (String.ofList text), after)
          | none => none
        else
          match readTagText false after with
          | some (text, after) =>
            let suffix := handle.drop 1 ++ text
            if suffix = [] then some (Token.tag "" "!", after)
            else some (Token.tag "!" (String.ofList suffix), after)
          | none => none
  if atGap cursor.rest || (inFlow && cursor.rest.head? == some ',') then some (token, cursor) else none

/-! ### Blocks -/

/-- What a sign says about the breaks at the end of a block. -/
def chompingOf? (c : Char) : Option Chomping :=
  if c = '+' then some .keep else if c = '-' then some .strip else none

/-- The header of a block, after its first sign: what becomes of the breaks at
the end, and the indentation, in any order. -/
def readHeader (cursor : Cursor) : Option (Chomping × Option Nat × Cursor) :=
  let digit? := fun c : Char => if c.isDigit then some (digitValue c) else none
  let (chomping, indent, n) :=
    match cursor.rest with
    | a :: b :: _ =>
      match chompingOf? a, digit? a, chompingOf? b, digit? b with
      | some k, _, _, some d => (k, some d, 2)
      | some k, _, _, none => (k, none, 1)
      | none, some d, some k, _ => (k, some d, 2)
      | none, some d, none, _ => (Chomping.clip, some d, 1)
      | none, none, _, _ => (Chomping.clip, none, 0)
    | [a] =>
      match chompingOf? a, digit? a with
      | some k, _ => (k, none, 1)
      | none, some d => (Chomping.clip, some d, 1)
      | none, none => (Chomping.clip, none, 0)
    | [] => (Chomping.clip, none, 0)
  if indent = some 0 then none else (endLine? (cursor.skip n)).map fun cursor => (chomping, indent, cursor)

/-- A block, after its first sign. -/
def readBlockScalar (folded : Bool) (indent : Int) (cursor : Cursor) : Option (Token × Cursor) := do
  let (chomping, given, cursor) ← readHeader cursor
  let columns := given.map fun n => n + indent.toNat
  let (text, cursor) ← readBlock ⟨folded, chomping⟩ (max (indent + 1) 1).toNat
    ⟨[], columns, 0, none, [], false, false⟩ cursor.place cursor.rest
  some (.scalar (String.ofList text) false, cursor)

/-! ### One token -/

/-- Opens a bracket. -/
def openBracket (s : State) (token : Token) : Option State := do
  let s ← s.saveCandidate
  some ({ (s.allowKey true) with candidates := none :: s.candidates } |>.skip 1 |>.push token)

/-- Closes a bracket. -/
def closeBracket (s : State) (token : Token) : Option State := do
  let s ← s.dropCandidate
  let s := if s.inFlow then { s with candidates := s.candidates.drop 1 } else s
  some (s.allowKey false |>.skip 1 |>.push token)

/-- The mark of an item. -/
def blockEntryAt (s : State) : Option State := do
  if !s.inFlow && !s.keyAllowed then none
  else
    let s ← (s.indentTo s.column none .blockSequenceStart).dropCandidate
    some (s.allowKey true |>.skip 1 |>.push .blockEntry)

/-- The mark of a key. -/
def keyAt (s : State) : Option State := do
  if !s.inFlow && !s.keyAllowed then none
  else
    let s ← (s.indentTo s.column none .blockMappingStart).dropCandidate
    some (s.allowKey (!s.inFlow) |>.skip 1 |>.push .key)

/-- Whether a candidate may be a key at a place: it began on the same line, at
most 1024 characters before. -/
def isNear (candidate : Candidate) (place : Place) : Bool :=
  candidate.place.line == place.line && place.index ≤ candidate.place.index + 1024

/-- A colon without a key before it. -/
def bareValueAt (s : State) : Option State :=
  if !s.inFlow && !s.keyAllowed then none
  else some ((s.indentTo s.column none .blockMappingStart).allowKey (!s.inFlow) |>.skip 1 |>.push .value)

/-- The mark of a value. The candidate before it is a key. -/
def valueAt (s : State) : Option State :=
  match s.candidate? with
  | some candidate =>
    if isNear candidate s.cursor.place then
      let s := s.insert candidate.position .key
      let s := s.indentTo candidate.place.column (some candidate.position) .blockMappingStart
      some ((s.setCandidate none).allowKey false |>.skip 1 |>.push .value)
    else if candidate.required then none
    else bareValueAt (s.setCandidate none)
  | none => bareValueAt s

/-- A token that may be a key, or begin one. -/
def keyPart (s : State) (read : Cursor → Option (Token × Cursor)) : Option State := do
  let s ← s.saveCandidate
  let (token, cursor) ← read s.cursor
  some ({ s.allowKey false with cursor := cursor }.push token)

/-- A quoted text, after its quote. -/
def readQuoted (read : Place → List Char → Option (List Char × Cursor)) (cursor : Cursor) : Option (Token × Cursor) :=
  let cursor := cursor.skip 1
  (read cursor.place cursor.rest).map fun (text, cursor) => (.scalar (String.ofList text) false, cursor)

/-- A plain text. After a break a key may begin. -/
def plainAt (s : State) : Option State := do
  let s ← s.saveCandidate
  let (text, broken, cursor) ← readPlain s.inFlow (s.indent + 1) [] .empty s.cursor.place s.cursor.rest
  some ({ s.allowKey broken with cursor := cursor }.push (.scalar (String.ofList text) true))

/-- The mark between two documents. -/
def documentMarkAt (s : State) (token : Token) : Option State := do
  let s ← (s.dedentTo (-1)).dropCandidate
  some (s.allowKey false |>.skip 3 |>.push token)

/-- The characters that begin no plain text. -/
def isIndicator (c : Char) : Bool := "-?:,[]\x7b\x7d#&*!|>'\"%@`".toList.contains c

/-- The token that comes next, when a text goes on with a character. -/
def next (s : State) (c : Char) (rest : List Char) : Option State :=
  if s.column = 0 ∧ c = '%' then do
    let s ← (s.dedentTo (-1)).dropCandidate
    let (token, cursor) ← readDirective (s.cursor.skip 1)
    some ({ s.allowKey false with cursor := cursor }.push token)
  else if atDocumentMark s.cursor.place (c :: rest) then
    documentMarkAt s (if c = '-' then .documentStart else .documentEnd)
  else if c = '[' then openBracket s .flowSequenceStart
  else if c = '{' then openBracket s .flowMappingStart
  else if c = ']' then closeBracket s .flowSequenceEnd
  else if c = '}' then closeBracket s .flowMappingEnd
  else if c = ',' then do
    let s ← s.dropCandidate
    some (s.allowKey true |>.skip 1 |>.push .flowEntry)
  else if c = '-' ∧ atGap rest then blockEntryAt s
  else if c = '?' ∧ (s.inFlow ∨ atGap rest) then keyAt s
  else if c = ':' ∧ (s.inFlow ∨ atGap rest) then valueAt s
  else if c = '*' then keyPart s fun cursor => (readName (cursor.skip 1)).map fun (name, cursor) => (.alias name, cursor)
  else if c = '&' then
    keyPart s fun cursor => (readName (cursor.skip 1)).map fun (name, cursor) => (.anchor name, cursor)
  else if c = '!' then keyPart s (readTag s.inFlow)
  else if (c = '|' ∨ c = '>') ∧ !s.inFlow then do
    let s ← s.dropCandidate
    let (token, cursor) ← readBlockScalar (c == '>') s.indent (s.cursor.skip 1)
    some ({ s.allowKey true with cursor := cursor }.push token)
  else if c = '\'' then keyPart s (readQuoted (readSingleQuoted [] .empty))
  else if c = '"' then keyPart s (readQuoted (readDoubleQuoted [] .empty))
  else if !isBlank c && (!isIndicator c || (c == '-' && !rest.head?.any isBlank) ||
      (!s.inFlow && (c == '?' || c == ':') && !atGap rest)) then plainAt s
  else none

/-! ### Whole texts -/

/-- The tokens of a text that has been read. -/
def finish (s : State) : Option (List Token) := (s.dedentTo (-1)).dropCandidate.map (·.tokens.toList)

/-- The tokens of a text that has been read in part. -/
def readAll (s : State) : Option (List Token) :=
  let s' := atNext s
  let s' := s'.dedentTo s'.column
  match s'.cursor.rest with
  | [] => finish s'
  | c :: rest =>
    match next s' c rest with
    | none => none
    | some s'' => if s''.cursor.rest.length < s.cursor.rest.length then readAll s'' else none
termination_by s.cursor.rest.length

/-- All tokens of a text. -/
def tokens? (text : List Char) : Option (List Token) :=
  let text := withoutByteOrderMark text
  if text.all isReadableChar then readAll (State.start (unifyBreaks text)) else none

end Token

end RecordRules.Yaml
