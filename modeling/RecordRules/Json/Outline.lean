/-
Outlines of JSON texts.

An outline is the tree that a text writes, up to the first place where the text
is malformed; everything that is open there is closed, and the place is marked
as broken. Whoever reads an outline from the left meets the faults of a text in
their order, whether they are faults of its form or of its content.

* `Outline.step`: one token drives a machine whose stack holds the arrays and
  objects that are still open;
* `Outline.ofTokens`, `Outline.ofChars`: the outline of a text;
* `Outline.isSound`: no place is broken.
-/
import RecordRules.Json.Token

namespace RecordRules.Json

/-- The tree of a JSON text. Numbers that no double can hold, and strings with
half a surrogate pair, have no value. -/
inductive Outline where
  | null
  | bool (b : Bool)
  | number (value : Option JsonNumber)
  | string (value : Option String)
  | array (items : List Outline)
  | object (members : List (Option String × Outline))
  /-- The text is malformed here, or ends. -/
  | broken

namespace Outline

/-! ### Open containers -/

/-- An open array with its items so far, or an open object with its members so
far and the key whose value is due; the latest come first. -/
inductive Frame where
  | array (items : List Outline)
  | object (members : List (Option String × Outline)) (key : Option String)

/-- What may come next. -/
inductive Phase where
  /-- A value, or the end of an array that has just been opened. -/
  | firstItem
  /-- A value. -/
  | value
  /-- A key, or the end of an object that has just been opened. -/
  | firstKey
  /-- A key. -/
  | key (members : List (Option String × Outline))
  /-- The colon after a key. -/
  | colon (members : List (Option String × Outline)) (key : Option String)
  /-- A comma or the end of the array. -/
  | afterItem (items : List Outline)
  /-- A comma or the end of the object. -/
  | afterMember (members : List (Option String × Outline))
  /-- Nothing more. -/
  | done (value : Outline)

/-- The open containers, innermost first, and what may come next. -/
structure State where
  stack : List Frame
  phase : Phase

/-- The state before the first token. -/
def start : State := ⟨[], .value⟩

/-- A value is complete: it goes into the innermost open container. -/
def deliver (value : Outline) : List Frame → State
  | [] => ⟨[], .done value⟩
  | .array items :: rest => ⟨rest, .afterItem (value :: items)⟩
  | .object members key :: rest => ⟨rest, .afterMember ((key, value) :: members)⟩

/-- A token where a value is due. -/
def startValue (stack : List Frame) : Token → Option State
  | .null => some (deliver .null stack)
  | .bool b => some (deliver (.bool b) stack)
  | .number n => some (deliver (.number n) stack)
  | .string s => some (deliver (.string s) stack)
  | .openArray => some ⟨.array [] :: stack, .firstItem⟩
  | .openObject => some ⟨stack, .firstKey⟩
  | _ => none

/-- The effect of a token; `none` if it may not come next. -/
def step (state : State) (token : Token) : Option State :=
  match state.phase, token with
  | .firstItem, .closeArray =>
    match state.stack with
    | .array items :: rest => some (deliver (.array items.reverse) rest)
    | _ => none
  | .firstItem, token => startValue state.stack token
  | .value, token => startValue state.stack token
  | .firstKey, .closeObject => some (deliver (.object []) state.stack)
  | .firstKey, .string key => some ⟨state.stack, .colon [] key⟩
  | .key members, .string key => some ⟨state.stack, .colon members key⟩
  | .colon members key, .colon => some ⟨.object members key :: state.stack, .value⟩
  | .afterItem items, .comma => some ⟨.array items :: state.stack, .value⟩
  | .afterItem items, .closeArray => some (deliver (.array items.reverse) state.stack)
  | .afterMember members, .comma => some ⟨state.stack, .key members⟩
  | .afterMember members, .closeObject => some (deliver (.object members.reverse) state.stack)
  | _, _ => none

/-! ### Malformed texts -/

/-- Closes all open containers around a value. -/
def closeAll (value : Outline) : List Frame → Outline
  | [] => value
  | .array items :: rest => closeAll (.array (items.reverse ++ [value])) rest
  | .object members key :: rest => closeAll (.object (members.reverse ++ [(key, value)])) rest

/-- The outline of a text that is malformed in a state. -/
def abandon (state : State) : Outline :=
  match state.phase with
  | .firstItem | .value => closeAll .broken state.stack
  | .firstKey => closeAll (.object [(none, .broken)]) state.stack
  | .key members | .afterMember members => closeAll (.object (members.reverse ++ [(none, .broken)])) state.stack
  | .colon members key => closeAll (.object (members.reverse ++ [(key, .broken)])) state.stack
  | .afterItem items => closeAll (.array (items.reverse ++ [.broken])) state.stack
  | .done value => value

/-- The outline of the rest of a text after a state, and whether nothing follows
the value. -/
def build (state : State) : List Token → Outline × Bool
  | [] =>
    match state.phase with
    | .done value => (value, true)
    | _ => (abandon state, false)
  | token :: rest =>
    match step state token with
    | some state => build state rest
    | none => (abandon state, false)

/-- The outline of tokens, and whether nothing follows the value. -/
def ofTokens (tokens : List Token) : Outline × Bool := build start tokens

/-- The outline of a text, and whether nothing follows the value. -/
def ofChars (text : List Char) : Outline × Bool := ofTokens (Token.tokens text)

mutual

/-- No place of an outline is broken. -/
def isSound : Outline → Bool
  | broken => false
  | array items => areSound items
  | object members => areSoundMembers members
  | null | bool _ | number _ | string _ => true

/-- No item is broken. -/
def areSound : List Outline → Bool
  | [] => true
  | item :: rest => isSound item && areSound rest

/-- No member is broken. -/
def areSoundMembers : List (Option String × Outline) → Bool
  | [] => true
  | (_, value) :: rest => isSound value && areSoundMembers rest

end

end Outline

end RecordRules.Json
