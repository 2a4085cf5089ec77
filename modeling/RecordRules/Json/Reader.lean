/-
Reading JSON texts.

* `Outline.value?`: the value of an outline that has no faults and is not too
  deep;
* `Json.ofChars?`, `Json.ofString?`: the value of a text, if it is JSON.
-/
import RecordRules.Json.Outline

namespace RecordRules.Json

/-- The largest number of arrays and objects inside each other. -/
def maxDepth : Nat := 127

namespace Outline

mutual

/-- The value of an outline with at most `depth` containers inside each other. -/
def value? (depth : Nat) : Outline → Option Json
  | null => some .null
  | bool b => some (.bool b)
  | number n => n.map .number
  | string s => s.map .string
  | array items => if depth = 0 then none else (values? (depth - 1) items).map .array
  | object members => if depth = 0 then none else (membersOf? (depth - 1) [] members).map .object
  | broken => none

/-- The values of items. -/
def values? (depth : Nat) : List Outline → Option (List Json)
  | [] => some []
  | item :: rest => do
    let value ← value? depth item
    let values ← values? depth rest
    some (value :: values)

/-- The members so far with further ones. -/
def membersOf? (depth : Nat) (members : Members) : List (Option String × Outline) → Option Members
  | [] => some members
  | (key, item) :: rest => do
    let key ← key
    let value ← value? depth item
    membersOf? depth (members.put key value) rest

end

end Outline

/-- The value of a JSON text. -/
def ofChars? (text : List Char) : Option Json :=
  match Outline.ofChars text with
  | (outline, true) => outline.value? maxDepth
  | (_, false) => none

/-- The value of a JSON text. -/
def ofString? (text : String) : Option Json := ofChars? text.toList

end RecordRules.Json
