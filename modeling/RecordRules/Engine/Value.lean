/-
How the engine looks at values.

* `Json.mapLeaves`: sanitizations reach into arrays and objects;
* `Json.isBlank`: values that count as missing;
* `Json.displayText`: values in messages.
-/
import RecordRules.Json.Writer
import RecordRules.Rule.Basic
import RecordRules.Text.Blank

namespace RecordRules.Json

mutual

/-- Replaces every value that is no array and no object. The first fault stops
it. -/
def mapLeaves (f : Json → Except Fault Json) : Json → Except Fault Json
  | array items => (mapItems f items).map array
  | object members => (mapMembers f members).map object
  | leaf => f leaf

/-- Replaces the leaves of all items. -/
def mapItems (f : Json → Except Fault Json) : List Json → Except Fault (List Json)
  | [] => .ok []
  | item :: rest => do
    let item ← mapLeaves f item
    let rest ← mapItems f rest
    .ok (item :: rest)

/-- Replaces the leaves of all members. -/
def mapMembers (f : Json → Except Fault Json) : List (String × Json) → Except Fault (List (String × Json))
  | [] => .ok []
  | (key, value) :: rest => do
    let value ← mapLeaves f value
    let rest ← mapMembers f rest
    .ok ((key, value) :: rest)

end

/-- Null, texts of white space, and empty containers. -/
def isBlank : Json → Bool
  | null => true
  | string s => Text.isAllBlank s.toList
  | array items => items.isEmpty
  | object members => members.isEmpty
  | bool _ | number _ => false

mutual

/-- The value as it stands in messages: strings as they are, the items of an
array with commas between them, nothing for null. -/
def displayText : Json → String
  | null => ""
  | string s => s
  | array items => String.intercalate ", " (displayTexts items)
  | value => value.compact

/-- The items as they stand in messages. -/
def displayTexts : List Json → List String
  | [] => []
  | item :: rest => displayText item :: displayTexts rest

end

end RecordRules.Json
