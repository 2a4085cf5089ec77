/-
JSON values and records.

* `Json`: values whose objects keep the order of their members;
* `Members`: a member list has each key once, and a second value for a key
  replaces the first one in its place;
* `Json.same`: equality of values, in which the order of members and the sign of
  zero do not count;
* `Record`: the members of an object, the input of all rules.
-/
import RecordRules.Decimal.Binary64
import RecordRules.Keyed

namespace RecordRules

/-- A number of a JSON text: an integer that fits into 64 bits, with or without
sign, or a double. -/
inductive JsonNumber where
  | integer (n : Int)
  | double (x : Binary64)
  deriving DecidableEq, Repr

/-- A JSON value. -/
inductive Json where
  | null
  | bool (b : Bool)
  | number (n : JsonNumber)
  | string (s : String)
  | array (items : List Json)
  | object (members : List (String × Json))
  deriving Repr

/-- The members of an object in order, each key once. -/
abbrev Members := Keyed Json

/-- An input record: field ids with their values. -/
abbrev Record := Members

namespace JsonNumber

/-- Equality of numbers: an integer never equals a double. -/
def same : JsonNumber → JsonNumber → Bool
  | integer m, integer n => m == n
  | double x, double y => x.same y
  | _, _ => false

/-- The least 64-bit integer with sign. -/
def int64Min : Int := -9223372036854775808

/-- The largest 64-bit integer with sign. -/
def int64Max : Int := 9223372036854775807

/-- The number as a 64-bit integer with sign. -/
def int64? : JsonNumber → Option Int
  | integer n => if int64Min ≤ n ∧ n ≤ int64Max then some n else none
  | double _ => none

end JsonNumber

namespace Json

mutual

/-- Equality of values. Members are compared by key, whatever their order. -/
def same : Json → Json → Bool
  | null, null => true
  | bool a, bool b => a == b
  | number a, number b => a.same b
  | string a, string b => a == b
  | array a, array b => sameItems a b
  | object a, object b => a.length == b.length && sameMembers a b
  | _, _ => false

/-- Equality item by item. -/
def sameItems : List Json → List Json → Bool
  | [], [] => true
  | a :: as, b :: bs => same a b && sameItems as bs
  | _, _ => false

/-- Every member has an equal one under the same key. -/
def sameMembers : Members → Members → Bool
  | [], _ => true
  | (k, a) :: rest, other =>
    (match other.get? k with
     | some b => same a b
     | none => false) && sameMembers rest other

end

end Json

end RecordRules
