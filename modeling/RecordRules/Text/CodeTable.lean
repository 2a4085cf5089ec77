/-
Sorted tables over code points, and the compact text in which the tables of
this library are written:

* `CodeTable.floor?`: the last entry whose key is at most a code point;
* `CodeRanges`: a set of code points as closed ranges, written `41-5A AA`, with
  `CodeRanges.ofPairs` for ranges in any order;
* `CodeMap`: a partial map that moves ranges of code points, written
  `41-5A:61` (consecutive code points) or `100-12E/2:101` (every second one);
* `CodeExpansions`: a partial map from code points to sequences of them, written
  `A8:20.308`;
* `CodeRuns`: a labelling of all code points by runs, written `0.Cc 20.Zs`.
-/

namespace RecordRules

/-- A table of entries in increasing order of their keys. -/
abbrev CodeTable (α : Type) := Array (Nat × α)

namespace CodeTable

/-- Binary search in the entries `lo`, …, `hi - 1` for the last key that is at
most `n`; `best` is the answer when there is none among them. -/
def floorFrom? {α : Type} (table : CodeTable α) (n lo hi : Nat) (best : Option (Nat × α)) :
    Option (Nat × α) :=
  if lo < hi then
    let mid := lo + (hi - lo) / 2
    match table[mid]? with
    | none => best
    | some entry =>
      if entry.1 ≤ n then floorFrom? table n (mid + 1) hi (some entry)
      else floorFrom? table n lo mid best
  else best
termination_by hi - lo

/-- The last entry whose key is at most `n`. -/
def floor? {α : Type} (table : CodeTable α) (n : Nat) : Option (Nat × α) :=
  floorFrom? table n 0 table.size none

end CodeTable

/-! ### The written form -/

/-- The value of a hexadecimal digit. -/
def hexValue? (c : Char) : Option Nat :=
  if '0' ≤ c ∧ c ≤ '9' then some (c.toNat - '0'.toNat)
  else if 'a' ≤ c ∧ c ≤ 'f' then some (c.toNat - 'a'.toNat + 10)
  else if 'A' ≤ c ∧ c ≤ 'F' then some (c.toNat - 'A'.toNat + 10)
  else none

/-- The number that a list of hexadecimal digits writes; other characters count
as zero digits. -/
def hexNumber (digits : List Char) : Nat :=
  digits.foldl (fun n c => 16 * n + (hexValue? c).getD 0) 0

/-- The parts of a text between the occurrences of `sep`. -/
def splitChars (sep : Char) : List Char → List (List Char)
  | [] => [[]]
  | c :: rest =>
    if c = sep then [] :: splitChars sep rest
    else
      match splitChars sep rest with
      | [] => [[c]]
      | part :: parts => (c :: part) :: parts

/-- The blank-separated words of the lines of a table text. -/
def tableWords (lines : List String) : List (List Char) :=
  lines.flatMap fun line => (splitChars ' ' line.toList).filter (· ≠ [])

/-! ### Sets of code points -/

/-- A set of code points as disjoint closed ranges in increasing order: each
entry holds the first and the last code point of a range. -/
structure CodeRanges where
  table : CodeTable Nat

namespace CodeRanges

/-- Reads `41-5A AA`: ranges and single code points in hexadecimal. -/
def ofLines (lines : List String) : CodeRanges :=
  ⟨((tableWords lines).map fun word =>
    match splitChars '-' word with
    | [lo, hi] => (hexNumber lo, hexNumber hi)
    | _ => (hexNumber word, hexNumber word)).toArray⟩

/-- Membership of a code point. -/
def contains (ranges : CodeRanges) (n : Nat) : Bool :=
  match ranges.table.floor? n with
  | some (_, hi) => n ≤ hi
  | none => false

/-- Ranges in the order of their first code points, put together where they overlap or
touch; `lo` to `hi` is the range before them. -/
def joinFrom (lo hi : Nat) : List (Nat × Nat) → List (Nat × Nat)
  | [] => [(lo, hi)]
  | (first, last) :: rest =>
    if first ≤ hi + 1 then joinFrom lo (max hi last) rest else (lo, hi) :: joinFrom first last rest

/-- The set of ranges in any order. -/
def ofPairs (pairs : List (Nat × Nat)) : CodeRanges :=
  match pairs.mergeSort fun r s => r.1 ≤ s.1 with
  | [] => ⟨#[]⟩
  | (lo, hi) :: rest => ⟨(joinFrom lo hi rest).toArray⟩

/-- The largest code point. -/
def maxCode : Nat := 0x10FFFF

end CodeRanges

/-! ### Maps on code points -/

/-- One entry of a `CodeMap`: from its key on, every `step`-th code point up to
`last` is moved so that the key goes to `target`. -/
structure CodeShift where
  last : Nat
  step : Nat
  target : Nat

/-- A partial map on code points. -/
structure CodeMap where
  table : CodeTable CodeShift

namespace CodeMap

/-- Reads `41-5A:61 100-12E/2:101`. -/
def ofLines (lines : List String) : CodeMap :=
  ⟨((tableWords lines).map fun word =>
    let (source, target) := (word.takeWhile (· ≠ ':'), (word.dropWhile (· ≠ ':')).drop 1)
    let (range, step) := (source.takeWhile (· ≠ '/'), if '/' ∈ source then 2 else 1)
    match splitChars '-' range with
    | [lo, hi] => (hexNumber lo, ⟨hexNumber hi, step, hexNumber target⟩)
    | _ => (hexNumber range, ⟨hexNumber range, step, hexNumber target⟩)).toArray⟩

/-- The image of a code point, if it is moved. -/
def image? (map : CodeMap) (n : Nat) : Option Nat :=
  match map.table.floor? n with
  | some (first, shift) =>
    if n ≤ shift.last ∧ (n - first) % shift.step = 0 then some (shift.target + (n - first)) else none
  | none => none

/-- All code points that are moved, with their images. -/
def pairs (map : CodeMap) : List (Nat × Nat) :=
  map.table.toList.flatMap fun (first, shift) =>
    (List.range ((shift.last - first) / shift.step + 1)).map fun i =>
      (first + i * shift.step, shift.target + i * shift.step)

end CodeMap

/-! ### Expansions -/

/-- A partial map from code points to sequences of code points. -/
structure CodeExpansions where
  table : CodeTable (List Nat)

namespace CodeExpansions

/-- Reads `A8:20.308`: a code point, a colon, and its sequence. -/
def ofLines (lines : List String) : CodeExpansions :=
  ⟨((tableWords lines).map fun word =>
    (hexNumber (word.takeWhile (· ≠ ':')),
      (splitChars '.' ((word.dropWhile (· ≠ ':')).drop 1)).map hexNumber)).toArray⟩

/-- The sequence of a code point, if it has one. -/
def expansion? (expansions : CodeExpansions) (n : Nat) : Option (List Nat) :=
  match expansions.table.floor? n with
  | some (key, sequence) => if key = n then some sequence else none
  | none => none

end CodeExpansions

/-! ### Labellings -/

/-- A labelling of all code points: an entry labels the code points from its
key up to the next key. -/
structure CodeRuns where
  table : CodeTable String

namespace CodeRuns

/-- Reads `0.Cc 20.Zs`: the first code point of a run, a dot, its label. -/
def ofLines (lines : List String) : CodeRuns :=
  ⟨((tableWords lines).map fun word =>
    (hexNumber (word.takeWhile (· ≠ '.')), String.ofList ((word.dropWhile (· ≠ '.')).drop 1))).toArray⟩

/-- The label of a code point. -/
def label (runs : CodeRuns) (n : Nat) : String :=
  match runs.table.floor? n with
  | some (_, label) => label
  | none => ""

/-- The code points whose labels pass a test. -/
def rangesWhere (runs : CodeRuns) (p : String → Bool) : CodeRanges :=
  let entries := runs.table.toList
  let lasts := (entries.drop 1).map (·.1 - 1) ++ [CodeRanges.maxCode]
  .ofPairs ((entries.zip lasts).filterMap fun ((first, label), last) => if p label then some (first, last) else none)

end CodeRuns

end RecordRules
