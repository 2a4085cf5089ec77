/-
Matching by sets of places.

A set of places of a text is a natural number, read as its binary digits. A
pattern takes the set of places where it may begin to the set of places where it
may end; this is linear in the text for every pattern.

* `Steps.ofPattern`: a pattern prepared for a text;
* `Steps.run`: the places that can be reached;
* `Pattern.isFoundIn`: whether a pattern matches some part of a text.
-/
import RecordRules.Pattern.Basic

namespace RecordRules

/-- A pattern prepared for one text: tests are replaced by the sets of places
that pass them. -/
inductive Steps where
  /-- Stay where the set allows it. -/
  | stay (places : Nat)
  /-- Go one place further where the set allows it. -/
  | advance (places : Nat)
  | seq (first second : Steps)
  | alt (first second : Steps)
  | repeat (inner : Steps) (least : Nat) (most : Nat)

namespace Steps

/-- The set of the places below `n` that pass a test. -/
def placesWhere (test : Nat → Bool) (n : Nat) : Nat :=
  n.fold (fun i _ places => if test i then places ||| (1 <<< i) else places) 0

/-- Prepares a pattern. An unbounded repetition needs no more rounds than the
text has places, once its least number of rounds is done. -/
def ofPattern (text : Array Char) : Pattern → Steps
  | .nothing => stay (Nat.pow 2 (text.size + 1) - 1)
  | .one p => advance (placesWhere (fun i => text[i]?.any p.has) text.size)
  | .assert assertion =>
    stay (placesWhere (fun i => assertion.holds (if i = 0 then none else text[i - 1]?) text[i]?) (text.size + 1))
  | .seq a b => seq (ofPattern text a) (ofPattern text b)
  | .alt a b => alt (ofPattern text a) (ofPattern text b)
  | .repeat a least most =>
    .repeat (ofPattern text a) least (match most with
      | some n => n - least
      | none => text.size + 1)

/-- Applies a function to a set `n` times, or until the set is empty. -/
def iterate (f : Nat → Nat) : Nat → Nat → Nat
  | 0, places => places
  | n + 1, places => if places = 0 then 0 else iterate f n (f places)

/-- Collects what is reached in at most `n` rounds. Only places that are new in
a round are followed in the next one. -/
def collect (f : Nat → Nat) : Nat → Nat → Nat → Nat
  | 0, reached, _ => reached
  | n + 1, reached, fresh =>
    let next := f fresh
    let new := next ^^^ (next &&& reached)
    if new = 0 then reached else collect f n (reached ||| new) new

/-- The places where a pattern may end if it begins in a set of places. -/
def run : Steps → Nat → Nat
  | stay allowed, places => places &&& allowed
  | advance allowed, places => (places &&& allowed) <<< 1
  | seq a b, places => b.run (a.run places)
  | alt a b, places => a.run places ||| b.run places
  | .repeat a least most, places =>
    let start := iterate a.run least places
    collect a.run most start start

end Steps

/-- Whether a pattern matches some part of a text. -/
def Pattern.isFoundIn (pattern : Pattern) (text : List Char) : Bool :=
  let text := text.toArray
  (Steps.ofPattern text pattern).run (Nat.pow 2 (text.size + 1) - 1) != 0

end RecordRules
