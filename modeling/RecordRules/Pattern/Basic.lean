/-
Patterns, that is regular expressions, and the texts they match.

* `Pattern`: the syntax tree; one character, an assertion about a place,
  sequence, choice and repetition;
* `Assertion.holds`: an assertion between two parts of a text;
* `Pattern.Matches`: a pattern leads from one place of a text to another.
-/
import RecordRules.Pattern.ClassSize

namespace RecordRules

/-- What may be asked of a place in a text. Word characters are those of a
class. -/
inductive Assertion where
  | textStart
  | textEnd
  | lineStart
  | lineEnd
  | lineStartCrlf
  | lineEndCrlf
  | wordBoundary (word : CharClass)
  | notWordBoundary (word : CharClass)
  | wordStart (word : CharClass)
  | wordEnd (word : CharClass)
  | wordStartHalf (word : CharClass)
  | wordEndHalf (word : CharClass)

/-- Whether an assertion holds between the character before a place and the
character after it. -/
def Assertion.holds (before after : Option Char) : Assertion → Bool
  | textStart => before.isNone
  | textEnd => after.isNone
  | lineStart => before.isNone || before == some '\n'
  | lineEnd => after.isNone || after == some '\n'
  | lineStartCrlf =>
    before.isNone || before == some '\n' || (before == some '\r' && after != some '\n')
  | lineEndCrlf =>
    after.isNone || after == some '\r' || (after == some '\n' && before != some '\r')
  | wordBoundary word => before.any word.has != after.any word.has
  | notWordBoundary word => before.any word.has == after.any word.has
  | wordStart word => !before.any word.has && after.any word.has
  | wordEnd word => before.any word.has && !after.any word.has
  | wordStartHalf word => !before.any word.has
  | wordEndHalf word => !after.any word.has

/-- A pattern. -/
inductive Pattern where
  | nothing
  | one (p : CharClass)
  | assert (assertion : Assertion)
  | seq (first second : Pattern)
  | alt (first second : Pattern)
  /-- At least `least` times, and at most `most` times if that is given. -/
  | repeat (inner : Pattern) (least : Nat) (most : Option Nat)

namespace Pattern

/-- A pattern leads from place `i` of a text to place `j`. -/
inductive Matches (text : List Char) : Pattern → Nat → Nat → Prop where
  | nothing (i : Nat) : Matches text .nothing i i
  | one {p : CharClass} {i : Nat} {c : Char} (found : text[i]? = some c) (member : p.has c = true) :
      Matches text (.one p) i (i + 1)
  | assert {assertion : Assertion} {i : Nat}
      (holds : assertion.holds (if i = 0 then none else text[i - 1]?) text[i]? = true) :
      Matches text (.assert assertion) i i
  | seq {a b : Pattern} {i j k : Nat} : Matches text a i j → Matches text b j k → Matches text (.seq a b) i k
  | altFirst {a b : Pattern} {i j : Nat} : Matches text a i j → Matches text (.alt a b) i j
  | altSecond {a b : Pattern} {i j : Nat} : Matches text b i j → Matches text (.alt a b) i j
  | repeatNone {a : Pattern} {most : Option Nat} {i : Nat} : Matches text (.repeat a 0 most) i i
  | repeatMore {a : Pattern} {least : Nat} {most : Option Nat} {i j k : Nat} :
      Matches text a i j → Matches text (.repeat a least most) j k →
      Matches text (.repeat a (least + 1) (most.map (· + 1))) i k
  | repeatOptional {a : Pattern} {most : Option Nat} {i j k : Nat} :
      Matches text a i j → Matches text (.repeat a 0 most) j k →
      Matches text (.repeat a 0 (most.map (· + 1))) i k

/-- The memory for a compiled pattern. A choice between going on and leaving off is a
state with two choices; bounded repetitions are written out, and rounds that may be left
out lead to one more state. -/
def size : Pattern → Nat
  | nothing => stateSize
  | one p => p.size
  | assert _ => stateSize
  | seq a b => a.size + b.size
  | alt a b => 2 * stateSize + 2 * choiceSize + a.size + b.size
  | .repeat a least most =>
    let round := a.size
    let choice := stateSize + 2 * choiceSize
    match most with
    | some n =>
      (if least = 0 then stateSize else least * round) +
        (if least < n then stateSize + (n - least) * (choice + round) else 0)
    | none => max least 1 * round + choice

/-- The largest size of a compiled pattern. -/
def maxSize : Nat := 10 * 1048576

end Pattern

end RecordRules
