/-
The size of a class of characters in a compiled pattern.

A compiled pattern reads bytes. A class of ASCII characters is one state with a range
of bytes for each range of the class. Any other class is a tree of states: a range of
code points is divided into blocks whose bytes are independent of each other, and
blocks with the same first bytes share the states for them.

* `Utf8.blocks`: the blocks of a range, as ranges of bytes;
* `CharClass.size`: the memory for the states of a class.
-/
import RecordRules.Pattern.CharClass

namespace RecordRules

namespace Utf8

/-- The blocks of a range of numbers with a leading digit and `k` further ones in base 64:
ranges for each digit, independent of each other. -/
def digitBlocks : Nat → Nat → Nat → List (List (Nat × Nat))
  | 0, lo, hi => [[(lo, hi)]]
  | k + 1, lo, hi =>
    let block := Nat.pow 64 (k + 1)
    let low := lo / block
    let high := hi / block
    if low = high then (digitBlocks k (lo % block) (hi % block)).map ((low, low) :: ·)
    else
      let front := if lo % block = 0 then [] else (digitBlocks k (lo % block) (block - 1)).map ((low, low) :: ·)
      let back := if hi % block = block - 1 then [] else (digitBlocks k 0 (hi % block)).map ((high, high) :: ·)
      -- what is left is made of blocks in which all further digits may be any
      let first := if front = [] then low else low + 1
      let last := if back = [] then high else high - 1
      front ++ (if first ≤ last then [(first, last) :: List.replicate (k + 1) (0, 63)] else []) ++ back

/-- The code points that are written with the same number of bytes: the least and the
largest one, the number of bytes after the first, and the mark of the first. Surrogates
are not written at all. -/
def lengths : List (Nat × Nat × Nat × Nat) :=
  [(0, 0x7F, 0, 0), (0x80, 0x7FF, 1, 0xC0), (0x800, 0xD7FF, 2, 0xE0), (0xE000, 0xFFFF, 2, 0xE0),
    (0x10000, CodeRanges.maxCode, 3, 0xF0)]

/-- Adds the mark of the first byte. -/
def markFirst (mark : Nat) : List (Nat × Nat) → List (Nat × Nat)
  | [] => []
  | (lo, hi) :: rest => (mark + lo, mark + hi) :: rest

/-- The blocks of a range of code points, as ranges of bytes; bytes after the first stand
without their mark. -/
def blocks (lo hi : Nat) : List (List (Nat × Nat)) :=
  lengths.flatMap fun (least, largest, further, mark) =>
    let lo := max lo least
    let hi := min hi largest
    if lo ≤ hi then (digitBlocks further lo hi).map (markFirst mark) else []

/-- How far two blocks begin with the same ranges of bytes. -/
def sharedLength : List (Nat × Nat) → List (Nat × Nat) → Nat
  | r :: rest, s :: others => if r = s then sharedLength rest others + 1 else 0
  | _, _ => 0

/-- The number of states for blocks in order, each of which shares those for its first
bytes with the block before it. -/
def stateCount (before : List (Nat × Nat)) : List (List (Nat × Nat)) → Nat
  | [] => 0
  | block :: rest => block.length - sharedLength before block + stateCount block rest

end Utf8

/-- The memory for a state of a compiled pattern, in bytes. -/
def stateSize : Nat := 32

/-- The memory for a range of bytes that leads to a state. -/
def byteRangeSize : Nat := 8

/-- The memory for a choice of a state. -/
def choiceSize : Nat := 4

namespace CharClass

/-- The memory for ranges of characters in a compiled pattern. -/
def rangesSize (ranges : List (Nat × Nat)) : Nat :=
  if ranges.all fun (_, hi) => hi < 128 then 2 * stateSize + byteRangeSize * ranges.length
  else
    let blocks := ranges.flatMap fun (lo, hi) => Utf8.blocks lo hi
    2 * stateSize + choiceSize * blocks.length + stateSize * Utf8.stateCount [] blocks

/-- The memory for a class in a compiled pattern. A single character has a state for each
of its bytes, and a class without characters has one that leads nowhere. -/
def size (p : CharClass) : Nat :=
  match p.ranges with
  | [] => stateSize
  | [(lo, hi)] => if lo = hi then stateSize * (Char.ofNat lo).utf8Size else rangesSize [(lo, hi)]
  | ranges => rangesSize ranges

end CharClass

end RecordRules
