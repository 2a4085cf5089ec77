/-
Removal of words that carry little meaning.

A word is found, without regard to case, with a space on both sides, and is
replaced by one space together with them. The search runs over the lower case of
the text; the place is then taken by its byte offset in the text itself.

* `NoiseWord.removeWord`: all occurrences of one word;
* `NoiseWord.strip`: all noise words.
-/
import RecordRules.Rule.Basic
import RecordRules.Text.Blank
import RecordRules.Text.Utf8

namespace RecordRules.NoiseWord

open Text

/-- The words that are removed, in the order of their removal. -/
def words : List String :=
  ["about", "after", "all", "also", "an", "and", "another", "any", "are", "as", "at", "be",
   "because", "been", "before", "being", "between", "both", "but", "by", "came", "can",
   "come", "could", "did", "do", "each", "for", "from", "get", "got", "has", "had", "he",
   "have", "her", "here", "him", "himself", "his", "how", "if", "in", "into", "is", "it",
   "its", "it's", "like", "make", "many", "me", "might", "more", "most", "much", "must", "my",
   "never", "now", "of", "on", "only", "or", "other", "our", "out", "over", "said", "same",
   "see", "should", "since", "some", "still", "such", "take", "than", "that", "the", "their",
   "them", "then", "there", "these", "they", "this", "those", "through", "to", "too", "under",
   "up", "very", "was", "way", "we", "well", "were", "what", "where", "which", "while", "who",
   "with", "would", "you", "your", "a", "b", "c", "d", "e", "f", "g", "h", "i", "j", "k", "l",
   "m", "n", "o", "p", "q", "r", "s", "t", "u", "v", "w", "x", "y", "z", "$", "1", "2", "3",
   "4", "5", "6", "7", "8", "9", "0", "_"]

/-- Two or more white-space characters in a row become one space. -/
def collapseBlanks : List Char → List Char
  | [] => []
  | [c] => [c]
  | c :: d :: rest =>
    if isBlank c && isBlank d then ' ' :: collapseBlanks ((d :: rest).dropWhile isBlank)
    else c :: collapseBlanks (d :: rest)
termination_by s => s.length
decreasing_by
  · have := (List.dropWhile_sublist (l := d :: rest) isBlank).length_le
    simp only [List.length_cons] at *
    omega
  · simp

/-- Replaces `count` bytes at a byte offset by one space. -/
def replaceBytes? (offset count : Nat) (s : List Char) : Option (List Char) := do
  let (front, rest) ← splitAtByte? offset s
  let (_, back) ← splitAtByte? count rest
  some (front ++ ' ' :: back)

theorem replaceBytes?_byteLength {offset count : Nat} {s t : List Char} (more : 1 < count)
    (h : replaceBytes? offset count s = some t) : byteLength t < byteLength s := by
  simp only [replaceBytes?, Option.bind_eq_bind, Option.bind_eq_some_iff, Option.some.injEq] at h
  obtain ⟨⟨front, rest⟩, h₁, ⟨middle, back⟩, h₂, rfl⟩ := h
  obtain ⟨rfl, -⟩ := eq_append_of_splitAtByte? h₁
  obtain ⟨eq, taken⟩ := eq_append_of_splitAtByte? h₂
  dsimp only at eq
  have space : (' ' : Char).utf8Size = 1 := rfl
  rw [eq, byteLength_append, byteLength_append, byteLength_append, byteLength_cons, space]
  dsimp only at *
  omega

/-- Removes all occurrences of a word, given with a space on both sides. Nothing
is removed from a text whose lower case has another number of bytes. -/
def removeWord (word : List Char) (s : List Char) : Except Fault (List Char) :=
  match splitOnFirst? word (lower s) with
  | none => .ok s
  | some (front, _) =>
    if byteLength (lower s) = byteLength s ∧ 1 < byteLength word then
      match _replaced : replaceBytes? (byteLength front) (byteLength word) s with
      | some t => removeWord word t
      | none => .error .insideCharacter
    else .ok s
termination_by byteLength s
decreasing_by
  have h : byteLength (lower s) = byteLength s ∧ 1 < byteLength word := by assumption
  exact replaceBytes?_byteLength h.2 _replaced

/-- The text without noise words, trimmed, with single spaces. -/
def strip (s : List Char) : Except Fault (List Char) := do
  let padded := ' ' :: (collapseBlanks s ++ [' '])
  let stripped ← words.foldlM (fun text word => removeWord (' ' :: (word.toList ++ [' '])) text) padded
  .ok (trim stripped)

end RecordRules.NoiseWord
