/-
Texts by the bytes of their UTF-8 form, and searching in texts.

* `Text.byteLength`, `Text.utf8Bytes`;
* `Text.splitAtByte?`: the division of a text at a byte offset, which exists
  only at the boundary of a character;
* `Text.splitOnFirst?`, `Text.splitOnLast?`: the division at a separator.
-/

namespace RecordRules.Text

/-- The number of bytes of a text. -/
def byteLength (s : List Char) : Nat := s.foldr (fun c n => c.utf8Size + n) 0

/-- The bytes of a text. -/
def utf8Bytes (s : List Char) : List UInt8 := s.flatMap String.utf8EncodeChar

/-- The two parts of a text before and from a byte offset, if a character or
the end of the text begins there. -/
def splitAtByte? : Nat → List Char → Option (List Char × List Char)
  | 0, s => some ([], s)
  | _ + 1, [] => none
  | n + 1, c :: rest =>
    if c.utf8Size ≤ n + 1 then
      (splitAtByte? (n + 1 - c.utf8Size) rest).map fun (front, back) => (c :: front, back)
    else none

/-- The parts before and after the first occurrence of `needle`. -/
def splitOnFirst? (needle : List Char) : List Char → Option (List Char × List Char)
  | [] => if needle = [] then some ([], []) else none
  | c :: rest =>
    if needle.isPrefixOf (c :: rest) then some ([], (c :: rest).drop needle.length)
    else (splitOnFirst? needle rest).map fun (front, back) => (c :: front, back)

/-- The parts before and after the last occurrence of a character. -/
def splitOnLast? (sep : Char) (s : List Char) : Option (List Char × List Char) :=
  if sep ∈ s then
    some (((s.reverse.dropWhile (· ≠ sep)).drop 1).reverse, (s.reverse.takeWhile (· ≠ sep)).reverse)
  else none

theorem byteLength_cons (c : Char) (s : List Char) : byteLength (c :: s) = c.utf8Size + byteLength s := rfl

theorem byteLength_append (a b : List Char) : byteLength (a ++ b) = byteLength a + byteLength b := by
  induction a with
  | nil => simp [byteLength]
  | cons c rest ih => rw [List.cons_append, byteLength_cons, byteLength_cons, ih, Nat.add_assoc]

/-- Dividing a text keeps all of it, and the first part has the bytes asked for. -/
theorem eq_append_of_splitAtByte? {n : Nat} {s front back : List Char}
    (h : splitAtByte? n s = some (front, back)) : s = front ++ back ∧ byteLength front = n := by
  induction s generalizing n front with
  | nil =>
    cases n with
    | zero =>
      simp only [splitAtByte?, Option.some.injEq, Prod.mk.injEq] at h
      simp [← h.1, ← h.2, byteLength]
    | succ n => simp [splitAtByte?] at h
  | cons c rest ih =>
    cases n with
    | zero =>
      simp only [splitAtByte?, Option.some.injEq, Prod.mk.injEq] at h
      simp [← h.1, ← h.2, byteLength]
    | succ n =>
      rw [splitAtByte?] at h
      split at h
      · next fits =>
        obtain ⟨⟨front', back'⟩, h', eq⟩ := Option.map_eq_some_iff.1 h
        simp only [Prod.mk.injEq] at eq
        obtain ⟨rfl, rfl⟩ := eq
        obtain ⟨rfl, len⟩ := ih h'
        refine ⟨rfl, ?_⟩
        rw [byteLength_cons, len]
        omega
      · simp at h

end RecordRules.Text
