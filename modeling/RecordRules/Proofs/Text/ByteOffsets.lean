/-
Texts divided at byte offsets and at other texts.

* `splitAtByte?_append`: a text can be divided between any two of its characters;
* `splitAtByte?_of_ascii`: an ASCII text is divided there as at characters;
* `isSome_splitAtByte?_cons`: whether it can be divided at an offset, by its characters;
* `eq_of_byteLength_eq`: two beginnings of a text with as many bytes are the same;
* `eq_of_splitOnFirst?`, `splitOnFirst?_append_ne_none`: a text is divided at another
  one iff that one is in it.
-/
import Mathlib.Tactic.Lemma
import RecordRules.Text.Utf8

namespace RecordRules.Text

lemma utf8Size_of_ascii {c : Char} (ascii : c.toNat < 128) : c.utf8Size = 1 := by
  rw [Char.utf8Size, if_pos]
  exact UInt32.le_iff_toNat_le.mpr (Nat.le_of_lt_succ ascii)

/-- An ASCII text has as many bytes as characters. -/
lemma byteLength_of_ascii {s : List Char} (ascii : ∀ c ∈ s, c.toNat < 128) : byteLength s = s.length := by
  induction s with
  | nil => rfl
  | cons c rest ih =>
    obtain ⟨first, others⟩ := List.forall_mem_cons.mp ascii
    rw [byteLength_cons, utf8Size_of_ascii first, ih others, List.length_cons, Nat.add_comm]

/-- A text can be divided between any two of its characters. -/
lemma splitAtByte?_append (s t : List Char) : splitAtByte? (byteLength s) (s ++ t) = some (s, t) := by
  induction s with
  | nil => rw [byteLength, List.foldr_nil, List.nil_append, splitAtByte?]
  | cons c rest ih =>
    obtain ⟨n, size⟩ := Nat.exists_eq_add_of_lt (Nat.add_pos_left (Char.utf8Size_pos c) (byteLength rest))
    have rest_size : n + 1 - c.utf8Size = byteLength rest := by omega
    rw [byteLength_cons, size, Nat.zero_add, List.cons_append, splitAtByte?, if_pos (by omega), rest_size, ih]
    rfl

/-- An ASCII text can be divided at every offset. -/
lemma splitAtByte?_of_ascii {n : Nat} {s : List Char} (ascii : ∀ c ∈ s, c.toNat < 128) (long : n ≤ s.length) :
    splitAtByte? n s = some (s.take n, s.drop n) := by
  have divided := splitAtByte?_append (s.take n) (s.drop n)
  have front_ascii : ∀ c ∈ s.take n, c.toNat < 128 := fun c mem => ascii c (List.mem_of_mem_take mem)
  rwa [List.take_append_drop, byteLength_of_ascii front_ascii, List.length_take_of_le long] at divided

/-- A text is divided behind its first character, or in what follows it. -/
lemma isSome_splitAtByte?_cons (n : Nat) (c : Char) (s : List Char) :
    (splitAtByte? (n + 1) (c :: s)).isSome =
      (decide (c.utf8Size ≤ n + 1) && (splitAtByte? (n + 1 - c.utf8Size) s).isSome) := by
  rw [splitAtByte?]
  split
  · next fits => rw [Option.isSome_map, decide_eq_true fits, Bool.true_and]
  · next wide => rw [decide_eq_false wide, Bool.false_and, Option.isSome_none]

/-- A text has one beginning with a number of bytes. -/
lemma eq_of_byteLength_eq {a b x y : List Char} (same : a ++ x = b ++ y)
    (bytes : byteLength a = byteLength b) : a = b := by
  have first := splitAtByte?_append a x
  rw [same, bytes, splitAtByte?_append] at first
  exact (Prod.mk.inj (Option.some.inj first)).1.symm

/-- What a text is divided at stands between the parts. -/
lemma eq_of_splitOnFirst? {needle s front after : List Char}
    (found : splitOnFirst? needle s = some (front, after)) : s = front ++ (needle ++ after) := by
  induction s generalizing front with
  | nil =>
    rw [splitOnFirst?] at found
    split at found
    · next empty =>
      cases found
      rw [empty]
      rfl
    · cases found
  | cons c rest ih =>
    rw [splitOnFirst?] at found
    split at found
    · next starts =>
      cases found
      obtain ⟨more, text⟩ := List.isPrefixOf_iff_prefix.mp starts
      rw [← text, List.drop_left]
      rfl
    · obtain ⟨⟨front', after'⟩, later, parts⟩ := Option.map_eq_some_iff.mp found
      cases parts
      rw [ih later, List.cons_append]

/-- A text is divided at every text that is in it. -/
lemma splitOnFirst?_append_ne_none (needle front after : List Char) :
    splitOnFirst? needle (front ++ (needle ++ after)) ≠ none := by
  induction front with
  | nil =>
    cases text : needle ++ after with
    | nil => simp_all [splitOnFirst?]
    | cons c rest =>
      have starts : needle.isPrefixOf (c :: rest) = true :=
        List.isPrefixOf_iff_prefix.mpr ⟨after, text⟩
      rw [List.nil_append, splitOnFirst?, if_pos starts]
      exact nofun
  | cons c rest ih =>
    rw [List.cons_append, splitOnFirst?]
    split
    · exact nofun
    · exact fun none => ih (Option.map_eq_none_iff.mp none)

end RecordRules.Text
