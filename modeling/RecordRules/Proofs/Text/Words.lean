/-
Lower case goes word by word.

* `meetsCased_append_space`: a space ends the search for a cased character, so that
  nothing behind it, and nothing before it, decides about a capital sigma;
* `lower_append_space`: the lower case of a text with a space in it;
* `exists_of_lower_eq_append_space`: a space in the lower case is a space of the text;
* `divisions_at`: two divisions of a text at the same character;
* `growth`: the bytes that lower case adds to a text, a sum over its words.
-/
import RecordRules.Proofs.Text.LowerCase
import RecordRules.Text.Utf8

namespace RecordRules.Text

/-! ### Spaces and case -/

lemma caseIgnorableRanges_space : caseIgnorableRanges.contains ' '.toNat = false := by
  rw [caseIgnorableRanges, CodeRanges.ofLines]
  repeat rw [tableWords_cons]
  decide +kernel

lemma casedRanges_space : casedRanges.contains ' '.toNat = false := by
  rw [casedRanges, CodeRanges.ofLines]
  repeat rw [tableWords_cons]
  decide +kernel

/-- The search for a cased character ends at a space. -/
lemma meetsCased_append_space (s t : List Char) : meetsCased (s ++ ' ' :: t) = meetsCased s := by
  have stop : (' ' :: t).dropWhile (caseIgnorableRanges.contains ·.toNat) = ' ' :: t :=
    List.dropWhile_cons_of_neg (by rw [caseIgnorableRanges_space]; decide)
  rw [meetsCased, meetsCased, List.dropWhile_append, stop]
  cases s.dropWhile (caseIgnorableRanges.contains ·.toNat) with
  | nil => exact casedRanges_space
  | cons c rest => rfl

lemma lowerChar_space : lowerChar ' ' = [' '] := by decide

/-- What a character becomes does not depend on what stands behind a space. -/
lemma lowerPiece_append_space (before : List Char) (c : Char) (s t : List Char) :
    lowerPiece before c (s ++ ' ' :: t) = lowerPiece before c s := by
  rw [lowerPiece, lowerPiece, meetsCased_append_space]

/-- What stands before a space does not matter behind it. -/
lemma lowerAfter_append_space_left (near far s : List Char) :
    lowerAfter (near ++ ' ' :: far) s = lowerAfter near s := by
  induction s generalizing near with
  | nil => rfl
  | cons c rest ih =>
    rw [lowerAfter_cons, lowerAfter_cons, ← List.cons_append, ih, lowerPiece, lowerPiece,
      meetsCased_append_space]

lemma lowerAfter_append_space (before s t : List Char) :
    lowerAfter before (s ++ ' ' :: t) = lowerAfter before s ++ ' ' :: lower t := by
  induction s generalizing before with
  | nil =>
    rw [List.nil_append, lowerAfter_cons, lowerPiece, if_neg (by decide), lowerChar_space,
      ← List.nil_append (' ' :: before), lowerAfter_append_space_left]
    rfl
  | cons c rest ih =>
    rw [List.cons_append, lowerAfter_cons, lowerPiece_append_space, ih, lowerAfter_cons,
      List.append_assoc]

/-- **Lower case goes word by word.** -/
theorem lower_append_space (s t : List Char) :
    lower (s ++ ' ' :: t) = lower s ++ ' ' :: lower t := lowerAfter_append_space [] s t

/-- Lower case brings no space into a text. -/
lemma mem_of_space_mem_lowerAfter {before s : List Char} (h : ' ' ∈ lowerAfter before s) :
    ' ' ∈ s := by
  induction s generalizing before with
  | nil => cases h
  | cons c rest ih =>
    rw [lowerAfter_cons] at h
    rcases List.mem_append.mp h with piece | later
    · rcases lowerPiece_cases before c rest with ⟨same, -⟩ | settled
      · rw [same, List.mem_singleton] at piece
        exact piece ▸ List.mem_cons_self
      · exact absurd (settled ' ' piece).not_blank (by decide)
    · exact List.mem_cons_of_mem c (ih later)

/-- A text has a space iff its lower case has one. -/
lemma space_mem_lower_iff {s : List Char} : ' ' ∈ lower s ↔ ' ' ∈ s := by
  constructor
  · exact mem_of_space_mem_lowerAfter
  · intro mem
    obtain ⟨a, b, rfl⟩ := List.append_of_mem mem
    rw [lower_append_space]
    exact List.mem_append_right _ List.mem_cons_self

/-! ### Divisions -/

section

variable {α : Type} {c : α} {x y u v : List α}

/-- Two divisions of a text at a character are the same, or one of the places is
before the other. -/
lemma divisions_at (same : x ++ c :: y = u ++ c :: v) :
    (x = u ∧ y = v) ∨ (∃ m, u = x ++ c :: m ∧ y = m ++ c :: v) ∨
      ∃ m, x = u ++ c :: m ∧ v = m ++ c :: y := by
  rcases List.append_eq_append_iff.mp same with ⟨m, rfl, rest⟩ | ⟨m, rfl, rest⟩
  · cases m with
    | nil => exact .inl ⟨(List.append_nil x).symm, (List.cons.inj rest).2⟩
    | cons d m =>
      obtain ⟨rfl, rfl⟩ := List.cons.inj rest
      exact .inr (.inl ⟨m, rfl, rfl⟩)
  · cases m with
    | nil => exact .inl ⟨List.append_nil u, (List.cons.inj rest).2.symm⟩
    | cons d m =>
      obtain ⟨rfl, rfl⟩ := List.cons.inj rest
      exact .inr (.inr ⟨m, rfl, rfl⟩)

/-- A part without the character ends before the place of the other division or at it. -/
lemma divisions_of_not_mem (same : x ++ c :: y = u ++ c :: v) (outside : c ∉ x) :
    (x = u ∧ y = v) ∨ ∃ m, u = x ++ c :: m ∧ y = m ++ c :: v := by
  rcases divisions_at same with equal | before | ⟨m, rfl, -⟩
  · exact .inl equal
  · exact .inr before
  · exact absurd (List.mem_append_right u List.mem_cons_self) outside

/-- There is one division before and behind which the character does not stand. -/
lemma divisions_unique (same : x ++ c :: y = u ++ c :: v) (outside : c ∉ x) (outside' : c ∉ u) :
    x = u ∧ y = v := by
  rcases divisions_of_not_mem same outside with equal | ⟨m, rfl, -⟩
  · exact equal
  · exact absurd (List.mem_append_right x List.mem_cons_self) outside'

end

/-- A space in the lower case of a text is a space of the text. -/
lemma exists_of_lower_eq_append_space {s x y : List Char} (h : lower s = x ++ ' ' :: y) :
    ∃ a b, s = a ++ ' ' :: b ∧ lower a = x ∧ lower b = y := by
  -- the induction is on the text behind its first space
  induction length : s.length using Nat.strong_induction_on generalizing s x with
  | _ n ih =>
    have some_space : ' ' ∈ s := by
      rw [← space_mem_lower_iff, h]
      exact List.mem_append_right x List.mem_cons_self
    obtain ⟨a, b, rfl, first⟩ := List.eq_append_cons_of_mem some_space
    rw [← space_mem_lower_iff] at first
    rw [lower_append_space] at h
    rcases divisions_of_not_mem h first with ⟨rfl, rfl⟩ | ⟨m, rfl, later⟩
    · exact ⟨a, b, rfl, rfl, rfl⟩
    · have shorter : b.length < n := by
        rw [← length, List.length_append, List.length_cons]
        omega
      obtain ⟨a', b', rfl, rfl, rfl⟩ := ih b.length shorter later rfl
      exact ⟨a ++ ' ' :: a', b', by simp, lower_append_space a a', rfl⟩

/-! ### Bytes -/

/-- The bytes that lower case adds to a text, or takes from it. -/
def growth (s : List Char) : Int := (byteLength (lower s) : Int) - byteLength s

lemma growth_eq_zero_iff {s : List Char} : growth s = 0 ↔ byteLength (lower s) = byteLength s := by
  rw [growth]
  omega

/-- What is added to a text is added to its parts around a space. -/
lemma growth_append_space (s t : List Char) : growth (s ++ ' ' :: t) = growth s + growth t := by
  rw [growth, growth, growth, lower_append_space, byteLength_append, byteLength_append,
    byteLength_cons, byteLength_cons]
  omega

/-- A capital sigma has as many bytes as either small one, so that the bytes of a text
grow only where a single character does. -/
lemma byteLength_lowerPiece {before : List Char} {c : Char} {rest : List Char}
    (kept : c ≠ 'Σ' → byteLength (lowerChar c) = c.utf8Size) :
    byteLength (lowerPiece before c rest) = c.utf8Size := by
  rw [lowerPiece]
  split
  · next sigma =>
    rw [sigma]
    split <;> rfl
  · next other => exact kept other

/-- A text does not grow if none of its characters does. -/
lemma byteLength_lowerAfter {s : List Char} (before : List Char)
    (kept : ∀ c ∈ s, c ≠ 'Σ' → byteLength (lowerChar c) = c.utf8Size) :
    byteLength (lowerAfter before s) = byteLength s := by
  induction s generalizing before with
  | nil => rfl
  | cons c rest ih =>
    rw [lowerAfter_cons, byteLength_append, byteLength_cons,
      byteLength_lowerPiece (kept c List.mem_cons_self),
      ih (c :: before) fun d mem => kept d (List.mem_cons_of_mem c mem)]

/-- ASCII characters do not grow. -/
lemma byteLength_lowerChar_of_ascii {c : Char} (ascii : c.toNat < 128) :
    byteLength (lowerChar c) = c.utf8Size := by
  have all : ∀ k < 128, byteLength [(Char.ofNat k).toLower] = (Char.ofNat k).utf8Size := by decide
  rw [lowerChar, if_pos ascii]
  simpa using all c.toNat ascii

end RecordRules.Text
