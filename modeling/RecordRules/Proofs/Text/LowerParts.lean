/-
The lower case of a part of a text.

A part has a lower case of its own, and another one where it stands in the text: a capital
sigma at one of its ends may be final in the part and not in the text, or the other way
round.

* `lowerWithin`: what a part becomes, by what stands around it; its length does not depend
  on that (`length_lowerWithin`);
* `lowerWithin_eq_iff`: the sigmas decide whether it becomes the same in two places;
* `meetsCased_append`: characters that are ignored are looked through;
* `lower_prefix_append_iff`, `lower_suffix_append_iff`: whether the lower case of a text
  begins, or ends, with the lower case of its part there.
-/
import RecordRules.Proofs.Text.LowerCase

namespace RecordRules.Text

variable {before before' after after' s t p u v : List Char} {c : Char}

/-! ### Final sigmas -/

/-- A character that is looked through in case decisions. -/
def isIgnored (c : Char) : Bool := caseIgnorableRanges.contains c.toNat

/-- Whether a capital sigma is final that has the characters `before` before it, in
reverse, and `after` behind it. -/
def isFinal (before after : List Char) : Bool := meetsCased before && !meetsCased after

lemma meetsCased_cons (c : Char) (s : List Char) :
    meetsCased (c :: s) = if isIgnored c then meetsCased s else casedRanges.contains c.toNat := by
  rw [meetsCased, List.dropWhile_cons, isIgnored]
  by_cases ignored : caseIgnorableRanges.contains c.toNat = true
  · rw [if_pos ignored, if_pos ignored, meetsCased]
  · rw [if_neg ignored, if_neg ignored]

/-- What stands behind a text is met only through a text that is ignored. -/
lemma meetsCased_append (s t : List Char) :
    meetsCased (s ++ t) = if s.all isIgnored then meetsCased t else meetsCased s := by
  induction s with
  | nil => rfl
  | cons c rest ih =>
    rw [List.cons_append, meetsCased_cons, meetsCased_cons, ih, List.all_cons]
    by_cases ignored : isIgnored c = true
    · simp [ignored]
    · simp [ignored]

lemma meetsCased_of_all (ignored : s.all isIgnored = true) : meetsCased s = false := by
  have looked := meetsCased_append s []
  rw [List.append_nil, if_pos ignored] at looked
  exact looked

/-- A text behind changes whether a sigma is final iff it brings a cased character, and
what stands between is ignored. -/
lemma isFinal_append_ne_iff (before v t : List Char) :
    isFinal before v ≠ isFinal before (v ++ t) ↔
      meetsCased before = true ∧ v.all isIgnored = true ∧ meetsCased t = true := by
  rw [isFinal, isFinal, meetsCased_append]
  by_cases ignored : v.all isIgnored = true
  · rw [if_pos ignored, meetsCased_of_all ignored]
    cases meetsCased before <;> cases meetsCased t <;> simp [ignored]
  · simp [ignored]

/-- A text before does so iff it brings a cased character, what stands between is ignored,
and there is no cased character behind. -/
lemma isFinal_append_left_ne_iff (u t v : List Char) :
    isFinal u v ≠ isFinal (u ++ t) v ↔
      u.all isIgnored = true ∧ meetsCased v = false ∧ meetsCased t = true := by
  rw [isFinal, isFinal, meetsCased_append]
  by_cases ignored : u.all isIgnored = true
  · rw [if_pos ignored, meetsCased_of_all ignored]
    cases meetsCased v <;> cases meetsCased t <;> simp [ignored]
  · simp [ignored]

/-! ### Parts -/

/-- The lower case of a part of a text that stands behind the characters `before`, which
are given in reverse, and before the characters `after`. -/
def lowerWithin (before after : List Char) : List Char → List Char
  | [] => []
  | c :: rest => lowerPiece before c (rest ++ after) ++ lowerWithin (c :: before) after rest

lemma lowerAfter_append (before s t : List Char) :
    lowerAfter before (s ++ t) = lowerWithin before t s ++ lowerAfter (s.reverse ++ before) t := by
  induction s generalizing before with
  | nil => rfl
  | cons c rest ih =>
    rw [List.cons_append, lowerAfter_cons, ih, lowerWithin, List.append_assoc, List.reverse_cons,
      List.append_assoc, List.singleton_append]

lemma lowerWithin_nil (before s : List Char) : lowerWithin before [] s = lowerAfter before s := by
  have whole := lowerAfter_append before s []
  rwa [lowerAfter, List.append_nil, List.append_nil, eq_comm] at whole

lemma lowerPiece_eq_iff :
    lowerPiece before c s = lowerPiece before' c t ↔ (c = 'Σ' → isFinal before s = isFinal before' t) := by
  rw [lowerPiece, lowerPiece, ← isFinal, ← isFinal]
  by_cases sigma : c = 'Σ'
  · rw [if_pos sigma, if_pos sigma]
    cases isFinal before s <;> cases isFinal before' t <;> simp [sigma]
  · simp [sigma]

lemma length_lowerPiece (before before' s t : List Char) (c : Char) :
    (lowerPiece before c s).length = (lowerPiece before' c t).length := by
  rw [lowerPiece, lowerPiece]
  split <;> rfl

/-- A part becomes as long wherever it stands. -/
lemma length_lowerWithin (before before' after after' s : List Char) :
    (lowerWithin before after s).length = (lowerWithin before' after' s).length := by
  induction s generalizing before before' with
  | nil => rfl
  | cons c rest ih =>
    rw [lowerWithin, lowerWithin, List.length_append, List.length_append, ih (c :: before) (c :: before'),
      length_lowerPiece before before' (rest ++ after) (rest ++ after')]

/-- A part becomes the same in two places iff each of its capital sigmas is final in both
or in none. -/
lemma lowerWithin_eq_iff :
    lowerWithin before after s = lowerWithin before' after' s ↔
      ∀ u v, s = u ++ 'Σ' :: v →
        isFinal (u.reverse ++ before) (v ++ after) = isFinal (u.reverse ++ before') (v ++ after') := by
  induction s generalizing before before' with
  | nil => exact iff_of_true rfl fun u v parts => absurd parts (by simp)
  | cons c rest ih =>
    have lengths := length_lowerPiece before before' (rest ++ after) (rest ++ after') c
    constructor
    · intro same u v parts
      obtain ⟨first, others⟩ := List.append_inj same lengths
      cases u with
      | nil =>
        obtain ⟨rfl, rfl⟩ := List.cons.inj parts
        exact lowerPiece_eq_iff.mp first rfl
      | cons d u =>
        obtain ⟨rfl, rfl⟩ := List.cons.inj parts
        simpa using ih.mp others u v rfl
    · intro finals
      have first : lowerPiece before c (rest ++ after) = lowerPiece before' c (rest ++ after') := by
        refine lowerPiece_eq_iff.mpr ?_
        rintro rfl
        exact finals [] rest rfl
      have others : lowerWithin (c :: before) after rest = lowerWithin (c :: before') after' rest := by
        refine ih.mpr ?_
        rintro u v rfl
        simpa using finals (c :: u) v rfl
      rw [lowerWithin, lowerWithin, first, others]

/-! ### Both ends of a text -/

/-- Apart from ignored characters, the text ends with a capital sigma that has a cased
character before it. -/
def EndsInSigma (s : List Char) : Prop :=
  ∃ u v, s = u ++ 'Σ' :: v ∧ meetsCased u.reverse = true ∧ v.all isIgnored = true

/-- Apart from ignored characters, the text begins with a capital sigma that has no cased
character behind it. -/
def BeginsWithSigma (s : List Char) : Prop :=
  ∃ u v, s = u ++ 'Σ' :: v ∧ u.all isIgnored = true ∧ meetsCased v = false

/-- **The lower case of a text begins with that of its front** unless the front ends in a
sigma, which is then final, and there is a cased character behind it in the text. -/
theorem lower_prefix_append_iff (p t : List Char) :
    lower p <+: lower (p ++ t) ↔ ¬ (EndsInSigma p ∧ meetsCased t = true) := by
  have parts := lowerAfter_append [] p t
  have lengths := length_lowerWithin [] [] [] t p
  have prefix_iff : lower p <+: lower (p ++ t) ↔ lowerWithin [] [] p = lowerWithin [] t p := by
    rw [lower, lower, parts, ← lowerWithin_nil]
    constructor
    · rintro ⟨rest, same⟩
      exact (List.append_inj same lengths).1
    · intro same
      rw [same]
      exact List.prefix_append _ _
  rw [prefix_iff, lowerWithin_eq_iff]
  simp only [List.append_nil]
  constructor
  · rintro finals ⟨⟨u, v, rfl, cased, ignored⟩, met⟩
    exact (isFinal_append_ne_iff u.reverse v t).mpr ⟨cased, ignored, met⟩ (finals u v rfl)
  · intro apart u v same
    by_contra differ
    obtain ⟨cased, ignored, met⟩ := (isFinal_append_ne_iff u.reverse v t).mp differ
    exact apart ⟨⟨u, v, same, cased, ignored⟩, met⟩

/-- **The lower case of a text ends with that of its back** unless the back begins with a
sigma, and there is a cased character before it in the text, behind which it is final. -/
theorem lower_suffix_append_iff (t p : List Char) :
    lower p <:+ lower (t ++ p) ↔ ¬ (BeginsWithSigma p ∧ meetsCased t.reverse = true) := by
  have parts := lowerAfter_append [] t p
  have suffix_iff : lower p <:+ lower (t ++ p) ↔ lowerWithin [] [] p = lowerWithin t.reverse [] p := by
    rw [lower, lower, parts, List.append_nil, ← lowerWithin_nil [] p, ← lowerWithin_nil t.reverse p]
    constructor
    · rintro ⟨rest, same⟩
      exact (List.append_inj' same (length_lowerWithin [] t.reverse [] [] p)).2
    · intro same
      rw [same]
      exact List.suffix_append _ _
  rw [suffix_iff, lowerWithin_eq_iff]
  simp only [List.append_nil]
  have reversed : ∀ u : List Char, u.reverse.all isIgnored = u.all isIgnored := fun _ => List.all_reverse
  constructor
  · rintro finals ⟨⟨u, v, rfl, ignored, uncased⟩, met⟩
    rw [← reversed] at ignored
    exact (isFinal_append_left_ne_iff u.reverse t.reverse v).mpr ⟨ignored, uncased, met⟩ (finals u v rfl)
  · intro apart u v same
    by_contra differ
    obtain ⟨ignored, uncased, met⟩ := (isFinal_append_left_ne_iff u.reverse t.reverse v).mp differ
    rw [reversed] at ignored
    exact apart ⟨⟨u, v, same, ignored, uncased⟩, met⟩

end RecordRules.Text
