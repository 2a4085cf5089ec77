/-
Prefixes and suffixes with and without regard to case.

Without regard to case both texts are brought to lower case, each by itself. A capital
sigma becomes a final sigma at the end of a word, so that an affix that is cut inside a
word may get another sigma than the text has there.

* `Validator.check_startsWith_of_text`, `Validator.check_endsWith_of_text`: the two rules
  on a value with a text;
* `Validator.affix_relaxed_iff`: an affix that stands in the text is found without regard
  to case as well, unless it is cut at such a sigma.
-/
import RecordRules.Proofs.Text.LowerParts
import RecordRules.Proofs.Text.Words
import RecordRules.Validator.Basic

namespace RecordRules.Validator

variable {field : String} {record : Record} {value : Json} {s : List Char}

/-- The option with which case does not count. -/
def caseOption : String := "caseinsensitive"

lemma affixFits_plain (stands : List Char → List Char → Bool) (affix : String) (s : List Char) :
    affixFits stands [affix] s = stands affix.toList s := rfl

lemma affixFits_relaxed (stands : List Char → List Char → Bool) (affix : String) (s : List Char) :
    affixFits stands [affix, caseOption] s = stands (Text.lower affix.toList) (Text.lower s) := rfl

lemma check_startsWith_of_text (surroundings : Surroundings) (found : record.get? field = some value)
    (text : textOf? value = some s) (arguments : List String) :
    startsWith.check surroundings field record arguments = .ok (affixFits List.isPrefixOf arguments s) := by
  rw [check, found]
  exact congrArg Except.ok (onText_of_text text _)

lemma check_endsWith_of_text (surroundings : Surroundings) (found : record.get? field = some value)
    (text : textOf? value = some s) (arguments : List String) :
    endsWith.check surroundings field record arguments = .ok (affixFits List.isSuffixOf arguments s) := by
  rw [check, found]
  exact congrArg Except.ok (onText_of_text text _)

/-- **Affixes without regard to case.** A text begins with an affix iff it is the affix and
a rest. Then it begins with the affix without regard to case as well, unless the affix
ends in a sigma and the rest goes on with a cased character. In the same way it ends with
an affix without regard to case unless the affix begins with a sigma, with no cased
character behind it, and the text before it ends with one. -/
theorem affix_relaxed_iff (surroundings : Surroundings) {field : String} {record : Record} {value : Json}
    {s : List Char} (found : record.get? field = some value) (text : textOf? value = some s) (affix : String) :
    (startsWith.check surroundings field record [affix] = .ok true ↔ ∃ rest, s = affix.toList ++ rest) ∧
      (∀ rest, s = affix.toList ++ rest →
        ∃ relaxed : Bool, startsWith.check surroundings field record [affix, caseOption] = .ok relaxed ∧
          (relaxed = true ↔ ¬ (Text.EndsInSigma affix.toList ∧ Text.meetsCased rest = true))) ∧
      (endsWith.check surroundings field record [affix] = .ok true ↔ ∃ rest, s = rest ++ affix.toList) ∧
      ∀ rest, s = rest ++ affix.toList →
        ∃ relaxed : Bool, endsWith.check surroundings field record [affix, caseOption] = .ok relaxed ∧
          (relaxed = true ↔ ¬ (Text.BeginsWithSigma affix.toList ∧ Text.meetsCased rest.reverse = true)) := by
  refine ⟨?_, ?_, ?_, ?_⟩
  · rw [check_startsWith_of_text surroundings found text, Except.ok.injEq, affixFits_plain,
      List.isPrefixOf_iff_prefix]
    exact ⟨fun ⟨rest, same⟩ => ⟨rest, same.symm⟩, fun ⟨rest, same⟩ => ⟨rest, same.symm⟩⟩
  · rintro rest rfl
    refine ⟨_, check_startsWith_of_text surroundings found text _, ?_⟩
    rw [affixFits_relaxed, List.isPrefixOf_iff_prefix, Text.lower_prefix_append_iff]
  · rw [check_endsWith_of_text surroundings found text, Except.ok.injEq, affixFits_plain,
      List.isSuffixOf_iff_suffix]
    exact ⟨fun ⟨rest, same⟩ => ⟨rest, same.symm⟩, fun ⟨rest, same⟩ => ⟨rest, same.symm⟩⟩
  · rintro rest rfl
    refine ⟨_, check_endsWith_of_text surroundings found text _, ?_⟩
    rw [affixFits_relaxed, List.isSuffixOf_iff_suffix, Text.lower_suffix_append_iff]

/-- A word that ends in a sigma stands at both ends of a text, with a space between. -/
theorem affix_relaxed_iff_words :
    let record : Record := [("f", .string "ΑΣ ΑΣ")]
    textOf? (.string "ΑΣ ΑΣ") = some "ΑΣ ΑΣ".toList ∧
      startsWith.check .newYear "f" record ["ΑΣ", caseOption] = .ok true ∧
      endsWith.check .newYear "f" record ["ΑΣ", caseOption] = .ok true := by
  intro record
  have found : record.get? "f" = some (.string "ΑΣ ΑΣ") := rfl
  obtain ⟨-, begins, -, ends⟩ := affix_relaxed_iff .newYear found rfl "ΑΣ"
  have apart : ∀ t, Text.meetsCased (' ' :: t) = false := Text.meetsCased_append_space []
  obtain ⟨relaxed, answer, relaxed_iff⟩ := begins " ΑΣ".toList (by decide)
  obtain ⟨relaxed', answer', relaxed_iff'⟩ := ends "ΑΣ ".toList (by decide)
  rw [relaxed_iff.mpr fun cut => absurd (cut.2.symm.trans (apart _)) nofun] at answer
  rw [relaxed_iff'.mpr fun cut => absurd (cut.2.symm.trans (apart _)) nofun] at answer'
  exact ⟨rfl, answer, answer'⟩

/-- A Greek capital has case. -/
lemma meetsCased_alpha : Text.meetsCased ['Α'] = true := by
  have seen : Text.isIgnored 'Α' = false := by
    rw [Text.isIgnored, caseIgnorableRanges, CodeRanges.ofLines]
    repeat rw [Text.tableWords_cons]
    decide +kernel
  have cased : casedRanges.contains 'Α'.toNat = true := by
    rw [casedRanges, CodeRanges.ofLines]
    repeat rw [Text.tableWords_cons]
    decide +kernel
  rw [Text.meetsCased_cons, seen, cased]
  rfl

/-- An affix that is cut behind, or before, the sigma of a word stands in the word and is
not found without regard to case. -/
theorem not_affix_relaxed :
    let record : Record := [("f", .string "ΑΣΑ"), ("g", .string "ΑΣ")]
    (startsWith.check .newYear "f" record ["ΑΣ"] = .ok true ∧
        startsWith.check .newYear "f" record ["ΑΣ", caseOption] = .ok false ∧
        endsWith.check .newYear "g" record ["Σ"] = .ok true ∧
        endsWith.check .newYear "g" record ["Σ", caseOption] = .ok false) ∧
      ¬ ∀ (surroundings : Surroundings) (field : String) (record : Record) (value : Json) (s : List Char)
        (affix : String), record.get? field = some value → textOf? value = some s →
          startsWith.check surroundings field record [affix] = .ok true →
            startsWith.check surroundings field record [affix, caseOption] = .ok true := by
  intro record
  have found : record.get? "f" = some (.string "ΑΣΑ") := rfl
  have found' : record.get? "g" = some (.string "ΑΣ") := rfl
  have text : textOf? (.string "ΑΣΑ") = some "ΑΣΑ".toList := rfl
  have begins : startsWith.check .newYear "f" record ["ΑΣ"] = .ok true := by
    rw [check_startsWith_of_text .newYear found text]
    decide
  have ends : endsWith.check .newYear "g" record ["Σ"] = .ok true := by
    rw [check_endsWith_of_text .newYear found' rfl]
    decide
  have missed : startsWith.check .newYear "f" record ["ΑΣ", caseOption] = .ok false := by
    have cut : Text.EndsInSigma "ΑΣ".toList := ⟨['Α'], [], rfl, meetsCased_alpha, rfl⟩
    have parts : "ΑΣΑ".toList = "ΑΣ".toList ++ ['Α'] := by decide
    rw [check_startsWith_of_text .newYear found text, affixFits_relaxed, Except.ok.injEq, parts,
      ← Bool.not_eq_true, List.isPrefixOf_iff_prefix, Text.lower_prefix_append_iff]
    exact fun apart => apart ⟨cut, meetsCased_alpha⟩
  have missed' : endsWith.check .newYear "g" record ["Σ", caseOption] = .ok false := by
    have cut : Text.BeginsWithSigma "Σ".toList := ⟨[], [], rfl, rfl, rfl⟩
    have parts : "ΑΣ".toList = ['Α'] ++ "Σ".toList := by decide
    rw [check_endsWith_of_text .newYear found' rfl, affixFits_relaxed, Except.ok.injEq, parts,
      ← Bool.not_eq_true, List.isSuffixOf_iff_suffix, Text.lower_suffix_append_iff]
    exact fun apart => apart ⟨cut, meetsCased_alpha⟩
  refine ⟨⟨begins, missed, ends, missed'⟩, fun all => ?_⟩
  have passed := all .newYear "f" record _ _ "ΑΣ" found text begins
  rw [missed] at passed
  cases passed

end RecordRules.Validator
