/-
One rule text read as sanitizations and as validations.

* `kept_sanitization`: of the same specs the same rules are kept, as
  sanitizations without their messages;
* `parse_sanitization`: the two readings of a text have the same fault, or the
  same rules up to their messages. A message is read for both kinds, so one that
  is never closed is a fault of a sanitization too;
* `parse_kinds`: this for the reading by characters and by bytes, and what holds of
  every rule that was read.
-/
import RecordRules.Proofs.Rule.Bytes
import RecordRules.Proofs.Rule.RoundTrip

namespace RecordRules.Rule

open Text RuleText

/-! ### Messages that are left out -/

/-- The kind decides about nothing but the message. -/
@[simp] lemma withoutMessage_forKind (kind : RuleKind) (rule : Rule) :
    (forKind kind rule).withoutMessage = rule.withoutMessage := by
  cases kind <;> rfl

/-- Of the same specs the same rules are kept. -/
lemma kept_sanitization (kind : RuleKind) (specs : List Rule) :
    kept .sanitization specs = (kept kind specs).map withoutMessage := by
  rw [kept, kept, List.map_map]
  refine List.map_congr_left fun rule _ => ?_
  calc forKind .sanitization rule
      = rule.withoutMessage := rfl
    _ = (forKind kind rule).withoutMessage := (withoutMessage_forKind kind rule).symm

/-- The reading as sanitizations is the reading as any kind without the messages. -/
lemma parse_sanitization (kind : RuleKind) (text : String) :
    parse .sanitization text = (parse kind text).map (·.map withoutMessage) := by
  cases read : readSpecs text.toList with
  | error e =>
    rw [parse_of_misread read, parse_of_misread read]
    rfl
  | ok specs =>
    by_cases none : specs = []
    · subst none
      rw [parse_of_no_specs read, parse_of_no_specs read]
      rfl
    · rw [parse_of_specs read none, parse_of_specs read none, kept_sanitization kind]
      rfl

/-- The bytes of a text are read alike for both kinds as well. -/
lemma parseBytes_sanitization (kind : RuleKind) (text : String) :
    parseBytes .sanitization text = (parseBytes kind text).map (·.map withoutMessage) := by
  rw [parseBytes_eq, parseBytes_eq, parse_sanitization kind]
  cases parse kind text <;> rfl

/-! ### Both readings -/

/-- **One text, two kinds.** A text is read as sanitizations with the fault that it
has as validations, at the same place, or with the same rules without their
messages. Every rule that is read, of either kind, has a name, which does not
begin with a slash; its arguments are trimmed and are not one empty text; and a
message that it has is not empty. -/
theorem parse_kinds (text : String) :
    (∀ fault, parse .sanitization text = .error fault ↔ parse .validation text = .error fault) ∧
      parse .sanitization text = (parse .validation text).map (·.map withoutMessage) ∧
      parseBytes .sanitization text = (parseBytes .validation text).map (·.map withoutMessage) ∧
      ∀ kind rules, parse kind text = .ok rules → ∀ rule ∈ rules,
        rule.name ≠ "" ∧ rule.name.toList.head? ≠ some '/' ∧
          (∀ a ∈ rule.arguments, trim a.toList = a.toList) ∧ rule.arguments ≠ [""] ∧
          ∀ message ∈ rule.message, message ≠ "" := by
  refine ⟨fun fault => ?_, parse_sanitization .validation text,
    parseBytes_sanitization .validation text, fun kind rules read rule mem => ?_⟩
  · rw [parse_sanitization .validation]
    cases parse .validation text with
    | error e => exact Iff.rfl
    | ok rules => exact ⟨nofun, nofun⟩
  · obtain ⟨legible, included⟩ := parse_legible read rule mem
    refine ⟨legible.name_ne, isExcluded_eq_false_iff.mp included, legible.trimmed,
      legible.arguments_ne, ?_⟩
    rintro _ found rfl
    exact legible.message_ne found

/-- An escaped comma, an empty argument, an excluded spec with a message and an empty
message; a message that is never closed is a fault of both kinds. -/
theorem parse_kinds_excluded :
    let text := "InList: a\\, , ,b ;'no'|/off;'x'|email;"
    let rules : List Rule := [⟨"inlist", ["a,", "", "b"], some "no"⟩, ⟨"email", [], none⟩]
    parse .validation text = .ok rules ∧ parse .sanitization text = .ok (rules.map withoutMessage) ∧
      (∀ rule ∈ rules, rule.name.toList.head? ≠ some '/' ∧ rule.arguments ≠ [""]) ∧
      parse .sanitization "trim|upper;'é" = .error ⟨"trim|upper;'é", 11, .unterminatedMessage⟩ := by
  intro text rules
  have read : parse .validation text = .ok rules := by decide +kernel
  have broken : parse .validation "trim|upper;'é" =
      .error ⟨"trim|upper;'é", 11, .unterminatedMessage⟩ := by decide +kernel
  obtain ⟨-, bare, -, every⟩ := parse_kinds text
  refine ⟨read, by rw [bare, read]; rfl, fun rule mem => ?_, ((parse_kinds _).1 _).mpr broken⟩
  obtain ⟨-, included, -, arguments_ne, -⟩ := every .validation rules read rule mem
  exact ⟨included, arguments_ne⟩

end RecordRules.Rule
