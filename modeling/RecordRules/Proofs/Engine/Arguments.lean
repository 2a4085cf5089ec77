/-
The arguments with which rules run.

* `Synonym.IsEntry`: the tokens that stand for another token; all others stand for
  themselves (`Synonym.resolve_eq_self_iff`);
* `Engine.applyRule_of_named`, `Engine.judge_of_named`: what the engine does with a
  rule that is named like one of those that are always there;
* `Engine.parse_runs_resolved`: the rules of a text run on their arguments with
  synonyms resolved, and so on the arguments as written unless one is an entry.
-/
import RecordRules.Proofs.Engine.Validating
import RecordRules.Proofs.Registry.Resolving
import RecordRules.Proofs.Rule.RoundTrip

namespace RecordRules

namespace Synonym

/-! ### Tokens that stand for another one -/

/-- The tokens of the table: other names of rules, and flags. -/
def entries : List String := ruleNames.map Prod.fst ++ flagNames

/-- A token is in the table, whatever its case. -/
def IsEntry (token : String) : Prop := Text.lowerString token ∈ entries

instance (token : String) : Decidable (IsEntry token) :=
  inferInstanceAs (Decidable (Text.lowerString token ∈ entries))

lemma lookup?_eq_none_iff {token : String} : lookup? token = none ↔ token ∉ entries := by
  have unnamed_iff : ruleNames.lookup token = none ↔ token ∉ ruleNames.map Prod.fst := by
    simp only [List.lookup_eq_none_iff, bne_iff_ne, ne_eq, List.mem_map, not_exists, not_and]
    exact ⟨fun h entry mem same => h entry mem same.symm, fun h entry mem same => h entry mem same.symm⟩
  rw [lookup?, entries, List.mem_append, not_or, ← unnamed_iff]
  cases ruleNames.lookup token <;> simp

/-- What an entry stands for is in lower case and no entry itself. -/
lemma lookup?_settled : ∀ token ∈ entries, ∀ other ∈ lookup? token,
    Text.lowerString other = other ∧ ¬ IsEntry other := by
  decide +kernel

/-- Exactly the tokens that are not in the table stand for themselves. -/
theorem resolve_eq_self_iff (token : String) : resolve token = token ↔ ¬ IsEntry token := by
  rw [resolve, IsEntry]
  constructor
  · intro same entry
    cases found : lookup? (Text.lowerString token) with
    | none => exact lookup?_eq_none_iff.mp found entry
    | some other =>
      rw [found, Option.getD_some] at same
      exact (lookup?_settled _ entry other found).2 (same ▸ entry)
  · intro absent
    rw [lookup?_eq_none_iff.mpr absent, Option.getD_none]

/-- Arguments stay as they are written iff none of them is in the table. -/
lemma map_resolve_eq_self_iff {arguments : List String} :
    arguments.map resolve = arguments ↔ ∀ t ∈ arguments, ¬ IsEntry t := by
  calc arguments.map resolve = arguments
      ↔ arguments.map resolve = arguments.map id := by rw [List.map_id]
    _ ↔ ∀ t ∈ arguments, resolve t = t := List.map_inj_left
    _ ↔ ∀ t ∈ arguments, ¬ IsEntry t := by simp only [resolve_eq_self_iff]

end Synonym

namespace Engine

variable {registry : Registry} {rule : Rule}

/-! ### Rules that are always there -/

/-- A rule that is named like a sanitizer that is always there applies it to the
leaves. -/
lemma applyRule_of_named {sanitizer : Sanitizer} (named : Text.lowerString rule.name = sanitizer.name)
    (value : Json) :
    applyRule registry value rule =
      value.mapLeaves fun leaf => sanitizer.apply leaf (Synonym.resolveAll rule.arguments) := by
  rw [applyRule, Registry.sanitizer_of_named named]
  rfl

/-- What a validator that is always there says about a field, by its arguments:
nothing about a blank value, unless it checks for presence. -/
def verdictOf (surroundings : Surroundings) (record : Record) (id label : String) (rule : Rule)
    (validator : Validator) (arguments : List String) : Except Fault (Option Failure) :=
  if Failure.isBlank (record.get? id) = true → validator.checksPresence = true then
    (validator.check surroundings id record arguments).map fun accepted =>
      if accepted then none else some (Failure.ofRule id label (record.get? id) validator.name rule none)
  else .ok none

lemma verdictOf_of_check {surroundings : Surroundings} {record : Record} {id label : String}
    {validator : Validator} {arguments : List String} {accepted : Bool} (present : Failure.isBlank (record.get? id) = false)
    (checked : validator.check surroundings id record arguments = .ok accepted) :
    verdictOf surroundings record id label rule validator arguments =
      .ok (if accepted then none else
        some (Failure.ofRule id label (record.get? id) validator.name rule none)) := by
  rw [verdictOf, present, if_pos nofun, checked]
  rfl

/-- A rule that is named like a validator that is always there asks it. -/
lemma judge_of_named {validator : Validator} (named : Text.lowerString rule.name = validator.name)
    (surroundings : Surroundings) (record : Record) (id label : String) :
    judge surroundings registry record id label rule =
      verdictOf surroundings record id label rule validator (Synonym.resolveAll rule.arguments) := by
  have found : (ofRegistry registry).registry.validator? rule.name rule.arguments = _ :=
    Registry.validator?_of_named named
  exact judge_of_found found

/-! ### Rules of a text -/

/-- A text that is trimmed and in lower case is listed iff it is an argument. -/
lemma isListed_of_settled {t : String} (trimmed : Text.trim t.toList = t.toList) (lower : Text.lowerString t = t)
    (arguments : List String) : Validator.isListed arguments t.toList = decide (t ∈ arguments) := by
  have itself : String.ofList (Text.lower t.toList) = t := lower
  rw [Validator.isListed, trimmed, itself, List.contains_eq_mem]

/-- The only argument of a rule that was read is not blank. -/
lemma not_isAllBlank_of_only (legible : rule.Legible) {t : String} (only : rule.arguments = [t]) :
    Text.isAllBlank t.toList = false := by
  rw [← Bool.not_eq_true, Text.isAllBlank_iff_trim, legible.trimmed t (by simp [only]), String.toList_eq_nil_iff]
  rintro rfl
  exact legible.arguments_ne only

/-- **Rules run on their arguments with synonyms resolved.** So runs every rule that
was read from a text and is named like one of those that are always there; an
argument is used as it is written iff it is not in the table of synonyms. Under a
default, a blank leaf becomes what the first argument stands for. A text that is the
only argument of a list, and is in lower case, is in the list iff it stands for
itself. -/
theorem parse_runs_resolved {kind : RuleKind} {text : String} {rules : List Rule}
    (read : Rule.parse kind text = .ok rules) (registry : Registry) :
    ∀ rule ∈ rules,
      (∀ sanitizer : Sanitizer, rule.name = sanitizer.name → ∀ value,
        applyRule registry value rule =
          value.mapLeaves fun leaf => sanitizer.apply leaf (rule.arguments.map Synonym.resolve)) ∧
      (∀ validator : Validator, rule.name = validator.name → ∀ surroundings record id label,
        judge surroundings registry record id label rule =
          verdictOf surroundings record id label rule validator (rule.arguments.map Synonym.resolve)) ∧
      (rule.arguments.map Synonym.resolve = rule.arguments ↔ ∀ t ∈ rule.arguments, ¬ Synonym.IsEntry t) ∧
      (∀ t, rule.name = Sanitizer.default.name → rule.arguments.head? = some t →
        ∀ leaf, Sanitizer.isBlankLeaf leaf = true →
          applyRule registry leaf rule = .ok (.string (Synonym.resolve t))) ∧
      ∀ t, rule.arguments = [t] → Text.lowerString t = t →
        ∀ surroundings record id label, record.get? id = some (.string t) →
          (rule.name = Validator.inList.name →
            judge surroundings registry record id label rule =
              .ok (if Synonym.IsEntry t then
                some (Failure.ofRule id label (some (.string t)) Validator.inList.name rule none) else none)) ∧
          (rule.name = Validator.notInList.name →
            judge surroundings registry record id label rule =
              .ok (if Synonym.IsEntry t then none else
                some (Failure.ofRule id label (some (.string t)) Validator.notInList.name rule none))) := by
  intro rule mem
  have legible := (Rule.parse_legible read rule mem).1
  have sanitizes : ∀ sanitizer : Sanitizer, rule.name = sanitizer.name → ∀ value,
      applyRule registry value rule =
        value.mapLeaves fun leaf => sanitizer.apply leaf (rule.arguments.map Synonym.resolve) :=
    fun sanitizer named => applyRule_of_named (legible.name_lower.trans named)
  have judges : ∀ validator : Validator, rule.name = validator.name → ∀ surroundings record id label,
      judge surroundings registry record id label rule =
        verdictOf surroundings record id label rule validator (rule.arguments.map Synonym.resolve) :=
    fun validator named => judge_of_named (legible.name_lower.trans named)
  refine ⟨sanitizes, judges, Synonym.map_resolve_eq_self_iff, ?_, ?_⟩
  · intro t named first leaf blank
    obtain ⟨rest, arguments⟩ := List.head?_eq_some_iff.mp first
    have filled : Sanitizer.default.apply leaf (rule.arguments.map Synonym.resolve) =
        .ok (.string (Synonym.resolve t)) := by
      rw [arguments, List.map_cons, Sanitizer.apply, Sanitizer.applyDefault, if_pos blank]
    rw [sanitizes _ named, ← filled]
    cases leaf with
    | null | string => rfl
    | bool | number | array | object => cases blank
  · intro t only lower surroundings record id label present
    have trimmed : Text.trim t.toList = t.toList := legible.trimmed t (by simp [only])
    have some_text : Failure.isBlank (record.get? id) = false := by
      rw [present]
      exact not_isAllBlank_of_only legible only
    -- the text is compared in lower case with what the argument stands for
    have listed_iff : t ∈ rule.arguments.map Synonym.resolve ↔ ¬ Synonym.IsEntry t := by
      rw [only, List.map_singleton, List.mem_singleton, eq_comm, Synonym.resolve_eq_self_iff]
    have listed : Validator.isListed (rule.arguments.map Synonym.resolve) t.toList =
        !decide (Synonym.IsEntry t) := by
      rw [isListed_of_settled trimmed lower, ← decide_not]
      exact decide_eq_decide.mpr listed_iff
    constructor
    · intro named
      have checked : Validator.inList.check surroundings id record (rule.arguments.map Synonym.resolve) =
          .ok (!decide (Synonym.IsEntry t)) := by
        rw [← listed, Validator.check, present]
        rfl
      rw [judges _ named, verdictOf_of_check some_text checked, present]
      by_cases entry : Synonym.IsEntry t <;> simp [entry]
    · intro named
      have checked : Validator.notInList.check surroundings id record (rule.arguments.map Synonym.resolve) =
          .ok (decide (Synonym.IsEntry t)) := by
        rw [← Bool.not_not (decide _), ← listed, Validator.check, present]
        rfl
      rw [judges _ named, verdictOf_of_check some_text checked, present]
      by_cases entry : Synonym.IsEntry t <;> simp [entry]

/-- A list of one argument that is written as it is, and one that is not; both hold
or lack the text that they are written with. -/
theorem parse_runs_resolved_list :
    let text := "inlist:apple|inlist:int|notinlist:int"
    let rules : List Rule := [⟨"inlist", ["apple"], none⟩, ⟨"inlist", ["int"], none⟩, ⟨"notinlist", ["int"], none⟩]
    Rule.parse .validation text = .ok rules ∧
      judge .newYear .initial [("fruit", .string "apple")] "fruit" "Fruit" rules[0] = .ok none ∧
      (∃ failure, judge .newYear .initial [("type", .string "int")] "type" "Type" rules[1] =
        .ok (some failure)) ∧
      judge .newYear .initial [("type", .string "int")] "type" "Type" rules[2] = .ok none := by
  intro text rules
  have read : Rule.parse .validation text = .ok rules := by decide +kernel
  have runs := parse_runs_resolved read .initial
  obtain ⟨-, -, -, -, apple⟩ := runs rules[0] (by simp [rules])
  obtain ⟨-, -, -, -, int⟩ := runs rules[1] (by simp [rules])
  obtain ⟨-, -, -, -, no_int⟩ := runs rules[2] (by simp [rules])
  have free : ¬ Synonym.IsEntry "apple" := by decide
  have entry : Synonym.IsEntry "int" := by decide
  have accepted :=
    (apple "apple" rfl (by decide) .newYear [("fruit", .string "apple")] "fruit" "Fruit" rfl).1 rfl
  have refused := (int "int" rfl (by decide) .newYear [("type", .string "int")] "type" "Type" rfl).1 rfl
  have admitted := (no_int "int" rfl (by decide) .newYear [("type", .string "int")] "type" "Type" rfl).2 rfl
  rw [if_neg free] at accepted
  rw [if_pos entry] at refused admitted
  exact ⟨read, accepted, ⟨_, refused⟩, admitted⟩

/-- Not every default is put in as it is written. -/
theorem not_parse_runs_written :
    ¬ ∀ (text : String) (rules : List Rule), Rule.parse .sanitization text = .ok rules → ∀ registry : Registry,
      ∀ rule ∈ rules, ∀ t, rule.name = Sanitizer.default.name → rule.arguments.head? = some t →
        ∀ leaf, Sanitizer.isBlankLeaf leaf = true → applyRule registry leaf rule = .ok (.string t) := by
  intro written
  have read : Rule.parse .sanitization "default:int" = .ok [⟨"default", ["int"], none⟩] := by decide +kernel
  have kept := written _ _ read .initial _ (List.mem_singleton_self _) "int" rfl rfl .null rfl
  have replaced : applyRule .initial .null ⟨"default", ["int"], none⟩ = .ok (.string "integer") := rfl
  rw [replaced] at kept
  injection kept with same
  injection same with same
  exact absurd same (by decide)

end Engine

end RecordRules
