/-
Fields without a value.

The engine passes over the rules of an absent or blank field, but for the two that ask for
presence; the one that requires a value has a test of its own for that.

* `Validator.isPresent_eq`: the two tests are the same;
* `Registry.findValidator?_cases`: a rule that is always there is found under its own name,
  and no custom rule under such a name;
* `Engine.isBlank_of_required`, `Engine.presence_of_isBlank`: what is recorded for a field
  says whether it has a value;
* `Engine.failuresVia`: a validation by any way to call validators;
* `Engine.required_apart`: a field that fails as required fails by no rule that looks at
  its value, and no custom validator is called on it.
-/
import RecordRules.Proofs.Engine.Showing
import RecordRules.Proofs.Registry.Resolving

namespace RecordRules

namespace Validator

/-- The test for presence and the test for blank values decide the same. -/
lemma isPresent_eq (value : Option Json) : isPresent value = !Failure.isBlank value := by
  rcases value with _ | (_ | _ | _ | s | items | members)
  · rfl
  · rfl
  · rfl
  · rfl
  · rfl
  · rfl
  · rfl

lemma check_required (surroundings : Surroundings) (id : String) (record : Record) (arguments : List String) :
    required.check surroundings id record arguments = .ok (!Failure.isBlank (record.get? id)) := by
  rw [check, isPresent_eq]

lemma name_of_named? {name : String} {validator : Validator} (named : named? name = some validator) :
    validator.name = name := by
  simpa using List.find?_some named

lemma name_inj {one two : Validator} (same : one.name = two.name) : one = two := by
  have named := one.named?_name
  rw [same, two.named?_name] at named
  exact (Option.some.inj named).symm

/-- Two rules ask for presence. -/
lemma checksPresence_iff (validator : Validator) :
    validator.checksPresence = true ↔ validator.name = required.name ∨ validator.name = requiredFile.name := by
  constructor
  · cases validator with
    | required => exact fun _ => .inl rfl
    | requiredFile => exact fun _ => .inr rfl
    | _ => exact nofun
  · rintro (same | same)
    · rw [name_inj same]
      rfl
    · rw [name_inj same]
      rfl

end Validator

namespace Registry

variable {registry : Registry} {name canonical : String}

/-- A name stands for a rule that is always there, under its own name, or for a custom
rule, under a name that none of those has. -/
lemma findValidator?_cases {rule : ValidatorRule} (found : registry.findValidator? name = some (canonical, rule)) :
    (∃ validator, rule = .builtin validator ∧ canonical = validator.name) ∨
      ∃ custom, rule = .custom custom ∧ Validator.named? canonical = none := by
  obtain ⟨-, ⟨validator, same, named⟩ | ⟨custom, same, free, -⟩⟩ := of_findValidator? found
  · exact .inl ⟨validator, same, (Validator.name_of_named? named).symm⟩
  · exact .inr ⟨custom, same, free⟩

/-- The rules that ask for presence are those of two names, whatever the registry. -/
lemma checksPresence_iff {written : String} {arguments : List String} {resolved : Resolved ValidatorRule}
    (found : registry.validator? written arguments = some resolved) :
    resolved.rule.checksPresence = true ↔
      resolved.name = Validator.required.name ∨ resolved.name = Validator.requiredFile.name := by
  obtain ⟨⟨canonical, rule⟩, entry, rfl⟩ := Option.map_eq_some_iff.mp found
  rcases findValidator?_cases entry with ⟨validator, rfl, rfl⟩ | ⟨custom, rfl, free⟩
  · exact validator.checksPresence_iff
  · refine ⟨nofun, ?_⟩
    have taken : ∀ validator : Validator, canonical ≠ validator.name := by
      rintro validator rfl
      rw [validator.named?_name] at free
      cases free
    rintro (same | same)
    · exact absurd same (taken _)
    · exact absurd same (taken _)

lemma rule_of_name_required {written : String} {arguments : List String} {resolved : Resolved ValidatorRule}
    (found : registry.validator? written arguments = some resolved)
    (named : resolved.name = Validator.required.name) : resolved.rule = .builtin .required := by
  obtain ⟨⟨canonical, rule⟩, entry, rfl⟩ := Option.map_eq_some_iff.mp found
  rcases findValidator?_cases entry with ⟨validator, rfl, rfl⟩ | ⟨custom, rfl, free⟩
  · rw [Validator.name_inj named]
  · have named : canonical = Validator.required.name := named
    rw [named, Validator.named?_name] at free
    cases free

end Registry

namespace Engine

variable {surroundings : Surroundings} {engine : Engine} {record : Record} {failure : Failure}
  {failures : List Failure}

/-! ### What a failure says about its field -/

/-- A failure by a known rule comes from a call of it on the field. -/
lemma exists_called_of_mem (validated : failuresOf surroundings engine record = .ok failures)
    (mem : failure ∈ failures) (kind : failure.kind = .ruleFailed) :
    ∃ written arguments resolved, engine.registry.validator? written arguments = some resolved ∧
      failure.ruleName = resolved.name ∧
      (Failure.isBlank (record.get? failure.field) = true → resolved.rule.checksPresence = true) ∧
      resolved.check surroundings failure.field record = .ok false := by
  obtain ⟨id, field, rule, -, -, judged⟩ := exists_judge_of_mem validated mem
  rcases judge_eq_some_iff.mp judged with ⟨-, rfl⟩ | ⟨resolved, found, called, refused, rfl⟩
  · cases kind
  · exact ⟨rule.name, rule.arguments, resolved, found, rfl, called, refused⟩

/-- A field that fails as required is blank. -/
lemma isBlank_of_required (validated : failuresOf surroundings engine record = .ok failures)
    (mem : failure ∈ failures) (kind : failure.kind = .ruleFailed)
    (named : failure.ruleName = Validator.required.name) :
    Failure.isBlank (record.get? failure.field) = true := by
  obtain ⟨written, arguments, resolved, found, name, -, refused⟩ := exists_called_of_mem validated mem kind
  have rule := Registry.rule_of_name_required found (name.symm.trans named)
  have refused : Validator.required.check surroundings failure.field record resolved.arguments = .ok false := by
    rw [Resolved.check, rule] at refused
    exact refused
  rw [Validator.check_required, Except.ok.injEq] at refused
  simpa using refused

/-- A blank field fails by no known rule but those that ask for presence. -/
lemma presence_of_isBlank (validated : failuresOf surroundings engine record = .ok failures)
    (mem : failure ∈ failures) (kind : failure.kind = .ruleFailed)
    (blank : Failure.isBlank (record.get? failure.field) = true) :
    failure.ruleName = Validator.required.name ∨ failure.ruleName = Validator.requiredFile.name := by
  obtain ⟨written, arguments, resolved, found, name, called, -⟩ := exists_called_of_mem validated mem kind
  rw [name]
  exact (Registry.checksPresence_iff found).mp (called blank)

/-! ### Calls of validators -/

section

variable {m : Type → Type} [Monad m]

/-- Judging a field by a rule, by a way to call validators: what a call does, besides its
answer, is up to the monad. -/
def judgeVia (call : Resolved ValidatorRule → String → Record → m Bool) (registry : Registry) (record : Record)
    (id label : String) (rule : Rule) : m (Option Failure) :=
  let value := record.get? id
  match registry.validator? rule.name rule.arguments with
  | none => pure (some (Failure.ofUnknownRule id label value rule))
  | some resolved =>
    if Failure.isBlank value && !resolved.rule.checksPresence then pure none
    else do
      let accepted ← call resolved id record
      if accepted then pure none
      else pure (some (Failure.ofRule id label value resolved.name rule resolved.rule.message?))

/-- The failures of a record, by a way to call validators. -/
def failuresVia (call : Resolved ValidatorRule → String → Record → m Bool) (engine : Engine) (record : Record) :
    m (List Failure) := do
  let lists ← engine.fields.mapM fun (id, field) => do
    let results ← field.validations.mapM (judgeVia call engine.registry record id field.label)
    pure (results.filterMap fun result => result)
  pure lists.flatten

/-- No custom validator is called on a blank field: what such a call would do does not
matter. -/
lemma judgeVia_congr {call call' : Resolved ValidatorRule → String → Record → m Bool}
    (same : ∀ resolved id, (∀ custom, resolved.rule = .custom custom → Failure.isBlank (record.get? id) = false) →
      call resolved id record = call' resolved id record) (registry : Registry) (id label : String) (rule : Rule) :
    judgeVia call registry record id label rule = judgeVia call' registry record id label rule := by
  rw [judgeVia, judgeVia]
  cases registry.validator? rule.name rule.arguments with
  | none => rfl
  | some resolved =>
    dsimp only
    split
    · rfl
    · next called =>
      have value_of_custom : ∀ custom, resolved.rule = .custom custom →
          Failure.isBlank (record.get? id) = false := by
        intro custom rule
        rw [rule] at called
        simpa [ValidatorRule.checksPresence] using called
      rw [same resolved id value_of_custom]

lemma failuresVia_congr {call call' : Resolved ValidatorRule → String → Record → m Bool}
    (same : ∀ resolved id, (∀ custom, resolved.rule = .custom custom → Failure.isBlank (record.get? id) = false) →
      call resolved id record = call' resolved id record) (engine : Engine) :
    failuresVia call engine record = failuresVia call' engine record := by
  have judged : ∀ id label, judgeVia call engine.registry record id label =
      judgeVia call' engine.registry record id label := fun id label =>
    funext (judgeVia_congr same engine.registry id label)
  rw [failuresVia, failuresVia]
  simp only [judged]

end

/-- With the check of each rule for a call, this is a validation. -/
lemma failuresVia_check (surroundings : Surroundings) (engine : Engine) (record : Record) :
    failuresVia (Resolved.check surroundings) engine record = failuresOf surroundings engine record := by
  have map_eq : ∀ {α β : Type} (x : Except Fault α) (f : α → β), (x >>= fun a => pure (f a)) = x.map f := by
    intro α β x f
    cases x <;> rfl
  have judged : judgeVia (Resolved.check surroundings) engine.registry record =
      judge surroundings engine.registry record := rfl
  rw [failuresVia, failuresOf, map_eq, judged]
  simp only [map_eq]
  rfl

/-- **Fields without a value.** A field fails as required iff it is absent or blank. So no
field has this failure together with one by a known rule that does not ask for presence,
whatever its rules and the registry. And a validation calls no custom validator on such a
field: whatever calls do, it does the same with any other calls in their place. -/
theorem required_apart (engine : Engine) (record : Record) :
    (∀ surroundings id arguments,
      Validator.required.check surroundings id record arguments = .ok (!Failure.isBlank (record.get? id))) ∧
    (∀ surroundings next, Judges surroundings engine record next →
      ∀ failure ∈ next.failures, ∀ other ∈ next.failures, failure.field = other.field →
        failure.kind = .ruleFailed → failure.ruleName = Validator.required.name → other.kind = .ruleFailed →
          other.ruleName = Validator.required.name ∨ other.ruleName = Validator.requiredFile.name) ∧
    (∀ surroundings,
      failuresVia (Resolved.check surroundings) engine record = failuresOf surroundings engine record) ∧
    ∀ (m : Type → Type) [Monad m] (call call' : Resolved ValidatorRule → String → Record → m Bool),
      (∀ resolved id, (∀ custom, resolved.rule = .custom custom → Failure.isBlank (record.get? id) = false) →
        call resolved id record = call' resolved id record) →
      failuresVia call engine record = failuresVia call' engine record := by
  refine ⟨fun surroundings id => Validator.check_required surroundings id record, ?_,
    fun surroundings => failuresVia_check surroundings engine record,
    fun m _ call call' same => failuresVia_congr same engine⟩
  intro surroundings next judged failure mem other other_mem same kind named other_kind
  obtain ⟨failures, validated, recorded⟩ := judged.exists_failuresOf
  have mem := recorded failure mem (by rw [kind]; decide)
  have other_mem := recorded other other_mem (by rw [other_kind]; decide)
  have blank := isBlank_of_required validated mem kind named
  rw [same] at blank
  exact presence_of_isBlank validated other_mem other_kind blank

/-- Three of the rules of a blank name fail. The custom one is called on the age only: with
calls that stop at a custom validator for a blank field, the validation is the same. -/
theorem required_apart_even :
    let even : CustomValidator := ⟨fun id record _ => Failure.shownValue (record.get? id) != "7", "odd"⟩
    let rules : List Rule := [⟨"Required", [], none⟩, ⟨"minlen", ["5"], none⟩, ⟨"int", [], none⟩, ⟨"even", [], none⟩,
      ⟨"nosuch", [], none⟩, ⟨"requiredfile", [], none⟩]
    let engine : Engine :=
      ⟨[("name", ⟨"Name", [], rules⟩), ("age", ⟨"Age", [], [⟨"required", [], none⟩, ⟨"even", [], none⟩]⟩)], [],
        { Registry.initial with validators := [("even", even)] }⟩
    let record : Record := [("name", .string "  "), ("age", .string "7")]
    let stopping : Resolved ValidatorRule → String → Record → Except Fault Bool := fun resolved id record =>
      match resolved.rule with
      | .builtin _ => resolved.check .newYear id record
      | .custom _ =>
        if Failure.isBlank (record.get? id) then .error .insideCharacter else resolved.check .newYear id record
    ∃ failures, Judges .newYear engine record { engine with failures := failures } ∧
      failures.map (fun failure => (failure.field, failure.ruleName)) =
        [("name", "required"), ("name", "nosuch"), ("name", "requiredfile"), ("age", "even")] ∧
      failuresVia stopping engine record = .ok failures ∧
      ∀ failure ∈ failures, failure.field = "name" → failure.kind = .ruleFailed →
        failure.ruleName = "required" ∨ failure.ruleName = "requiredfile" := by
  intro even rules engine record stopping
  obtain ⟨checked, apart, via, never⟩ := required_apart engine record
  have named : (failuresOf .newYear engine record).map
      (·.map fun failure => (failure.field, failure.kind, failure.ruleName)) =
        .ok [("name", .ruleFailed, "required"), ("name", .unknownRule, "nosuch"),
          ("name", .ruleFailed, "requiredfile"), ("age", .ruleFailed, "even")] := by
    decide +kernel
  obtain ⟨failures, validated, names⟩ := map_eq_ok_iff.mp named
  have judged : Judges .newYear engine record { engine with failures := failures } := by
    refine .validate ?_
    rw [validate, validated]
    rfl
  refine ⟨failures, judged, ?_, ?_, ?_⟩
  · have fields := congrArg (List.map fun entry => (entry.1, entry.2.2)) names
    rw [List.map_map] at fields
    exact fields
  · rw [← validated, ← via]
    refine never (Except Fault) stopping _ ?_
    intro resolved id value
    cases rule : resolved.rule with
    | builtin validator => simp only [stopping, rule]
    | custom custom =>
      have full := value custom rule
      simp only [stopping, rule, full, Bool.false_eq_true, if_false]
  · intro failure mem field kind
    have first : ("name", FailureKind.ruleFailed, "required") ∈
        failures.map fun failure => (failure.field, failure.kind, failure.ruleName) := by
      rw [names]
      decide
    obtain ⟨blank, blank_mem, same⟩ := List.mem_map.mp first
    simp only [Prod.mk.injEq] at same
    obtain ⟨blank_field, blank_kind, blank_name⟩ := same
    exact apart .newYear _ judged blank blank_mem failure mem (blank_field.trans field.symm) blank_kind
      blank_name kind

end Engine

end RecordRules
