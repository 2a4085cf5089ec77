/-
What the validation of a record records.

* `Engine.Consults`: the validators that a validation calls;
* `Engine.exists_failuresOf_iff`: a validation comes to its end iff every
  validator does that it calls;
* `Engine.exists_judge_of_mem`: each of the failures is by a rule of its field;
* `Engine.failuresBy`: the failures by some rules of a field, at most one by each
  rule;
* `Engine.Reports`: what is recorded, and the verdict;
* `Engine.validate_setValidations`: more validations only add failures, behind
  those that their fields have already.
-/
import Mathlib.Data.List.Flatten
import RecordRules.Proofs.Engine.Fields

namespace RecordRules.Engine

variable {surroundings : Surroundings} {engine next : Engine} {record : Record} {id : String} {e : Fault}

/-! ### One rule -/

/-- A validation of a record calls a resolved rule for a field: one of the
validations of the field stands for it, and it is not passed over because the
value is blank. -/
def Consults (engine : Engine) (record : Record) (id : String) (resolved : Resolved ValidatorRule) : Prop :=
  ∃ rule ∈ (engine.fieldOf id).validations,
    engine.registry.validator? rule.name rule.arguments = some resolved ∧
      (Failure.isBlank (record.get? id) = true → resolved.rule.checksPresence = true)

/-- A rule that stands for a validator calls it, or is passed over. -/
lemma judge_of_found {label : String} {rule : Rule} {resolved : Resolved ValidatorRule}
    (found : engine.registry.validator? rule.name rule.arguments = some resolved) :
    judge surroundings engine.registry record id label rule =
      if Failure.isBlank (record.get? id) = true → resolved.rule.checksPresence = true then
        (resolved.check surroundings id record).map fun accepted =>
          if accepted then none
          else some (Failure.ofRule id label (record.get? id) resolved.name rule resolved.rule.message?)
      else .ok none := by
  have called_iff : (Failure.isBlank (record.get? id) = true → resolved.rule.checksPresence = true) ↔
      ¬ (Failure.isBlank (record.get? id) && !resolved.rule.checksPresence) = true := by simp
  rw [judge, found]
  simp only [called_iff, ite_not]
  congr 1
  cases resolved.check surroundings id record with
  | error e => rfl
  | ok accepted => cases accepted <;> rfl

/-- Judging breaks down iff the rule is called and breaks down. -/
lemma judge_eq_error_iff {label : String} {rule : Rule} :
    judge surroundings engine.registry record id label rule = .error e ↔
      ∃ resolved, engine.registry.validator? rule.name rule.arguments = some resolved ∧
        (Failure.isBlank (record.get? id) = true → resolved.rule.checksPresence = true) ∧
        resolved.check surroundings id record = .error e := by
  cases found : engine.registry.validator? rule.name rule.arguments with
  | none =>
    rw [judge, found]
    exact ⟨nofun, fun ⟨_, unknown, _⟩ => nomatch unknown⟩
  | some resolved =>
    rw [judge_of_found found]
    split
    · next called =>
      rw [map_eq_error_iff]
      refine ⟨fun failed => ⟨resolved, rfl, called, failed⟩, ?_⟩
      rintro ⟨_, ⟨⟩, -, failed⟩
      exact failed
    · next passed =>
      refine ⟨nofun, ?_⟩
      rintro ⟨_, ⟨⟩, called, -⟩
      exact absurd called passed

/-- Judging records a failure iff nothing is known by the name of the rule, or the
rule is called and rejects the value. -/
lemma judge_eq_some_iff {label : String} {rule : Rule} {failure : Failure} :
    judge surroundings engine.registry record id label rule = .ok (some failure) ↔
      (engine.registry.validator? rule.name rule.arguments = none ∧
          failure = Failure.ofUnknownRule id label (record.get? id) rule) ∨
        ∃ resolved, engine.registry.validator? rule.name rule.arguments = some resolved ∧
          (Failure.isBlank (record.get? id) = true → resolved.rule.checksPresence = true) ∧
          resolved.check surroundings id record = .ok false ∧
          failure = Failure.ofRule id label (record.get? id) resolved.name rule resolved.rule.message? := by
  cases found : engine.registry.validator? rule.name rule.arguments with
  | none =>
    rw [judge, found]
    constructor
    · rintro ⟨⟩
      exact .inl ⟨rfl, rfl⟩
    · rintro (⟨-, rfl⟩ | ⟨_, unknown, -⟩)
      · rfl
      · cases unknown
  | some resolved =>
    rw [judge_of_found found]
    split
    · next called =>
      rw [map_eq_ok_iff]
      constructor
      · rintro ⟨accepted, checked, recorded⟩
        cases accepted with
        | true => cases recorded
        | false =>
          cases recorded
          exact .inr ⟨resolved, rfl, called, checked, rfl⟩
      · rintro (⟨unknown, -⟩ | ⟨_, ⟨⟩, -, checked, rfl⟩)
        · cases unknown
        · exact ⟨false, checked, rfl⟩
    · next passed =>
      refine ⟨nofun, ?_⟩
      rintro (⟨unknown, -⟩ | ⟨_, ⟨⟩, called, -⟩)
      · cases unknown
      · exact absurd called passed

/-- The failure that is recorded for a field and a rule, if the rule fails. -/
def failureBy? (surroundings : Surroundings) (engine : Engine) (record : Record) (id : String) (rule : Rule) :
    Option Failure :=
  match judge surroundings engine.registry record id (engine.labelOf id) rule with
  | .ok result => result
  | .error _ => none

/-- The failures that are recorded for a field by some rules: at most one by each
rule, in the order of the rules. -/
def failuresBy (surroundings : Surroundings) (engine : Engine) (record : Record) (id : String)
    (rules : List Rule) : List Failure :=
  rules.filterMap (failureBy? surroundings engine record id)

lemma failuresBy_append (rules more : List Rule) :
    failuresBy surroundings engine record id (rules ++ more) =
      failuresBy surroundings engine record id rules ++ failuresBy surroundings engine record id more :=
  List.filterMap_append

/-! ### All rules -/

/-- Every validator that a validation of a record calls returns. -/
def ValidatorsReturn (surroundings : Surroundings) (engine : Engine) (record : Record) : Prop :=
  ∀ id resolved, engine.Consults record id resolved →
    ∃ accepted, resolved.check surroundings id record = .ok accepted

lemma judge_eq_ok (returns : ValidatorsReturn surroundings engine record) {rule : Rule}
    (mem : rule ∈ (engine.fieldOf id).validations) :
    judge surroundings engine.registry record id (engine.labelOf id) rule =
      .ok (failureBy? surroundings engine record id rule) := by
  cases judged : judge surroundings engine.registry record id (engine.labelOf id) rule with
  | ok result => rw [failureBy?, judged]
  | error e =>
    obtain ⟨resolved, found, called, failed⟩ := judge_eq_error_iff.mp judged
    obtain ⟨accepted, returned⟩ := returns id resolved ⟨rule, mem, found, called⟩
    rw [failed] at returned
    cases returned

lemma fieldFailures_eq_ok (nodup : engine.fields.keys.Nodup)
    (returns : ValidatorsReturn surroundings engine record) {field : FieldRules}
    (mem : (id, field) ∈ engine.fields) :
    fieldFailures surroundings engine.registry record id field =
      .ok (failuresBy surroundings engine record id field.validations) := by
  have there := fieldOf_of_mem nodup mem
  have label : field.label = engine.labelOf id := by rw [← label_fieldOf, there]
  have judged : ∀ rule ∈ field.validations,
      judge surroundings engine.registry record id field.label rule =
        .ok (failureBy? surroundings engine record id rule) := by
    intro rule rule_mem
    rw [label]
    exact judge_eq_ok returns (there.symm ▸ rule_mem)
  rw [fieldFailures, mapM_eq_ok_map judged, Except.map, List.filterMap_map]
  rfl

/-- A validation in which every validator returns records the failures of the
fields, in the order of the fields. -/
lemma failuresOf_eq_ok (nodup : engine.fields.keys.Nodup)
    (returns : ValidatorsReturn surroundings engine record) :
    failuresOf surroundings engine record =
      .ok (engine.fields.flatMap fun (id, field) =>
        failuresBy surroundings engine record id field.validations) := by
  have each : ∀ m ∈ engine.fields,
      fieldFailures surroundings engine.registry record m.1 m.2 =
        .ok (failuresBy surroundings engine record m.1 m.2.validations) :=
    fun _ mem => fieldFailures_eq_ok nodup returns mem
  rw [failuresOf, mapM_eq_ok_map each, Except.map, List.flatMap_def]

/-- **A validation comes to its end iff every validator returns that it calls.** -/
theorem exists_failuresOf_iff (nodup : engine.fields.keys.Nodup) :
    (∃ failures, failuresOf surroundings engine record = .ok failures) ↔
      ValidatorsReturn surroundings engine record := by
  refine ⟨?_, fun returns => ⟨_, failuresOf_eq_ok nodup returns⟩⟩
  rintro ⟨failures, done⟩ id resolved ⟨rule, mem, found, called⟩
  have there : (id, engine.fieldOf id) ∈ engine.fields := by
    refine mem_fields_of_fieldOf_ne fun bare => ?_
    rw [bare] at mem
    cases mem
  obtain ⟨lists, each, -⟩ := map_eq_ok_iff.mp done
  obtain ⟨list, own⟩ := exists_mapM_eq_ok_iff.mp ⟨lists, each⟩ _ there
  obtain ⟨results, judged, -⟩ := map_eq_ok_iff.mp own
  obtain ⟨result, returned⟩ := exists_mapM_eq_ok_iff.mp ⟨results, judged⟩ rule mem
  cases checked : resolved.check surroundings id record with
  | ok accepted => exact ⟨accepted, rfl⟩
  | error e =>
    rw [judge_eq_error_iff.mpr ⟨resolved, found, called, checked⟩] at returned
    cases returned

/-- A failure that is recorded is that of one of the rules of its field. -/
lemma exists_judge_of_mem {failures : List Failure} {failure : Failure}
    (validated : failuresOf surroundings engine record = .ok failures) (mem : failure ∈ failures) :
    ∃ id field rule, (id, field) ∈ engine.fields ∧ rule ∈ field.validations ∧
      judge surroundings engine.registry record id field.label rule = .ok (some failure) := by
  obtain ⟨lists, each, rfl⟩ := map_eq_ok_iff.mp validated
  obtain ⟨list, list_mem, mem⟩ := List.mem_flatten.mp mem
  obtain ⟨⟨id, field⟩, configured, own⟩ := exists_of_mem_mapM each list_mem
  obtain ⟨results, judged, rfl⟩ := map_eq_ok_iff.mp own
  obtain ⟨result, result_mem, rfl⟩ := List.mem_filterMap.mp mem
  obtain ⟨rule, rule_mem, judged⟩ := exists_of_mem_mapM judged result_mem
  exact ⟨id, field, rule, configured, rule_mem, judged⟩

/-! ### The report of a validation -/

/-- What a validation of a record records, and the verdict. -/
structure Reports (surroundings : Surroundings) (engine : Engine) (record : Record)
    (failures : List Failure) : Prop where
  /-- The failures take the place of those that were recorded before, whatever
  they were; the verdict is good exactly if there are no failures now. -/
  recorded : ∀ before,
    validateWithVerdict surroundings { engine with failures := before } record =
      .ok ({ engine with failures := failures }, if failures = [] then .ok () else .error failures)
  /-- The failures come in the order of the fields and then of the rules. -/
  ordered : failures = engine.fields.flatMap fun (id, field) =>
    failuresBy surroundings engine record id field.validations
  /-- No field has more failures than validations. -/
  bounded : ∀ id field, (id, field) ∈ engine.fields →
    (failures.filter (·.field = id)).length ≤ field.validations.length

lemma field_failureBy? {rule : Rule} {failure : Failure}
    (h : failureBy? surroundings engine record id rule = some failure) :
    failure.field = id ∧ failure.kind ≠ .fieldMismatch := by
  rw [failureBy?] at h
  split at h
  · next result judged =>
    subst h
    rcases judge_eq_some_iff.mp judged with ⟨-, rfl⟩ | ⟨resolved, -, -, -, rfl⟩
    · exact ⟨rfl, nofun⟩
    · exact ⟨rfl, nofun⟩
  · cases h

lemma field_of_mem_failuresBy {rules : List Rule} {failure : Failure}
    (mem : failure ∈ failuresBy surroundings engine record id rules) :
    failure.field = id ∧ failure.kind ≠ .fieldMismatch := by
  obtain ⟨rule, -, failed⟩ := List.mem_filterMap.mp mem
  exact field_failureBy? failed

lemma length_failuresBy_le (rules : List Rule) :
    (failuresBy surroundings engine record id rules).length ≤ rules.length :=
  List.length_filterMap_le _ _

/-- The failures of one field among those of all fields. -/
lemma filter_flatMap_failuresBy {ids : List String} (nodup : ids.Nodup) (there : id ∈ ids)
    (rules : String → List Rule) :
    (ids.flatMap fun id => failuresBy surroundings engine record id (rules id)).filter (·.field = id) =
      failuresBy surroundings engine record id (rules id) := by
  have own : (failuresBy surroundings engine record id (rules id)).filter (·.field = id) =
      failuresBy surroundings engine record id (rules id) := by
    refine List.filter_eq_self.mpr fun failure mem => ?_
    simpa using (field_of_mem_failuresBy mem).1
  have foreign : ∀ others : List String, id ∉ others →
      (others.flatMap fun id => failuresBy surroundings engine record id (rules id)).filter
        (·.field = id) = [] := by
    intro others absent
    refine List.filter_eq_nil_iff.mpr fun failure mem => ?_
    obtain ⟨other, other_mem, mem⟩ := List.mem_flatMap.mp mem
    have differ : other ≠ id := fun same => absent (same ▸ other_mem)
    simpa [(field_of_mem_failuresBy mem).1] using differ
  obtain ⟨before, after, rfl⟩ := List.append_of_mem there
  obtain ⟨fresh, -⟩ := List.nodup_cons.mp (List.nodup_middle.mp nodup)
  rw [List.mem_append, not_or] at fresh
  rw [List.flatMap_append, List.flatMap_cons, List.filter_append, List.filter_append, foreign before fresh.1,
    own, foreign after fresh.2, List.nil_append, List.append_nil]

lemma flatMap_fields (nodup : engine.fields.keys.Nodup) {α : Type} (f : String → FieldRules → List α) :
    (engine.fields.flatMap fun (id, field) => f id field) =
      engine.fields.keys.flatMap fun id => f id (engine.fieldOf id) := by
  conv_lhs => rw [fields_eq_map nodup]
  rw [List.flatMap_map]

/-- A validation that comes to its end has a report. -/
lemma reports_of_failuresOf (nodup : engine.fields.keys.Nodup) {failures : List Failure}
    (done : failuresOf surroundings engine record = .ok failures) :
    Reports surroundings engine record failures := by
  have expected := failuresOf_eq_ok nodup ((exists_failuresOf_iff nodup).mp ⟨failures, done⟩)
  have ordered := Except.ok.inj (done.symm.trans expected)
  refine ⟨fun before => ?_, ordered, fun id field mem => ?_⟩
  · have again : failuresOf surroundings { engine with failures := before } record = .ok failures := done
    rw [validateWithVerdict, validate, again]
    simp only [Except.map, verdict, List.isEmpty_iff]
  · have at_keys := flatMap_fields nodup fun id field =>
      failuresBy surroundings engine record id field.validations
    rw [ordered, at_keys, filter_flatMap_failuresBy nodup (Keyed.mem_keys_of_mem mem), fieldOf_of_mem nodup mem]
    exact length_failuresBy_le _

/-! ### More validations -/

/-- A rule judges alike in engines that know the same rules and have the same
labels. -/
lemma failuresBy_congr (registry : next.registry = engine.registry) (labels : next.labelOf = engine.labelOf) :
    failuresBy surroundings next record = failuresBy surroundings engine record := by
  funext id rules
  have alike : failureBy? surroundings next record id = failureBy? surroundings engine record id := by
    funext rule
    rw [failureBy?, failureBy?, registry, labels]
  rw [failuresBy, failuresBy, alike]

lemma failuresBy_of_absent (absent : id ∉ engine.fields.keys) :
    failuresBy surroundings engine record id (engine.fieldOf id).validations = [] := by
  rw [fieldOf_eq_ofId absent]
  rfl

lemma foldl_addValidations (lists : List (List Rule)) (field : FieldRules) :
    lists.foldl (fun field rules => field.addValidations .after rules) field =
      { field with validations := field.validations ++ lists.flatten } := by
  induction lists generalizing field with
  | nil => simp
  | cons rules lists ih =>
    rw [List.foldl_cons, ih]
    simp [FieldRules.addValidations, Placement.add]

/-- Validations that are read and added: a field has all those that were added
under its id, behind its own; nothing else changes. -/
lemma setValidations_eq_ok {texts : List (String × String)} (nodup : engine.fields.keys.Nodup)
    (done : engine.setValidations texts = .ok next) :
    ∃ added : Keyed (List Rule), readRules .validation texts = .ok added ∧
      next.registry = engine.registry ∧
      next.fields.keys = (engine.fields.keys ++ added.keys).eraseDups ∧
      ∀ id, next.fieldOf id = { engine.fieldOf id with
        validations := (engine.fieldOf id).validations ++ (added.all id).flatten } := by
  obtain ⟨added, read, done⟩ := bind_eq_ok_iff.mp done
  cases done
  let add : List Rule → FieldRules → FieldRules := fun rules => (·.addValidations .after rules)
  refine ⟨added, read, registry_foldl_changeField add added engine,
    keys_foldl_changeField add added (eraseDups_of_nodup nodup).symm, fun id => ?_⟩
  rw [fieldOf_foldl_changeField add added engine id, foldl_addValidations]

/-- **More validations only add failures.** After validations were added, a
validation records all failures that it recorded without them, in their order;
behind those of a field come the failures by the validations that were added to
it, at most one by each. -/
theorem validate_setValidations {texts : List (String × String)} (nodup : engine.fields.keys.Nodup)
    (done : engine.setValidations texts = .ok next) (returns : ValidatorsReturn surroundings next record) :
    ∃ (added : Keyed (List Rule)) (older newer : List Failure),
      readRules .validation texts = .ok added ∧
      Reports surroundings engine record older ∧ Reports surroundings next record newer ∧
      older.Sublist newer ∧
      engine.fields.keys <+: next.fields.keys ∧
      (older = next.fields.keys.flatMap fun id =>
        failuresBy surroundings engine record id (engine.fieldOf id).validations) ∧
      newer = next.fields.keys.flatMap fun id =>
        failuresBy surroundings engine record id (engine.fieldOf id).validations ++
          failuresBy surroundings engine record id (added.all id).flatten := by
  obtain ⟨added, read, registry, keys, fieldOf⟩ := setValidations_eq_ok nodup done
  have nodup' := nodup_setValidations nodup done
  have labels : next.labelOf = engine.labelOf := by
    funext id
    rw [← label_fieldOf, ← label_fieldOf, fieldOf]
  have alike : failuresBy surroundings next record = failuresBy surroundings engine record :=
    failuresBy_congr registry labels
  have returns' : ValidatorsReturn surroundings engine record := by
    rintro id resolved ⟨rule, mem, found, called⟩
    refine returns id resolved ⟨rule, ?_, registry ▸ found, called⟩
    rw [fieldOf]
    exact List.mem_append_left _ mem
  have older := reports_of_failuresOf nodup (failuresOf_eq_ok nodup returns')
  have newer := reports_of_failuresOf nodup' (failuresOf_eq_ok nodup' returns)
  rw [flatMap_fields nodup fun id field => failuresBy surroundings engine record id field.validations] at older
  rw [flatMap_fields nodup' fun id field => failuresBy surroundings next record id field.validations] at newer
  -- the fields that are new come last, and had no validations before
  rw [List.eraseDups_append, eraseDups_of_nodup nodup] at keys
  have fresh : ∀ id ∈ (added.keys.removeAll engine.fields.keys).eraseDups,
      failuresBy surroundings engine record id (engine.fieldOf id).validations = [] := by
    intro id mem
    have absent : id ∉ engine.fields.keys := by
      rw [List.mem_eraseDups, List.removeAll, List.mem_filter] at mem
      simpa using mem.2
    exact failuresBy_of_absent absent
  have older_eq : (engine.fields.keys.flatMap fun id =>
        failuresBy surroundings engine record id (engine.fieldOf id).validations) =
      next.fields.keys.flatMap fun id =>
        failuresBy surroundings engine record id (engine.fieldOf id).validations := by
    rw [keys, List.flatMap_append, List.flatMap_eq_nil_iff.mpr fresh, List.append_nil]
  have newer_eq : (next.fields.keys.flatMap fun id =>
        failuresBy surroundings next record id (next.fieldOf id).validations) =
      next.fields.keys.flatMap fun id =>
        failuresBy surroundings engine record id (engine.fieldOf id).validations ++
          failuresBy surroundings engine record id (added.all id).flatten := by
    simp only [alike, fieldOf, failuresBy_append]
  refine ⟨added, _, _, read, older, newer, ?_, keys ▸ List.prefix_append _ _, older_eq, newer_eq⟩
  rw [older_eq, newer_eq]
  exact List.Sublist.flatMap_right _ fun id _ => List.sublist_append_left _ _

/-- An age that is no number, before and after a batch that names its field twice
and brings a new field. -/
theorem validate_setValidations_age :
    let integer : Rule := ⟨"integer", [], none⟩
    let engine : Engine := ⟨[("age", ⟨"Age", [], [integer]⟩)], [], .initial⟩
    let next : Engine :=
      ⟨[("age", ⟨"Age", [], [integer, ⟨"minlen", ["2"], none⟩, ⟨"nosuch", [], none⟩, ⟨"exactlen", ["1"], none⟩]⟩),
          ("name", ⟨Label.humanize "name", [], [⟨"required", [], none⟩]⟩)], [], .initial⟩
    let texts := [("age", "minlen:2|nosuch"), ("name", "required"), ("age", "exactlen:1")]
    let record : Record := [("age", .string "x")]
    engine.fields.keys.Nodup ∧ engine.setValidations texts = .ok next ∧
      ValidatorsReturn .newYear next record ∧
      ∃ older newer, Reports .newYear engine record older ∧ Reports .newYear next record newer ∧
        older.map (fun failure => (failure.field, failure.ruleName)) = [("age", "integer")] ∧
        newer.map (fun failure => (failure.field, failure.ruleName)) =
          [("age", "integer"), ("age", "minlen"), ("age", "nosuch"), ("name", "required")] := by
  intro integer engine next texts record
  have nodup : engine.fields.keys.Nodup := by decide
  have read : readRules .validation texts = .ok [("age", [⟨"minlen", ["2"], none⟩, ⟨"nosuch", [], none⟩]),
      ("name", [⟨"required", [], none⟩]), ("age", [⟨"exactlen", ["1"], none⟩])] := by decide +kernel
  have done : engine.setValidations texts = .ok next := bind_eq_ok_iff.mpr ⟨_, read, rfl⟩
  have returns : ValidatorsReturn .newYear next record :=
    (exists_failuresOf_iff (nodup_setValidations nodup done)).mp (exists_ok_of_isOk (by decide +kernel))
  obtain ⟨added, older, newer, read', before, after, -, -, rfl, rfl⟩ :=
    validate_setValidations nodup done returns
  obtain rfl := Except.ok.inj (read.symm.trans read')
  exact ⟨nodup, done, returns, _, _, before, after, by decide +kernel, by decide +kernel⟩

end RecordRules.Engine
