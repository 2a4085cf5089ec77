/-
What a run over a record says.

* `Engine.lacksRules`: the fields that no rule is configured for;
* `Engine.mismatches_eq`: one failure for each of them that a record has;
* `Engine.recorded`, `Engine.exists_of_run`: all that a run does;
* `Engine.RulesReturn.run_cases`: how a run ends in which all rules return;
* `Engine.run_spec`: a run with and a run without the check for such fields.
-/
import RecordRules.Proofs.Engine.Sanitizing
import RecordRules.Proofs.Engine.Validating

namespace RecordRules.Engine

variable {surroundings : Surroundings} {engine next : Engine} {record out : Record} {id : String}

/-! ### Fields without rules -/

/-- Whether neither a sanitization nor a validation is configured for a field. -/
def lacksRules (engine : Engine) (id : String) : Bool :=
  (engine.fieldOf id).sanitizations.isEmpty && (engine.fieldOf id).validations.isEmpty

lemma not_isConfigured (engine : Engine) (id : String) : (!engine.isConfigured id) = engine.lacksRules id := by
  rw [isConfigured, lacksRules, fieldOf]
  cases engine.field? id with
  | none => rfl
  | some field => simp [FieldRules.hasRules]

/-- The mismatches of a record: one for each of its fields that lacks rules, in
the order of the record. -/
lemma mismatches_eq (engine : Engine) (record : Record) :
    (engine.mismatches record).map (fun failure => (failure.field, failure.kind)) =
      (record.keys.filter engine.lacksRules).map (·, .fieldMismatch) := by
  calc (engine.mismatches record).map (fun failure => (failure.field, failure.kind))
      = (record.filter fun m => engine.lacksRules m.1).map fun m => (m.1, FailureKind.fieldMismatch) := by
        simp only [mismatches, not_isConfigured, List.map_map]
        rfl
    _ = (record.keys.filter engine.lacksRules).map (·, .fieldMismatch) := by
        rw [Keyed.keys, List.filter_map, List.map_map]
        rfl

lemma of_mem_mismatches {failure : Failure} (mem : failure ∈ engine.mismatches record) :
    failure.kind = .fieldMismatch ∧ engine.lacksRules failure.field = true := by
  obtain ⟨m, kept, rfl⟩ := List.mem_map.mp mem
  refine ⟨rfl, ?_⟩
  rw [← not_isConfigured]
  exact (List.mem_filter.mp kept).2

/-- A validation records failures only for fields with validations, and none of
them is a mismatch. -/
lemma Reports.of_mem {failures : List Failure} (nodup : engine.fields.keys.Nodup)
    (reports : Reports surroundings engine record failures) {failure : Failure} (mem : failure ∈ failures) :
    failure.kind ≠ .fieldMismatch ∧ engine.lacksRules failure.field = false := by
  rw [reports.ordered] at mem
  obtain ⟨⟨id, field⟩, configured, own⟩ := List.mem_flatMap.mp mem
  have own : failure ∈ failuresBy surroundings engine record id field.validations := own
  have some_rule : field.validations ≠ [] := by
    intro none
    rw [none] at own
    cases own
  obtain ⟨at_id, kind⟩ := field_of_mem_failuresBy own
  refine ⟨kind, ?_⟩
  rw [at_id, lacksRules, fieldOf_of_mem nodup configured]
  simp [some_rule]

/-! ### Runs -/

/-- A run over a record that can be sanitized and validated. -/
lemma run_eq_ok (sanitized : engine.sanitize record = .ok out) {failures : List Failure}
    (validated : failuresOf surroundings engine out = .ok failures) (checkUnknown : Bool) :
    run surroundings engine record checkUnknown =
      let recorded := if checkUnknown then failures ++ engine.mismatches out else failures
      .ok ({ engine with failures := recorded }, if recorded = [] then some out else none) := by
  refine bind_eq_ok_iff.mpr ⟨out, sanitized, bind_eq_ok_iff.mpr ⟨failures, validated, ?_⟩⟩
  simp only [List.isEmpty_iff]

/-- What a run records for a record that was sanitized: the failures of the
validation and, if they are asked for, the mismatches. -/
def recorded (engine : Engine) (failures : List Failure) (out : Record) (checkUnknown : Bool) : List Failure :=
  if checkUnknown then failures ++ engine.mismatches out else failures

/-- All that a run does which comes to its end. -/
lemma exists_of_run {checkUnknown : Bool} {result : Option Record}
    (done : run surroundings engine record checkUnknown = .ok (next, result)) :
    ∃ out failures, engine.sanitize record = .ok out ∧ failuresOf surroundings engine out = .ok failures ∧
      next = { engine with failures := engine.recorded failures out checkUnknown } ∧
      result = if engine.recorded failures out checkUnknown = [] then some out else none := by
  obtain ⟨out, sanitized, rest⟩ := bind_eq_ok_iff.mp done
  obtain ⟨failures, validated, -⟩ := bind_eq_ok_iff.mp rest
  rw [run_eq_ok sanitized validated checkUnknown] at done
  obtain ⟨rfl, rfl⟩ := Prod.mk.inj (Except.ok.inj done)
  exact ⟨out, failures, sanitized, validated, rfl, rfl⟩

/-- Every rule that a run over a record calls returns: the sanitizations on the record, and
the validations on the record that was sanitized. -/
structure RulesReturn (surroundings : Surroundings) (engine : Engine) (record : Record) : Prop where
  sanitizers : ∀ resolved leaf, engine.Invokes record resolved leaf →
    ∃ replaced, resolved.apply leaf = .ok replaced
  validators : ∀ out, engine.sanitize record = .ok out → ValidatorsReturn surroundings engine out

/-- All rules return in a run that comes to its end. -/
lemma RulesReturn.of_run (nodup : engine.fields.keys.Nodup) {checkUnknown : Bool} {result : Option Record}
    (done : run surroundings engine record checkUnknown = .ok (next, result)) :
    RulesReturn surroundings engine record := by
  obtain ⟨out, failures, sanitized, validated, -⟩ := exists_of_run done
  refine ⟨sanitize_ne_insideCharacter_iff.mp fun broken => ?_, fun out' sanitized' => ?_⟩
  · rw [sanitized] at broken
    cases broken
  · rw [sanitized] at sanitized'
    cases sanitized'
    exact (exists_failuresOf_iff nodup).mp ⟨failures, validated⟩

/-- A run in which all rules return fails with the first unresolved sanitization, or comes
to its end. -/
lemma RulesReturn.run_cases (nodup : engine.fields.keys.Nodup)
    (returns : RulesReturn surroundings engine record) :
    (∃ rule, (engine.unresolved record.keys).head? = some rule ∧ ∀ checkUnknown,
        run surroundings engine record checkUnknown = .error (.unknownFilter (Text.lowerString rule.name))) ∨
      engine.unresolved record.keys = [] ∧ ∃ out failures, engine.sanitize record = .ok out ∧
        Reports surroundings engine out failures ∧ ∀ checkUnknown,
          run surroundings engine record checkUnknown =
            .ok ({ engine with failures := engine.recorded failures out checkUnknown },
              if engine.recorded failures out checkUnknown = [] then some out else none) := by
  cases sanitized : engine.sanitize record with
  | error e =>
    rcases sanitize_eq_error_cases sanitized with ⟨rule, first, rfl⟩ | rfl
    · exact .inl ⟨rule, first, fun _ => bind_eq_error_iff.mpr (.inl sanitized)⟩
    · exact absurd sanitized (sanitize_ne_insideCharacter_iff.mpr returns.sanitizers)
  | ok out =>
    obtain ⟨failures, validated⟩ := (exists_failuresOf_iff nodup).mpr (returns.validators out sanitized)
    exact .inr ⟨unresolvedIn_eq_nil sanitized, out, failures, rfl, reports_of_failuresOf nodup validated,
      run_eq_ok sanitized validated⟩

/-- No field has both a mismatch and another failure. -/
lemma mismatch_iff_of_same_field (nodup : engine.fields.keys.Nodup) {failures : List Failure}
    (reports : Reports surroundings engine out failures) {failure other : Failure}
    (mem : failure ∈ failures ++ engine.mismatches out) (other_mem : other ∈ failures ++ engine.mismatches out)
    (same : failure.field = other.field) : failure.kind = .fieldMismatch ↔ other.kind = .fieldMismatch := by
  have kind_iff : ∀ failure ∈ failures ++ engine.mismatches out,
      failure.kind = .fieldMismatch ↔ engine.lacksRules failure.field = true := by
    intro failure mem
    rcases List.mem_append.mp mem with mem | mem
    · obtain ⟨kind, configured⟩ := reports.of_mem nodup mem
      rw [configured]
      exact iff_of_false kind Bool.false_ne_true
    · obtain ⟨kind, lacks⟩ := of_mem_mismatches mem
      exact iff_of_true kind lacks
  rw [kind_iff failure mem, kind_iff other other_mem, same]

/-- A run gives the sanitized record exactly if it records nothing, and then the
record validates. -/
lemma result_of_run (sanitized : engine.sanitize record = .ok out) {failures : List Failure}
    (validated : failuresOf surroundings engine out = .ok failures)
    (reports : Reports surroundings engine out failures) {checkUnknown : Bool} {result : Option Record}
    (done : run surroundings engine record checkUnknown = .ok (next, result)) :
    (result.isSome ↔ next.failures = []) ∧
      ∀ x ∈ result, x = out ∧ validateWithVerdict surroundings next x = .ok (next, .ok ()) := by
  obtain ⟨recorded, clean, ran⟩ : ∃ recorded, (recorded = [] → failures = []) ∧
      run surroundings engine record checkUnknown =
        .ok ({ engine with failures := recorded }, if recorded = [] then some out else none) := by
    cases checkUnknown with
    | false => exact ⟨failures, id, run_eq_ok sanitized validated false⟩
    | true =>
      exact ⟨failures ++ engine.mismatches out, fun nothing => (List.append_eq_nil_iff.mp nothing).1,
        run_eq_ok sanitized validated true⟩
  rw [ran] at done
  obtain ⟨rfl, rfl⟩ := Prod.mk.inj (Except.ok.inj done)
  by_cases nothing : recorded = []
  · have good := reports.recorded []
    rw [clean nothing, if_pos rfl] at good
    rw [nothing, if_pos rfl]
    refine ⟨iff_of_true rfl rfl, ?_⟩
    rintro _ ⟨⟩
    exact ⟨rfl, good⟩
  · rw [if_neg nothing]
    exact ⟨iff_of_false Bool.false_ne_true nothing, nofun⟩

/-- What a run gives with the check for unknown fields, it gives without it. -/
lemma run_of_run_checked (sanitized : engine.sanitize record = .ok out) {failures : List Failure}
    (validated : failuresOf surroundings engine out = .ok failures) {x : Record}
    (done : run surroundings engine record true = .ok (next, some x)) :
    run surroundings engine record false = .ok (next, some x) := by
  have checked := run_eq_ok sanitized validated true
  rw [if_pos rfl, done] at checked
  obtain ⟨rfl, given⟩ := Prod.mk.inj (Except.ok.inj checked)
  have nothing : failures ++ engine.mismatches out = [] := by
    by_contra something
    rw [if_neg something] at given
    cases given
  have clean : failures = [] := (List.append_eq_nil_iff.mp nothing).1
  have unchecked := run_eq_ok sanitized validated false
  rw [nothing] at given ⊢
  rw [given, unchecked, clean]
  rfl

/-- **Runs with and without the check for unknown fields.** Both come to their
end for a record that can be sanitized, if every validator returns that is called
on the sanitized record. The check adds, behind the failures of the validation,
one mismatch for each field of the record that lacks rules, in the order of the
record; no field has both a mismatch and another failure. A run gives the
sanitized record exactly if it records nothing, and then the record validates. -/
theorem run_spec (nodup : engine.fields.keys.Nodup) (sanitized : engine.sanitize record = .ok out)
    (returns : ValidatorsReturn surroundings engine out) :
    ∃ failures mismatched,
      Reports surroundings engine out failures ∧
      (run surroundings engine record false =
        .ok ({ engine with failures := failures }, if failures = [] then some out else none)) ∧
      (run surroundings engine record true =
        .ok ({ engine with failures := failures ++ mismatched },
          if failures ++ mismatched = [] then some out else none)) ∧
      (mismatched.map (fun failure => (failure.field, failure.kind)) =
        (record.keys.filter engine.lacksRules).map (·, .fieldMismatch)) ∧
      (∀ failure ∈ failures, failure.kind ≠ .fieldMismatch) ∧
      (∀ failure ∈ failures ++ mismatched, ∀ other ∈ failures ++ mismatched, failure.field = other.field →
        (failure.kind = .fieldMismatch ↔ other.kind = .fieldMismatch)) ∧
      (∀ checkUnknown after result, run surroundings engine record checkUnknown = .ok (after, result) →
        (result.isSome ↔ after.failures = []) ∧
          ∀ x ∈ result, x = out ∧ validateWithVerdict surroundings after x = .ok (after, .ok ())) ∧
      ∀ after x, run surroundings engine record true = .ok (after, some x) →
        run surroundings engine record false = .ok (after, some x) := by
  obtain ⟨failures, validated⟩ := (exists_failuresOf_iff nodup).mpr returns
  have reports := reports_of_failuresOf nodup validated
  have keys : out.keys = record.keys := keys_sanitizeFields sanitized
  have mismatched := mismatches_eq engine out
  rw [keys] at mismatched
  refine ⟨failures, engine.mismatches out, reports, run_eq_ok sanitized validated false,
    run_eq_ok sanitized validated true, mismatched, ?_, ?_, ?_, ?_⟩
  · exact fun failure mem => (reports.of_mem nodup mem).1
  · exact fun failure mem other other_mem same => mismatch_iff_of_same_field nodup reports mem other_mem same
  · exact fun checkUnknown after result done => result_of_run sanitized validated reports done
  · exact fun after x done => run_of_run_checked sanitized validated done

/-- A record with a field that is sanitized, one that is validated, one that has
only a label, and one that is not configured. -/
theorem run_spec_unknown :
    let engine : Engine :=
      ⟨[("note", ⟨"Remark", [], []⟩), ("age", ⟨"Age", [], [⟨"integer", [], none⟩]⟩),
          ("tag", ⟨"Tag", [⟨"trim", [], none⟩], []⟩)], [], .initial⟩
    let record : Record := [("tag", .string " a "), ("extra", .null), ("age", .string "7"), ("note", .string " ")]
    let out : Record := [("tag", .string "a"), ("extra", .null), ("age", .string "7"), ("note", .string " ")]
    engine.fields.keys.Nodup ∧ engine.sanitize record = .ok out ∧ ValidatorsReturn .newYear engine out ∧
      run .newYear engine record false = .ok (engine, some out) ∧
      ∃ after, run .newYear engine record true = .ok (after, none) ∧
        after.failures.map (fun failure => (failure.field, failure.kind)) =
          [("extra", .fieldMismatch), ("note", .fieldMismatch)] := by
  intro engine record out
  have nodup : engine.fields.keys.Nodup := by decide
  have sanitized : engine.sanitize record = .ok out := rfl
  have returns : ValidatorsReturn .newYear engine out :=
    (exists_failuresOf_iff nodup).mp (exists_ok_of_isOk (by decide +kernel))
  obtain ⟨failures, mismatched, reports, plain, checked, unknown, -⟩ := run_spec nodup sanitized returns
  have clean : failures = [] := reports.ordered.trans (by decide +kernel)
  have two : record.keys.filter engine.lacksRules = ["extra", "note"] := by decide
  rw [two] at unknown
  subst clean
  have some_mismatch : mismatched ≠ [] := by
    rintro rfl
    cases unknown
  rw [List.nil_append, if_neg some_mismatch] at checked
  exact ⟨nodup, sanitized, returns, plain, _, checked, unknown⟩

end RecordRules.Engine
