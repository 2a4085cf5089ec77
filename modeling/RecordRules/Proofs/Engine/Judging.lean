/-
What an engine remembers of the records that it judged.

* `Judging`: the calls that judge a record;
* `Judging.validateCall`, `Judging.runCall`: the same step by step, on an engine that
  keeps what is done to it, also by a call that fails afterwards;
* `Judging.on_validateCall`, `Judging.on_runCall`: they do what
  `Engine.validateWithVerdict` and `Engine.run` say, and a call that fails leaves the
  engine as it was;
* `Judging.after`: calls one after another; they change nothing but the failures
  that are recorded (`Judging.exists_after_eq`);
* `Engine.RunEnds`: a run fails neither in a sanitization nor in a validator;
* `Judging.run_fresh_iff`: what two engines with the same fields and the same
  registry say after the same run, whatever records they judged before.
-/
import RecordRules.Engine.Report
import RecordRules.Proofs.Engine.Running

namespace RecordRules

/-- A call that judges a record. The surroundings are those at the time of the
call. -/
inductive Judging where
  | validate (surroundings : Surroundings) (record : Record)
  | run (surroundings : Surroundings) (record : Record) (checkUnknown : Bool)

namespace Judging

/-! ### Calls -/

/-- What a call on an engine does: it changes the engine and may fail. Changes
that were made before it fails stay. -/
abbrev Call := ExceptT Fault (StateM Engine)

/-- The answer of a call, and the engine after it. -/
def Call.on {α : Type} (call : Call α) (engine : Engine) : Except Fault α × Engine := call.run.run engine

/-- Records the failures of a record in place of those that were recorded. -/
def recordFailures (surroundings : Surroundings) (record : Record) : Call Unit := do
  let engine ← get
  let failures ← ofExcept (Engine.failuresOf surroundings engine record)
  set { engine with failures := failures }

/-- Records the mismatches of a record behind what was recorded. -/
def recordMismatches (record : Record) : Call Unit :=
  modify fun engine => { engine with failures := engine.failures ++ engine.mismatches record }

/-- A validation, step by step. -/
def validateCall (surroundings : Surroundings) (record : Record) : Call (Except (List Failure) Unit) := do
  recordFailures surroundings record
  let engine ← get
  return engine.verdict

/-- A run, step by step. -/
def runCall (surroundings : Surroundings) (record : Record) (checkUnknown : Bool) : Call (Option Record) := do
  let engine ← get
  let sanitized ← ofExcept (engine.sanitize record)
  recordFailures surroundings sanitized
  if checkUnknown then recordMismatches sanitized
  let engine ← get
  return if engine.failures.isEmpty then some sanitized else none

/-- The engine after a call, whatever it answers. -/
def next : Judging → Engine → Engine
  | validate surroundings record, engine => ((validateCall surroundings record).on engine).2
  | run surroundings record checkUnknown, engine => ((runCall surroundings record checkUnknown).on engine).2

/-- The engine after calls one after another, also after one that fails. -/
def after (judgings : List Judging) (engine : Engine) : Engine :=
  judgings.foldl (fun engine judging => judging.next engine) engine

/-! ### What a call does -/

/-- What follows a recording is called with the engine that it leaves. -/
lemma on_recordFailures_bind {α : Type} (surroundings : Surroundings) (record : Record) (next : Call α)
    (engine : Engine) :
    (recordFailures surroundings record >>= fun _ => next).on engine =
      match Engine.failuresOf surroundings engine record with
      | .ok failures => next.on { engine with failures := failures }
      | .error e => (.error e, engine) := by
  have step : (recordFailures surroundings record >>= fun _ => next).on engine =
      ((ofExcept (Engine.failuresOf surroundings engine record) >>= fun failures =>
        set { engine with failures := failures }) >>= fun _ => next : Call α).on engine := rfl
  rw [step]
  cases Engine.failuresOf surroundings engine record <;> rfl

/-- A validation does what is said about it; one that fails leaves the engine as it
was. -/
theorem on_validateCall (surroundings : Surroundings) (record : Record) (engine : Engine) :
    (validateCall surroundings record).on engine =
      match Engine.validateWithVerdict surroundings engine record with
      | .ok (next, verdict) => (.ok verdict, next)
      | .error e => (.error e, engine) := by
  rw [validateCall, on_recordFailures_bind, Engine.validateWithVerdict, Engine.validate]
  cases Engine.failuresOf surroundings engine record <;> rfl

/-- A run does what is said about it; one that fails leaves the engine as it was,
also if it fails in a validator. -/
theorem on_runCall (surroundings : Surroundings) (record : Record) (checkUnknown : Bool) (engine : Engine) :
    (runCall surroundings record checkUnknown).on engine =
      match Engine.run surroundings engine record checkUnknown with
      | .ok (next, result) => (.ok result, next)
      | .error e => (.error e, engine) := by
  have step : (runCall surroundings record checkUnknown).on engine =
      (ofExcept (engine.sanitize record) >>= fun sanitized => do
        recordFailures surroundings sanitized
        if checkUnknown then recordMismatches sanitized
        let engine ← get
        return if engine.failures.isEmpty then some sanitized else none : Call (Option Record)).on engine := rfl
  rw [step, Engine.run]
  -- nothing is recorded before the record is sanitized and all its failures are there
  cases engine.sanitize record with
  | error e => rfl
  | ok sanitized =>
    refine (on_recordFailures_bind surroundings sanitized _ engine).trans ?_
    simp only [bind, Except.bind]
    cases Engine.failuresOf surroundings engine sanitized with
    | error e => rfl
    | ok failures => cases checkUnknown <;> rfl

/-! ### What calls leave behind -/

/-- A call changes nothing but the failures that are recorded. -/
lemma exists_next_eq (judging : Judging) (engine : Engine) :
    ∃ failures, judging.next engine = { engine with failures := failures } := by
  cases judging with
  | validate surroundings record =>
    rw [next, on_validateCall]
    cases done : Engine.validateWithVerdict surroundings engine record with
    | error e => exact ⟨engine.failures, rfl⟩
    | ok answer =>
      obtain ⟨after, validated, rfl⟩ := map_eq_ok_iff.mp done
      obtain ⟨failures, -, rfl⟩ := map_eq_ok_iff.mp validated
      exact ⟨failures, rfl⟩
  | run surroundings record checkUnknown =>
    rw [next, on_runCall]
    cases done : Engine.run surroundings engine record checkUnknown with
    | error e => exact ⟨engine.failures, rfl⟩
    | ok answer =>
      obtain ⟨out, failures, -, -, after, -⟩ := Engine.exists_of_run done
      exact ⟨_, after⟩

lemma exists_after_eq (judgings : List Judging) (engine : Engine) :
    ∃ failures, after judgings engine = { engine with failures := failures } := by
  induction judgings generalizing engine with
  | nil => exact ⟨engine.failures, rfl⟩
  | cons judging rest ih =>
    obtain ⟨first, stepped⟩ := exists_next_eq judging engine
    obtain ⟨failures, ended⟩ := ih (judging.next engine)
    refine ⟨failures, ?_⟩
    rw [after, List.foldl_cons, ← after, ended, stepped]

end Judging

namespace Engine

/-- A run over a record comes to its end: the record can be sanitized, and every
validator returns that is called on the sanitized record. -/
def RunEnds (surroundings : Surroundings) (engine : Engine) (record : Record) : Prop :=
  ∃ out, engine.sanitize record = .ok out ∧ ValidatorsReturn surroundings engine out

end Engine

namespace Judging

variable {surroundings : Surroundings} {engine : Engine} {record : Record}

/-- A run that comes to its end records what the sanitized record fails by, whatever
was recorded before. -/
lemma runCall_of_runEnds (nodup : engine.fields.keys.Nodup) (ends : Engine.RunEnds surroundings engine record)
    (checkUnknown : Bool) :
    ∃ out failures, engine.sanitize record = .ok out ∧ Engine.Reports surroundings engine out failures ∧
      ∃ answer, ∀ before, (runCall surroundings record checkUnknown).on { engine with failures := before } =
        (.ok answer, { engine with failures := engine.recorded failures out checkUnknown }) := by
  obtain ⟨out, sanitized, returns⟩ := ends
  obtain ⟨failures, validated⟩ := (Engine.exists_failuresOf_iff nodup).mpr returns
  refine ⟨out, failures, sanitized, Engine.reports_of_failuresOf nodup validated,
    if engine.recorded failures out checkUnknown = [] then some out else none, fun before => ?_⟩
  have ran : Engine.run surroundings { engine with failures := before } record checkUnknown = _ :=
    Engine.run_eq_ok sanitized validated checkUnknown
  rw [on_runCall, ran]
  rfl

/-- A run that does not come to its end leaves what was recorded before. -/
lemma runCall_of_not_runEnds (nodup : engine.fields.keys.Nodup)
    (broken : ¬ Engine.RunEnds surroundings engine record) (checkUnknown : Bool) :
    ∃ e, ∀ before, (runCall surroundings record checkUnknown).on { engine with failures := before } =
      (.error e, { engine with failures := before }) := by
  cases done : Engine.run surroundings engine record checkUnknown with
  | error e =>
    refine ⟨e, fun before => ?_⟩
    have failed : Engine.run surroundings { engine with failures := before } record checkUnknown = .error e := done
    rw [on_runCall, failed]
  | ok answer =>
    obtain ⟨out, failures, sanitized, validated, -, -⟩ := Engine.exists_of_run done
    exact absurd ⟨out, sanitized, (Engine.exists_failuresOf_iff nodup).mp ⟨failures, validated⟩⟩ broken

/-- **When a run starts fresh.** The same run on two engines with the same fields
and the same registry has the same answer, whatever they judged before. If it comes
to its end, both record what the sanitized record fails by, and nothing of earlier
records. If it does not, both are left as they were, with what they recorded before.
So they have the same failures after it iff the run comes to its end or they had the
same failures before it; and then there is no difference left between them. -/
theorem run_fresh_iff {one two : Engine} (fields : two.fields = one.fields)
    (registry : two.registry = one.registry) (nodup : one.fields.keys.Nodup) (calls others : List Judging)
    (surroundings : Surroundings) (record : Record) (checkUnknown : Bool) :
    let first := (runCall surroundings record checkUnknown).on (after calls one)
    let second := (runCall surroundings record checkUnknown).on (after others two)
    first.1 = second.1 ∧
      (first.2.failures = second.2.failures ↔
        Engine.RunEnds surroundings one record ∨ (after calls one).failures = (after others two).failures) ∧
      (first.2.failures = second.2.failures → first.2 = second.2) ∧
      (Engine.RunEnds surroundings one record → ∃ out failures, one.sanitize record = .ok out ∧
        Engine.Reports surroundings one out failures ∧
        first.2 = { one with failures := one.recorded failures out checkUnknown }) ∧
      (¬ Engine.RunEnds surroundings one record → first.2 = after calls one ∧ second.2 = after others two) := by
  obtain ⟨before, one_after⟩ := exists_after_eq calls one
  obtain ⟨before', two_after⟩ := exists_after_eq others two
  rw [fields, registry] at two_after
  -- now the two engines differ in nothing but what they recorded before
  dsimp only
  rw [one_after, two_after]
  by_cases ends : Engine.RunEnds surroundings one record
  · obtain ⟨out, failures, sanitized, reports, answer, ran⟩ := runCall_of_runEnds nodup ends checkUnknown
    rw [ran before, ran before']
    exact ⟨rfl, iff_of_true rfl (.inl ends), fun _ => rfl, fun _ => ⟨out, failures, sanitized, reports, rfl⟩,
      fun broken => absurd ends broken⟩
  · obtain ⟨e, ran⟩ := runCall_of_not_runEnds nodup ends checkUnknown
    rw [ran before, ran before']
    have same_iff : before = before' ↔ Engine.RunEnds surroundings one record ∨ before = before' :=
      ⟨.inr, fun h => h.resolve_left ends⟩
    refine ⟨rfl, same_iff, fun same => ?_, fun ended => absurd ended ends, fun _ => ⟨rfl, rfl⟩⟩
    have same : before = before' := same
    rw [same]

/-- A record that fails, and after it one with a field whose sanitization is not
known, or without that field. -/
theorem run_fresh_iff_unknown :
    let engine : Engine :=
      ⟨[("name", ⟨"Name", [], [⟨"required", [], none⟩]⟩), ("note", ⟨"Note", [⟨"nosuch", [], none⟩], []⟩)],
        [], .initial⟩
    let nameless : Judging := .validate .newYear []
    engine.fields.keys.Nodup ∧
      (after [nameless] engine).failures ≠ (after [] engine).failures ∧
      ((runCall .newYear [("note", .null)] false).on (after [nameless] engine)).2.failures ≠
        ((runCall .newYear [("note", .null)] false).on (after [] engine)).2.failures ∧
      ((runCall .newYear [("name", .null)] true).on (after [nameless] engine)).2 =
        ((runCall .newYear [("name", .null)] true).on (after [] engine)).2 := by
  intro engine nameless
  have nodup : engine.fields.keys.Nodup := by decide
  have differ : (after [nameless] engine).failures ≠ (after [] engine).failures := by decide +kernel
  have broken : ¬ Engine.RunEnds .newYear engine [("note", .null)] := by
    rintro ⟨out, sanitized, -⟩
    cases sanitized
  have ends : Engine.RunEnds .newYear engine [("name", .null)] :=
    ⟨[("name", .null)], rfl, (Engine.exists_failuresOf_iff nodup).mp (exists_ok_of_isOk (by decide +kernel))⟩
  obtain ⟨-, same_iff, -⟩ :=
    run_fresh_iff rfl rfl nodup [nameless] [] .newYear [("note", .null)] false
  obtain ⟨-, same_iff', agree, -⟩ :=
    run_fresh_iff rfl rfl nodup [nameless] [] .newYear [("name", .null)] true
  refine ⟨nodup, differ, fun same => ?_, agree (same_iff'.mpr (.inl ends))⟩
  exact (same_iff.mp same).elim broken differ

/-- A run over a record with a sanitization that is not known leaves the failures of
the record before. -/
theorem not_run_fresh :
    ¬ ∀ (engine : Engine), engine.Reachable → ∀ (calls others : List Judging) (surroundings : Surroundings)
      (record : Record) (checkUnknown : Bool),
      let first := (runCall surroundings record checkUnknown).on (after calls engine)
      let second := (runCall surroundings record checkUnknown).on (after others engine)
      first.2.failures = second.2.failures ∧
        (∀ markup, first.2.sentences markup = second.2.sentences markup) ∧ first.2.display = second.2.display := by
  intro fresh
  let start : Engine := Engine.ofRegistry .initial
  let field : FieldRules := ⟨Label.humanize "name", [], [⟨"required", [], none⟩]⟩
  have read : Engine.readRules .validation [("name", "required")] = .ok [("name", field.validations)] := by
    decide +kernel
  have read' : Engine.readRules .sanitization [("note", "nosuch")] = .ok [("note", [⟨"nosuch", [], none⟩])] := by
    decide +kernel
  have validated : start.setValidations [("name", "required")] = .ok ⟨[("name", field)], [], .initial⟩ :=
    bind_eq_ok_iff.mpr ⟨_, read, rfl⟩
  have sanitized : Engine.setSanitizations ⟨[("name", field)], [], .initial⟩ .after [("note", "nosuch")] =
      .ok ⟨[("name", field), ("note", ⟨Label.humanize "note", [⟨"nosuch", [], none⟩], []⟩)], [], .initial⟩ :=
    bind_eq_ok_iff.mpr ⟨_, read', rfl⟩
  have reached := ((Engine.Reachable.ofRegistry _).setValidations validated).setSanitizations sanitized
  have same := (fresh _ reached [.validate .newYear []] [] .newYear [("note", .null)] false).1
  exact absurd same (by decide +kernel)

end Judging

end RecordRules
