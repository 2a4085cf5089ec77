/-
The table of rules tells what a run does.

* `Rule.IsRead`, `Engine.Reachable.areRead`: every rule of an engine was read from a text,
  so that its name is in lower case;
* `RuleRow.isUnknown`: a row shows that its rule stands for nothing;
* `RuleRow.Shows`: what a row shows of a failure by its rule;
* `Engine.unresolved_eq_map`: the unresolved sanitizations by their rows;
* `Engine.shows_failureOfRow?`, `RuleRow.unknown_of_forall₂`: the failures by their rows;
* `Engine.ruleRows_run`: what the table tells of a run.
-/
import RecordRules.Engine.RuleTable
import RecordRules.Proofs.Engine.Running
import RecordRules.Proofs.Rule.RoundTrip

namespace RecordRules

/-! ### Rules that were read -/

/-- A rule was read from a text. -/
def Rule.IsRead (kind : RuleKind) (rule : Rule) : Prop :=
  ∃ text rules, Rule.parse kind text = .ok rules ∧ rule ∈ rules

/-- A rule that was read has a name in lower case. -/
lemma Rule.IsRead.name_lower {kind : RuleKind} {rule : Rule} (h : rule.IsRead kind) :
    Text.lowerString rule.name = rule.name := by
  obtain ⟨text, rules, read, mem⟩ := h
  exact (Rule.parse_legible read rule mem).1.name_lower

lemma Rule.isRead_of_ofOptional {kind : RuleKind} {text : Option String} {rules : List Rule}
    (read : Rule.ofOptional kind text = .ok rules) : ∀ rule ∈ rules, rule.IsRead kind := by
  intro rule mem
  cases text with
  | none =>
    cases read
    cases mem
  | some text =>
    rw [Rule.ofOptional] at read
    split at read
    · cases read
      cases mem
    · exact ⟨text, rules, read, mem⟩

namespace FieldRules

variable {field : FieldRules} {rules : List Rule}

/-- The rules of a field were read from texts. -/
structure AreRead (field : FieldRules) : Prop where
  sanitizations : ∀ rule ∈ field.sanitizations, rule.IsRead .sanitization
  validations : ∀ rule ∈ field.validations, rule.IsRead .validation

lemma areRead_ofId (id : String) : (ofId id).AreRead := ⟨nofun, nofun⟩

lemma mem_add {placement : Placement} {old added : List Rule} {rule : Rule} :
    rule ∈ placement.add old added ↔ rule ∈ old ∨ rule ∈ added := by
  cases placement with
  | before => rw [Placement.add, List.mem_append, or_comm]
  | after => rw [Placement.add, List.mem_append]

namespace AreRead

lemma withLabel (h : field.AreRead) (label : String) : (field.withLabel label).AreRead := ⟨h.1, h.2⟩

lemma addSanitizations (h : field.AreRead) (placement : Placement)
    (read : ∀ rule ∈ rules, rule.IsRead .sanitization) :
    (field.addSanitizations placement rules).AreRead :=
  ⟨fun rule mem => (mem_add.mp mem).elim (h.1 rule) (read rule), h.2⟩

lemma addValidations (h : field.AreRead) (placement : Placement)
    (read : ∀ rule ∈ rules, rule.IsRead .validation) : (field.addValidations placement rules).AreRead :=
  ⟨h.1, fun rule mem => (mem_add.mp mem).elim (h.2 rule) (read rule)⟩

lemma addition {spec : FieldSpec} {addition : Engine.Addition} (h : field.AreRead)
    (read : Engine.Addition.ofSpec spec = .ok addition) : (addition.addTo field).AreRead := by
  obtain ⟨sanitizations, first, rest⟩ := bind_eq_ok_iff.mp read
  obtain ⟨validations, second, made⟩ := bind_eq_ok_iff.mp rest
  cases made
  refine AreRead.addValidations (AreRead.addSanitizations ?_ .after (Rule.isRead_of_ofOptional first)) .after
    (Rule.isRead_of_ofOptional second)
  cases spec.label with
  | none => exact h
  | some label => exact h.withLabel label

end AreRead

end FieldRules

namespace Engine

variable {engine : Engine}

/-- What holds of every field holds of every field after changes that keep it. -/
lemma forall_fieldOf_foldl_changeField {α : Type} {P : FieldRules → Prop} {f : α → FieldRules → FieldRules}
    {added : Keyed α} (kept : ∀ m ∈ added, ∀ field, P field → P (f m.2 field))
    (h : ∀ id, P (engine.fieldOf id)) (id : String) :
    P ((added.foldl (fun engine (key, a) => engine.changeField key (f a)) engine).fieldOf id) := by
  rw [fieldOf_foldl_changeField]
  exact List.foldlRecOn _ _ (h id) fun field there a mem =>
    kept (id, a) (Keyed.mem_all_iff.mp mem) field there

lemma isRead_of_readRules {kind : RuleKind} {texts : List (String × String)} {added : Keyed (List Rule)}
    (read : readRules kind texts = .ok added) : ∀ m ∈ added, ∀ rule ∈ m.2, rule.IsRead kind := by
  intro m mem
  obtain ⟨entry, -, own⟩ := exists_of_mem_mapM read mem
  obtain ⟨rules, own_read, rfl⟩ := map_eq_ok_iff.mp own
  exact Rule.isRead_of_ofOptional own_read

/-- **Every rule of an engine was read from a text.** -/
theorem Reachable.areRead (h : engine.Reachable) (id : String) : (engine.fieldOf id).AreRead := by
  induction h generalizing id with
  | ofRegistry => exact FieldRules.areRead_ofId id
  | withRegistry _ _ ih => exact ih id
  | configure _ done ih =>
    obtain ⟨additions, read, done⟩ := bind_eq_ok_iff.mp done
    cases done
    refine forall_fieldOf_foldl_changeField (fun m mem field there => ?_) ih id
    obtain ⟨entry, -, own⟩ := exists_of_mem_mapM read mem
    obtain ⟨addition, own_read, rfl⟩ := map_eq_ok_iff.mp own
    exact there.addition own_read
  | setLabels _ labels ih =>
    exact forall_fieldOf_foldl_changeField (f := fun label => (·.withLabel label))
      (fun m _ field there => there.withLabel m.2) ih id
  | @setSanitizations _ _ placement _ _ done ih =>
    obtain ⟨added, read, done⟩ := bind_eq_ok_iff.mp done
    cases done
    exact forall_fieldOf_foldl_changeField (f := fun rules => (·.addSanitizations placement rules))
      (fun m mem field there => there.addSanitizations placement (isRead_of_readRules read m mem)) ih id
  | setValidations _ done ih =>
    obtain ⟨added, read, done⟩ := bind_eq_ok_iff.mp done
    cases done
    exact forall_fieldOf_foldl_changeField (f := fun rules => (·.addValidations .after rules))
      (fun m mem field there => there.addValidations .after (isRead_of_readRules read m mem)) ih id
  | clearSanitizations _ ids ih =>
    rw [Engine.clearSanitizations,
      fieldOf_changeFields (f := FieldRules.clearSanitizations) (fun _ => rfl) (fun _ => rfl)]
    split
    · exact ⟨nofun, (ih id).2⟩
    · exact ih id
  | clearValidations _ ids ih =>
    rw [Engine.clearValidations,
      fieldOf_changeFields (f := FieldRules.clearValidations) (fun _ => rfl) (fun _ => rfl)]
    split
    · exact ⟨(ih id).1, nofun⟩
    · exact ih id
  | validate _ done ih =>
    rw [fieldOf, field?, fields_validate done]
    exact ih id
  | run _ done ih =>
    rw [fieldOf, field?, fields_run done]
    exact ih id

lemma Reachable.areRead_of_mem (h : engine.Reachable) {id : String} {field : FieldRules}
    (mem : (id, field) ∈ engine.fields) : field.AreRead := by
  have read := h.areRead id
  rwa [fieldOf_of_mem h.nodup_fields mem] at read

end Engine

/-! ### What a row shows -/

namespace RuleRow

variable {row : RuleRow} {failure : Failure}

/-- The last cell of a row shows that its rule stands for nothing. -/
def isUnknown (row : RuleRow) : Bool := row.cells.getLast? == some unknown

lemma getLast?_cells (row : RuleRow) : row.cells.getLast? = some row.resolutionText := rfl

/-- A resolved name and its origin do not look like the word for unknown ones. -/
lemma append_ne_unknown (name origin : String) : name ++ " (" ++ origin ++ ")" ≠ unknown := by
  intro same
  have blank : ' ' ∈ unknown.toList := by
    rw [← same]
    simp
  exact absurd blank (by decide)

lemma isUnknown_iff_text : row.isUnknown = true ↔ row.resolutionText = unknown := by
  rw [isUnknown, getLast?_cells, beq_iff_eq, Option.some.injEq]

lemma isUnknown_iff : row.isUnknown = true ↔ row.resolution = none := by
  rw [isUnknown_iff_text, resolutionText]
  cases row.resolution with
  | none => exact iff_of_true rfl rfl
  | some known => exact iff_of_false (append_ne_unknown known.1 known.2) nofun

/-- What a row shows of a failure by its rule: the field and the arguments; of a rule that
is unknown the name that was written, and of a rule that failed the resolved name. -/
structure Shows (row : RuleRow) (failure : Failure) : Prop where
  field : failure.field = row.field
  arguments : failure.arguments = row.rule.arguments
  outcome :
    (failure.kind = .unknownRule ∧ failure.ruleName = row.rule.name ∧ row.resolutionText = unknown) ∨
      failure.kind = .ruleFailed ∧ ∃ origin ∈ ["builtin", "custom"],
        row.resolutionText = failure.ruleName ++ " (" ++ origin ++ ")"

lemma Shows.kind_iff (h : row.Shows failure) : failure.kind = .unknownRule ↔ row.isUnknown = true := by
  rw [isUnknown_iff_text]
  rcases h.outcome with ⟨kind, -, text⟩ | ⟨kind, origin, -, text⟩
  · exact iff_of_true kind text
  · rw [kind, text]
    exact iff_of_false nofun (append_ne_unknown _ _)

/-- The failures by unknown rules are those whose rows show it. -/
lemma unknown_of_forall₂ {rows : List RuleRow} {failures : List Failure}
    (shows : List.Forall₂ Shows rows failures) :
    (failures.filter (·.kind = .unknownRule)).map
        (fun failure => (failure.field, failure.ruleName, failure.arguments)) =
      (rows.filter (·.isUnknown)).map fun row => (row.field, row.rule.name, row.rule.arguments) := by
  induction shows with
  | nil => rfl
  | @cons row failure rows failures first _ ih =>
    have kind := first.kind_iff
    rcases first.outcome with ⟨unknown, name, -⟩ | ⟨failed, -⟩
    · rw [List.filter_cons_of_pos (by simpa using unknown), List.filter_cons_of_pos (kind.mp unknown),
        List.map_cons, List.map_cons, ih, first.field, name, first.arguments]
    · have known : failure.kind ≠ .unknownRule := by rw [failed]; exact nofun
      rw [List.filter_cons_of_neg (by simpa using known), List.filter_cons_of_neg (mt kind.mpr known), ih]

end RuleRow

namespace Registry

variable {registry : Registry} {rule : Rule}

lemma resolution_sanitization_eq_none_iff :
    registry.resolution .sanitization rule = none ↔ registry.lacks rule = true := by
  rw [resolution]
  cases missing : registry.lacks rule with
  | true => rw [sanitizer_of_lacks missing]; exact iff_of_true rfl rfl
  | false =>
    obtain ⟨resolved, found⟩ := sanitizer_of_not_lacks missing
    rw [found]
    exact iff_of_false nofun Bool.false_ne_true

lemma resolution_validation_eq_none_iff :
    registry.resolution .validation rule = none ↔ registry.validator? rule.name rule.arguments = none := by
  rw [resolution, Option.map_eq_none_iff]

lemma resolution_validation_of_some {resolved : Resolved ValidatorRule}
    (h : registry.validator? rule.name rule.arguments = some resolved) :
    registry.resolution .validation rule = some (resolved.name, resolved.rule.origin) := by
  rw [resolution, h]
  rfl

end Registry

namespace Engine

variable {engine : Engine} {surroundings : Surroundings} {record : Record}

/-! ### Sanitizations -/

/-- The rows of one kind. -/
def rowsOfKind (engine : Engine) (kind : RuleKind) : List RuleRow := engine.ruleRows.filter (·.kind = kind)

/-- The rows of one kind, field by field. -/
lemma rowsOfKind_eq (engine : Engine) :
    engine.rowsOfKind .sanitization = (engine.fields.flatMap fun (id, field) =>
        engine.rowsOf id field .sanitization field.sanitizations) ∧
      engine.rowsOfKind .validation = engine.fields.flatMap fun (id, field) =>
        engine.rowsOf id field .validation field.validations := by
  have own : ∀ id field kind (rules : List Rule),
      (engine.rowsOf id field kind rules).filter (·.kind = kind) = engine.rowsOf id field kind rules := by
    intro id field kind rules
    exact List.filter_eq_self.mpr fun row mem => by
      obtain ⟨rule, -, rfl⟩ := List.mem_map.mp mem
      exact decide_eq_true rfl
  have foreign : ∀ id field kind other (rules : List Rule), kind ≠ other →
      (engine.rowsOf id field kind rules).filter (·.kind = other) = [] := by
    intro id field kind other rules differ
    exact List.filter_eq_nil_iff.mpr fun row mem => by
      obtain ⟨rule, -, rfl⟩ := List.mem_map.mp mem
      simpa using differ
  rw [rowsOfKind, rowsOfKind, ruleRows, List.filter_flatMap, List.filter_flatMap]
  constructor
  · refine List.flatMap_congr fun m _ => ?_
    rw [List.filter_append, own, foreign _ _ _ _ _ (by decide), List.append_nil]
  · refine List.flatMap_congr fun m _ => ?_
    rw [List.filter_append, own, foreign _ _ _ _ _ (by decide), List.nil_append]

/-- The rows of the unknown sanitizations of the given fields. -/
def unknownSanitizations (engine : Engine) (ids : List String) : List RuleRow :=
  (engine.rowsOfKind .sanitization).filter fun row => row.field ∈ ids && row.isUnknown

/-- The rows of the unknown validations. -/
def unknownValidations (engine : Engine) : List RuleRow :=
  (engine.rowsOfKind .validation).filter (·.isUnknown)

/-- The unresolved sanitizations of some fields are those whose rows show it. -/
lemma unresolved_eq_map (engine : Engine) (ids : List String) :
    engine.unresolved ids = (engine.unknownSanitizations ids).map (·.rule) := by
  rw [unresolved, unresolvedIn, unknownSanitizations, engine.rowsOfKind_eq.1, List.filter_flatMap,
    List.map_flatMap]
  refine List.flatMap_congr fun m _ => ?_
  obtain ⟨id, field⟩ := m
  have shown : (fun row : RuleRow => decide (row.field ∈ ids) && row.isUnknown) ∘
        (fun rule => ⟨id, field.label, .sanitization, rule, engine.registry.resolution .sanitization rule⟩) =
      fun rule => decide (id ∈ ids) && engine.registry.lacks rule := by
    funext rule
    exact congrArg (decide (id ∈ ids) && ·)
      (Bool.eq_iff_iff.mpr (RuleRow.isUnknown_iff.trans Registry.resolution_sanitization_eq_none_iff))
  dsimp only
  rw [rowsOf, List.filter_map, List.map_map, shown]
  have itself : (RuleRow.rule ∘ fun rule => (⟨id, field.label, .sanitization, rule,
      engine.registry.resolution .sanitization rule⟩ : RuleRow)) = fun rule => rule := rfl
  rw [itself, List.map_id']
  split
  · next there => simp only [there, decide_true, Bool.true_and]
  · next absent => simp only [absent, decide_false, Bool.false_and, List.filter_false]

/-! ### Validations -/

/-- The failure that a row records, if its rule fails. -/
def failureOfRow? (surroundings : Surroundings) (engine : Engine) (record : Record) (row : RuleRow) :
    Option Failure :=
  failureBy? surroundings engine record row.field row.rule

/-- The failures of a validation are those by the rows of the validations. -/
lemma flatMap_failuresBy_eq :
    (engine.fields.flatMap fun (id, field) => failuresBy surroundings engine record id field.validations) =
      (engine.rowsOfKind .validation).filterMap (failureOfRow? surroundings engine record) := by
  rw [engine.rowsOfKind_eq.2, List.filterMap_flatMap]
  refine List.flatMap_congr fun m _ => ?_
  obtain ⟨id, field⟩ := m
  dsimp only
  rw [rowsOf, List.filterMap_map]
  rfl

lemma resolution_of_mem {kind : RuleKind} {row : RuleRow} (mem : row ∈ engine.rowsOfKind kind) :
    row.resolution = engine.registry.resolution kind row.rule := by
  obtain ⟨mem, same⟩ := List.mem_filter.mp mem
  obtain ⟨⟨id, field⟩, -, mem⟩ := List.mem_flatMap.mp mem
  rw [← of_decide_eq_true same]
  rcases List.mem_append.mp mem with mem | mem <;>
    · obtain ⟨rule, -, rfl⟩ := List.mem_map.mp mem
      rfl

/-- The row of a validation shows the failure that it records. -/
lemma shows_failureOfRow? {row : RuleRow} (mem : row ∈ engine.rowsOfKind .validation) {failure : Failure}
    (failed : failureOfRow? surroundings engine record row = some failure) : row.Shows failure := by
  have resolution := resolution_of_mem mem
  rw [failureOfRow?, failureBy?] at failed
  split at failed
  · next judged =>
    subst failed
    rcases judge_eq_some_iff.mp judged with ⟨unknown, rfl⟩ | ⟨resolved, found, -, -, rfl⟩
    · rw [Registry.resolution_validation_eq_none_iff.mpr unknown] at resolution
      refine ⟨rfl, rfl, .inl ⟨rfl, rfl, ?_⟩⟩
      rw [RuleRow.resolutionText, resolution]
    · rw [Registry.resolution_validation_of_some found] at resolution
      refine ⟨rfl, rfl, .inr ⟨rfl, resolved.rule.origin, ?_, ?_⟩⟩
      · cases resolved.rule with
        | builtin => exact List.mem_cons_self
        | custom => exact List.mem_cons_of_mem _ List.mem_cons_self
      · rw [RuleRow.resolutionText, resolution]
        rfl
  · cases failed

/-- A validation whose row shows that it is unknown always fails. -/
lemma exists_failureOfRow? {row : RuleRow} (mem : row ∈ engine.rowsOfKind .validation)
    (unknown : row.isUnknown = true) :
    ∃ failure, failureOfRow? surroundings engine record row = some failure := by
  rw [RuleRow.isUnknown_iff, resolution_of_mem mem, Registry.resolution_validation_eq_none_iff] at unknown
  rw [failureOfRow?, failureBy?, judge_eq_some_iff.mpr (.inl ⟨unknown, rfl⟩)]
  exact ⟨_, rfl⟩

/-- The rows of a list that record failures, and the failures, one by one. -/
lemma forall₂_filterMap {rows : List RuleRow} {record? : RuleRow → Option Failure}
    (shows : ∀ row ∈ rows, ∀ failure, record? row = some failure → row.Shows failure) :
    List.Forall₂ RuleRow.Shows (rows.filter fun row => (record? row).isSome) (rows.filterMap record?) := by
  induction rows with
  | nil => exact .nil
  | cons row rest ih =>
    obtain ⟨first, others⟩ := List.forall_mem_cons.mp shows
    cases recorded : record? row with
    | none =>
      rw [List.filterMap_cons_none recorded, List.filter_cons_of_neg (by simp [recorded])]
      exact ih others
    | some failure =>
      rw [List.filterMap_cons_some recorded, List.filter_cons_of_pos (by simp [recorded])]
      exact .cons (first failure recorded) (ih others)

/-- The names of rules are shown as they are in faults. -/
lemma name_lower_of_mem (reached : engine.Reachable) {kind : RuleKind} {row : RuleRow}
    (mem : row ∈ engine.rowsOfKind kind) : Text.lowerString row.rule.name = row.rule.name := by
  obtain ⟨⟨id, field⟩, configured, mem⟩ := List.mem_flatMap.mp (List.mem_filter.mp mem).1
  have read := reached.areRead_of_mem configured
  rcases List.mem_append.mp mem with mem | mem
  · obtain ⟨rule, own, rfl⟩ := List.mem_map.mp mem
    exact (read.sanitizations rule own).name_lower
  · obtain ⟨rule, own, rfl⟩ := List.mem_map.mp mem
    exact (read.validations rule own).name_lower

/-- The failures of the validation among those that a run records. -/
lemma filter_recorded (engine : Engine) {failures : List Failure}
    (own : ∀ failure ∈ failures, failure.kind ≠ .fieldMismatch) (out : Record) (checkUnknown : Bool) :
    (engine.recorded failures out checkUnknown).filter (·.kind ≠ .fieldMismatch) = failures := by
  have kept : failures.filter (·.kind ≠ .fieldMismatch) = failures :=
    List.filter_eq_self.mpr fun failure mem => by simpa using own failure mem
  have dropped : (engine.mismatches out).filter (·.kind ≠ .fieldMismatch) = [] :=
    List.filter_eq_nil_iff.mpr fun failure mem => by simpa using (of_mem_mismatches mem).1
  rw [recorded]
  split
  · rw [List.filter_append, kept, dropped, List.append_nil]
  · exact kept

/-- **The table of rules tells what a run does.** The rows of the table are, in order, one
for each rule of each field, its sanitizations before its validations. In a run in which
every rule that is called returns, the first unknown sanitization of a field that the record
has is the fault, by the name that its row shows; and without one the run comes to its end.
Then each failure of the validation belongs to the row of a validation, in the order of the
rows: a rule that failed has the resolved name that its row shows, and the unknown rules are
all the validations that their rows show to be unknown, whatever the record holds. -/
theorem ruleRows_run (reached : engine.Reachable) (returns : RulesReturn surroundings engine record)
    (checkUnknown : Bool) :
    (engine.ruleTable.rows = engine.ruleRows.map RuleRow.cells ∧
      (engine.ruleRows.map fun row => (row.field, row.kind, row.rule)) =
        engine.fields.flatMap fun (id, field) =>
          field.sanitizations.map (id, RuleKind.sanitization, ·) ++
            field.validations.map (id, RuleKind.validation, ·)) ∧
      (∀ name, run surroundings engine record checkUnknown = .error (.unknownFilter name) ↔
        ∃ row, (engine.unknownSanitizations record.keys).head? = some row ∧ row.rule.name = name) ∧
      ((∀ name, run surroundings engine record checkUnknown ≠ .error (.unknownFilter name)) →
        ∃ next result, run surroundings engine record checkUnknown = .ok (next, result) ∧
          (∃ rows, rows.Sublist (engine.rowsOfKind .validation) ∧
            List.Forall₂ RuleRow.Shows rows (next.failures.filter (·.kind ≠ .fieldMismatch))) ∧
          ((next.failures.filter (·.kind = .unknownRule)).map fun failure =>
              (failure.field, failure.ruleName, failure.arguments)) =
            engine.unknownValidations.map fun row => (row.field, row.rule.name, row.rule.arguments)) := by
  refine ⟨⟨rfl, ?_⟩, ?_⟩
  · simp only [ruleRows, rowsOf, List.map_flatMap, List.map_append, List.map_map]
    rfl
  rcases returns.run_cases reached.nodup_fields with
    ⟨rule, first, failed⟩ | ⟨none, out, failures, -, reports, done⟩
  · rw [unresolved_eq_map, List.head?_map, Option.map_eq_some_iff] at first
    obtain ⟨row, first, rfl⟩ := first
    have shown := name_lower_of_mem reached (List.mem_filter.mp (List.mem_of_head? first)).1
    rw [failed checkUnknown, shown, first]
    refine ⟨fun name => ?_, fun other => absurd rfl (other row.rule.name)⟩
    rw [Except.error.injEq, Fault.unknownFilter.injEq]
    exact ⟨fun same => ⟨row, rfl, same⟩, fun ⟨_, same, named⟩ => by cases same; exact named⟩
  · rw [unresolved_eq_map, List.map_eq_nil_iff] at none
    rw [done checkUnknown, none]
    refine ⟨fun name => ⟨nofun, fun ⟨_, absent, _⟩ => nomatch absent⟩, fun _ => ⟨_, _, rfl, ?_⟩⟩
    have own : ∀ failure ∈ failures, failure.kind ≠ .fieldMismatch :=
      fun _ mem => (reports.of_mem reached.nodup_fields mem).1
    have ordered : failures =
        (engine.rowsOfKind .validation).filterMap (failureOfRow? surroundings engine out) :=
      reports.ordered.trans flatMap_failuresBy_eq
    have shows := forall₂_filterMap fun row => @shows_failureOfRow? engine surroundings out row
    rw [← ordered] at shows
    dsimp only
    refine ⟨⟨_, List.filter_sublist, (filter_recorded engine own out checkUnknown).symm ▸ shows⟩, ?_⟩
    have unknown : (engine.recorded failures out checkUnknown).filter (·.kind = .unknownRule) =
        failures.filter (·.kind = .unknownRule) := by
      conv_rhs => rw [← filter_recorded engine own out checkUnknown, List.filter_filter]
      refine List.filter_congr fun failure _ => ?_
      cases failure.kind <;> rfl
    rw [unknown, RuleRow.unknown_of_forall₂ shows, List.filter_filter, unknownValidations]
    congr 1
    refine List.filter_congr fun row mem => ?_
    cases shown : row.isUnknown with
    | false => rfl
    | true =>
      obtain ⟨failure, recorded⟩ := exists_failureOfRow? mem shown
      rw [recorded]
      rfl

/-- A table with three unknown rules. A record without the field of the unknown sanitization
has two failures by unknown rules, also for the field that it lacks; a record with this field
is not sanitized. -/
theorem ruleRows_run_nosuch :
    let engine : Engine :=
      ⟨[("age", ⟨Label.humanize "age", [], [⟨"int", [], none⟩, ⟨"nosuch", ["1"], none⟩]⟩),
          ("nick", ⟨Label.humanize "nick", [⟨"trim", [], none⟩, ⟨"shout", [], none⟩],
            [⟨"nosuch", [], none⟩]⟩)], [], .initial⟩
    let record : Record := [("age", .string "x")]
    engine.ruleRows.map RuleRow.resolutionText =
        ["integer (builtin)", "unknown", "trim (builtin)", "unknown", "unknown"] ∧
      engine.Reachable ∧ RulesReturn .newYear engine record ∧
      (∃ next result, run .newYear engine record false = .ok (next, result) ∧
        (next.failures.filter (·.kind = .unknownRule)).map
            (fun failure => (failure.field, failure.ruleName, failure.arguments)) =
          [("age", "nosuch", ["1"]), ("nick", "nosuch", [])]) ∧
      RulesReturn .newYear engine (("nick", .null) :: record) ∧
      run .newYear engine (("nick", .null) :: record) false = .error (.unknownFilter "shout") := by
  intro engine record
  let validations := [("age", "int|nosuch:1"), ("nick", "nosuch")]
  have read : readRules .validation validations =
      .ok [("age", [⟨"int", [], none⟩, ⟨"nosuch", ["1"], none⟩]), ("nick", [⟨"nosuch", [], none⟩])] := by
    decide +kernel
  have read' : readRules .sanitization [("nick", "trim|shout")] =
      .ok [("nick", [⟨"trim", [], none⟩, ⟨"shout", [], none⟩])] := by decide +kernel
  have validated : (ofRegistry .initial).setValidations validations = .ok { engine with
      fields := engine.fields.map fun (id, field) => (id, field.clearSanitizations) } :=
    bind_eq_ok_iff.mpr ⟨_, read, rfl⟩
  have sanitized : Engine.setSanitizations { engine with
      fields := engine.fields.map fun (id, field) => (id, field.clearSanitizations) } .after
        [("nick", "trim|shout")] = .ok engine := bind_eq_ok_iff.mpr ⟨_, read', rfl⟩
  have reached : engine.Reachable := ((Reachable.ofRegistry _).setValidations validated).setSanitizations sanitized
  obtain ⟨⟨next, result⟩, done⟩ :=
    exists_ok_of_isOk (x := run .newYear engine record false) (by decide +kernel)
  have returns : RulesReturn .newYear engine record := .of_run reached.nodup_fields done
  have stopped : engine.sanitize (("nick", .null) :: record) = .error (.unknownFilter "shout") := by rfl
  have returns' : RulesReturn .newYear engine (("nick", .null) :: record) := by
    refine ⟨sanitize_ne_insideCharacter_iff.mp ?_, ?_⟩ <;> rw [stopped] <;> exact nofun
  obtain ⟨-, -, ends⟩ := ruleRows_run reached returns false
  obtain ⟨-, faults, -⟩ := ruleRows_run reached returns' false
  have goes : ∀ name, run .newYear engine record false ≠ .error (.unknownFilter name) := by
    intro name failed
    rw [done] at failed
    cases failed
  obtain ⟨next, result, done, -, failures⟩ := ends goes
  refine ⟨by decide +kernel, reached, returns, ⟨next, result, done, failures.trans (by decide +kernel)⟩,
    returns', ?_⟩
  exact (faults "shout").mpr ⟨_, rfl, rfl⟩

end Engine

end RecordRules
