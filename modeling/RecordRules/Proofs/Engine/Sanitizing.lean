/-
What the sanitization of a record does.

* `Engine.unresolved`: the sanitizations of the fields of a record that stand
  for no rule;
* `Engine.ComesTo`, `Engine.Invokes`: the rules that a run comes to, and the
  leaves that it calls them on;
* `Engine.sanitize_eq_insideCharacter_iff`: a run breaks down iff a rule does
  that it calls;
* `Engine.Sanitized`: each field by itself, before and after a run;
* `Engine.sanitize_spec`: a run fails with the first unresolved sanitization,
  and else the record is sanitized field by field.
-/
import RecordRules.Engine.Basic
import RecordRules.Proofs.Engine.Leaves
import RecordRules.Proofs.Keyed

namespace RecordRules

namespace Registry

/-- Whether the name of a rule stands for no sanitization. -/
def lacks (registry : Registry) (rule : Rule) : Bool :=
  (registry.findSanitizer? (Text.lowerString rule.name)).isNone

variable {registry : Registry} {rule : Rule}

lemma sanitizer_of_lacks (h : registry.lacks rule = true) :
    registry.sanitizer rule.name rule.arguments =
      .error (.unknownFilter (Text.lowerString rule.name)) := by
  rw [lacks, Option.isNone_iff_eq_none] at h
  rw [sanitizer, h]

lemma sanitizer_of_not_lacks (h : registry.lacks rule = false) :
    ∃ resolved, registry.sanitizer rule.name rule.arguments = .ok resolved := by
  rw [lacks, Option.isNone_eq_false_iff] at h
  obtain ⟨⟨canonical, found⟩, known⟩ := Option.isSome_iff_exists.mp h
  rw [sanitizer, known]
  exact ⟨_, rfl⟩

lemma not_lacks_of_sanitizer {resolved : Resolved SanitizerRule}
    (h : registry.sanitizer rule.name rule.arguments = .ok resolved) :
    registry.lacks rule = false := by
  rw [← Bool.not_eq_true]
  intro missing
  rw [sanitizer_of_lacks missing] at h
  cases h

/-- A rule for which nothing is found lacks a sanitization. -/
lemma lacks_iff :
    registry.lacks rule = true ↔ ∀ resolved, registry.sanitizer rule.name rule.arguments ≠ .ok resolved := by
  refine ⟨fun missing resolved found => ?_, fun missing => ?_⟩
  · have known := not_lacks_of_sanitizer found
    rw [missing] at known
    cases known
  · by_contra known
    obtain ⟨resolved, found⟩ := sanitizer_of_not_lacks (Bool.not_eq_true _ ▸ known)
    exact missing resolved found

end Registry

namespace Engine

variable {engine : Engine} {registry : Registry} {record out : Record} {e : Fault}

/-! ### The rules of one field -/

/-- The rules of a field run iff all of them resolve and, resolved, run one after
another. -/
lemma applyRules_eq_ok_iff {rules : List Rule} {value final : Json} :
    applyRules registry rules value = .ok final ↔
      ∃ resolved, rules.mapM (fun rule => registry.sanitizer rule.name rule.arguments) = .ok resolved ∧
        Resolved.applyAll resolved value = .ok final :=
  foldlM_bind_eq_ok_iff

/-- Rules that ran are all resolved. -/
lemma filter_lacks_eq_nil {rules : List Rule} {value final : Json}
    (h : applyRules registry rules value = .ok final) : rules.filter registry.lacks = [] := by
  refine List.filter_eq_nil_iff.mpr fun rule mem => ?_
  obtain ⟨before, after, rfl⟩ := List.append_of_mem mem
  obtain ⟨_, _, -, step, -⟩ := foldlM_split h
  obtain ⟨_, found, -⟩ := bind_eq_ok_iff.mp step
  rw [Registry.not_lacks_of_sanitizer found]
  exact Bool.false_ne_true

/-- A rule fails on a value because its name stands for nothing or because it
breaks down on a leaf. -/
lemma applyRule_eq_error_cases {rule : Rule} {value : Json}
    (h : applyRule registry value rule = .error e) :
    (registry.lacks rule = true ∧ e = .unknownFilter (Text.lowerString rule.name)) ∨
      e = .insideCharacter ∧ ∃ resolved, registry.sanitizer rule.name rule.arguments = .ok resolved ∧
        ∃ leaf ∈ value.leaves, resolved.apply leaf = .error .insideCharacter := by
  cases missing : registry.lacks rule with
  | true =>
    rw [applyRule, Registry.sanitizer_of_lacks missing] at h
    cases h
    exact .inl ⟨rfl, rfl⟩
  | false =>
    obtain ⟨resolved, found⟩ := Registry.sanitizer_of_not_lacks missing
    rw [applyRule, found] at h
    obtain ⟨leaf, mem, failed⟩ := Json.exists_leaf_of_mapLeaves_error h
    obtain rfl := Resolved.eq_insideCharacter_of_apply failed
    exact .inr ⟨rfl, resolved, found, leaf, mem, failed⟩

/-! ### One field -/

/-- A field that is not there changes nothing; for another one the value that its
rules make is put in its place. -/
lemma sanitizeField_eq_ok_iff {id : String} {field : FieldRules} :
    sanitizeField registry record id field = .ok out ↔
      (record.get? id = none ∧ out = record) ∨
        ∃ value final, record.get? id = some value ∧
          applyRules registry field.sanitizations value = .ok final ∧ out = record.put id final := by
  rw [sanitizeField]
  cases record.get? id with
  | none =>
    rw [Except.ok.injEq]
    constructor
    · rintro rfl
      exact .inl ⟨rfl, rfl⟩
    · rintro (⟨-, rfl⟩ | ⟨_, _, absent, -⟩)
      · rfl
      · cases absent
  | some value =>
    rw [map_eq_ok_iff]
    constructor
    · rintro ⟨final, applied, rfl⟩
      exact .inr ⟨value, final, rfl, applied, rfl⟩
    · rintro (⟨present, -⟩ | ⟨_, final, ⟨⟩, applied, rfl⟩)
      · cases present
      · exact ⟨final, applied, rfl⟩

lemma sanitizeField_of_present {id : String} {field : FieldRules} {value : Json}
    (present : record.get? id = some value) (h : sanitizeField registry record id field = .ok out) :
    ∃ final, applyRules registry field.sanitizations value = .ok final ∧ out = record.put id final := by
  rcases sanitizeField_eq_ok_iff.mp h with ⟨absent, -⟩ | ⟨_, final, present', applied, rfl⟩
  · rw [present] at absent
    cases absent
  · rw [present] at present'
    cases present'
    exact ⟨final, applied, rfl⟩

lemma keys_sanitizeField {id : String} {field : FieldRules}
    (h : sanitizeField registry record id field = .ok out) : out.keys = record.keys := by
  rcases sanitizeField_eq_ok_iff.mp h with ⟨-, rfl⟩ | ⟨value, final, present, -, rfl⟩
  · rfl
  · exact Keyed.keys_put_of_mem (Keyed.mem_keys_iff.mpr ⟨value, present⟩) final

lemma get?_sanitizeField_of_ne {id other : String} {field : FieldRules}
    (h : sanitizeField registry record id field = .ok out) (differ : other ≠ id) :
    out.get? other = record.get? other := by
  rcases sanitizeField_eq_ok_iff.mp h with ⟨-, rfl⟩ | ⟨_, final, -, -, rfl⟩
  · rfl
  · exact Keyed.get?_put_of_ne record final differ

lemma sanitizeField_eq_error_iff {id : String} {field : FieldRules} :
    sanitizeField registry record id field = .error e ↔
      ∃ value, record.get? id = some value ∧
        applyRules registry field.sanitizations value = .error e := by
  rw [sanitizeField]
  cases record.get? id with
  | none => exact ⟨nofun, fun ⟨_, absent, _⟩ => nomatch absent⟩
  | some value =>
    rw [map_eq_error_iff]
    exact ⟨fun failed => ⟨value, rfl, failed⟩, fun ⟨_, present, failed⟩ => by cases present; exact failed⟩

/-! ### All fields -/

/-- The record with some fields sanitized. -/
def sanitizeFields (registry : Registry) (fields : Keyed FieldRules) (record : Record) :
    Except Fault Record :=
  fields.foldlM (fun record (id, field) => sanitizeField registry record id field) record

lemma keys_sanitizeFields {fields : Keyed FieldRules}
    (h : sanitizeFields registry fields record = .ok out) : out.keys = record.keys := by
  induction fields generalizing record with
  | nil =>
    cases h
    rfl
  | cons m rest ih =>
    obtain ⟨next, step, run⟩ := foldlM_cons_eq_ok_iff.mp h
    exact (ih run).trans (keys_sanitizeField step)

/-- What sanitizing some fields does to a record. The keys stay, other fields
keep their values, and each of the fields that is there holds what its own rules,
resolved, make of its own value. -/
structure Sanitized (registry : Registry) (fields : Keyed FieldRules) (record out : Record) : Prop where
  keys : out.keys = record.keys
  other : ∀ id, id ∉ fields.keys → out.get? id = record.get? id
  own : ∀ id field value, (id, field) ∈ fields → record.get? id = some value →
    ∃ resolved final,
      field.sanitizations.mapM (fun rule => registry.sanitizer rule.name rule.arguments) = .ok resolved ∧
        Resolved.applyAll resolved value = .ok final ∧ out.get? id = some final

/-- A run that comes to its end has sanitized all fields. -/
lemma sanitized_of_sanitizeFields {fields : Keyed FieldRules} (nodup : fields.keys.Nodup)
    (h : sanitizeFields registry fields record = .ok out) : Sanitized registry fields record out := by
  induction fields generalizing record with
  | nil =>
    cases h
    exact ⟨rfl, fun _ _ => rfl, fun _ _ _ mem => nomatch mem⟩
  | cons m rest ih =>
    obtain ⟨id, field⟩ := m
    obtain ⟨next, step, run⟩ := foldlM_cons_eq_ok_iff.mp h
    obtain ⟨fresh, nodup⟩ := List.nodup_cons.mp nodup
    -- the first field is done, and the run over the rest does not come back to it
    have after := ih nodup run
    refine ⟨keys_sanitizeFields h, fun other absent => ?_,
      fun other rules value mem present => ?_⟩
    · rw [Keyed.keys, List.map_cons, List.mem_cons, not_or] at absent
      rw [after.other other absent.2, get?_sanitizeField_of_ne step absent.1]
    · rcases List.mem_cons.mp mem with same | mem
      · cases same
        obtain ⟨final, applied, rfl⟩ := sanitizeField_of_present present step
        obtain ⟨resolved, found, applied⟩ := applyRules_eq_ok_iff.mp applied
        refine ⟨resolved, final, found, applied, ?_⟩
        rw [after.other id fresh, Keyed.get?_put_self]
      · have differ : other ≠ id := fun same => fresh (same ▸ Keyed.mem_keys_of_mem mem)
        refine after.own other rules value mem ?_
        rw [get?_sanitizeField_of_ne step differ, present]

/-! ### Where a run stops -/

/-- The run over a record comes to a rule, with the value that the rules before
it have made of the value of its field. -/
inductive ComesTo (engine : Engine) (record : Record) (rule : Rule) (value : Json) : Prop where
  | intro {before after : Keyed FieldRules} {id : String} {field : FieldRules} {done rest : List Rule}
      {reached : Record} {input : Json} (fields : engine.fields = before ++ (id, field) :: after)
      (rules : field.sanitizations = done ++ rule :: rest)
      (ran : sanitizeFields engine.registry before record = .ok reached)
      (present : reached.get? id = some input)
      (current : applyRules engine.registry done input = .ok value)

/-- The run over a record calls a resolved rule on a leaf of the value that it
comes to the rule with, unless it has broken down on a leaf before. -/
def Invokes (engine : Engine) (record : Record) (resolved : Resolved SanitizerRule) (leaf : Json) : Prop :=
  ∃ rule value, engine.ComesTo record rule value ∧
    engine.registry.sanitizer rule.name rule.arguments = .ok resolved ∧ leaf ∈ value.leaves

/-- A run fails iff it comes to a rule that fails. -/
lemma sanitize_eq_error_iff :
    engine.sanitize record = .error e ↔
      ∃ rule value, engine.ComesTo record rule value ∧
        applyRule engine.registry value rule = .error e := by
  rw [sanitize, foldlM_eq_error_iff]
  constructor
  · rintro ⟨before, ⟨id, field⟩, after, reached, fields, ran, failed⟩
    obtain ⟨input, present, failed⟩ := sanitizeField_eq_error_iff.mp failed
    obtain ⟨done, rule, rest, value, rules, current, failed⟩ := foldlM_eq_error_iff.mp failed
    exact ⟨rule, value, .intro fields rules ran present current, failed⟩
  · rintro ⟨rule, value, ⟨fields, rules, ran, present, current⟩, failed⟩
    refine ⟨_, _, _, _, fields, ran, sanitizeField_eq_error_iff.mpr ⟨_, present, ?_⟩⟩
    exact foldlM_eq_error_iff.mpr ⟨_, _, _, _, rules, current, failed⟩

/-- **A run breaks down iff a rule does that it calls.** -/
theorem sanitize_eq_insideCharacter_iff :
    engine.sanitize record = .error .insideCharacter ↔
      ∃ resolved leaf, engine.Invokes record resolved leaf ∧
        resolved.apply leaf = .error .insideCharacter := by
  rw [sanitize_eq_error_iff]
  constructor
  · rintro ⟨rule, value, comes, failed⟩
    rcases applyRule_eq_error_cases failed with ⟨-, unknown⟩ | ⟨-, resolved, found, leaf, mem, failed⟩
    · cases unknown
    · exact ⟨resolved, leaf, ⟨rule, value, comes, found, mem⟩, failed⟩
  · rintro ⟨resolved, leaf, ⟨rule, value, comes, found, mem⟩, failed⟩
    refine ⟨rule, value, comes, ?_⟩
    cases applied : applyRule engine.registry value rule with
    | ok final =>
      rw [applyRule, found] at applied
      obtain ⟨replaced, returned⟩ := Json.leaf_of_mapLeaves applied leaf mem
      rw [returned] at failed
      cases failed
    | error e =>
      rcases applyRule_eq_error_cases applied with ⟨missing, -⟩ | ⟨rfl, -⟩
      · rw [Registry.not_lacks_of_sanitizer found] at missing
        cases missing
      · rfl

/-- A run does not break down iff every rule that it calls returns. -/
lemma sanitize_ne_insideCharacter_iff :
    engine.sanitize record ≠ .error .insideCharacter ↔
      ∀ resolved leaf, engine.Invokes record resolved leaf →
        ∃ replaced, resolved.apply leaf = .ok replaced := by
  rw [ne_eq, sanitize_eq_insideCharacter_iff]
  constructor
  · intro unbroken resolved leaf invoked
    cases applied : resolved.apply leaf with
    | ok replaced => exact ⟨replaced, rfl⟩
    | error e =>
      obtain rfl := Resolved.eq_insideCharacter_of_apply applied
      exact absurd ⟨resolved, leaf, invoked, applied⟩ unbroken
  · rintro returns ⟨resolved, leaf, invoked, failed⟩
    obtain ⟨replaced, returned⟩ := returns resolved leaf invoked
    rw [returned] at failed
    cases failed

/-! ### Unresolved rules -/

/-- The sanitizations of some fields that stand for no rule, in order, where the
field is one of the given ones. -/
def unresolvedIn (registry : Registry) (fields : Keyed FieldRules) (ids : List String) : List Rule :=
  fields.flatMap fun (id, field) =>
    if id ∈ ids then field.sanitizations.filter registry.lacks else []

/-- The sanitizations that stand for no rule, field by field, where the field is
one of the given ones. -/
def unresolved (engine : Engine) (ids : List String) : List Rule :=
  unresolvedIn engine.registry engine.fields ids

lemma unresolvedIn_append (fields more : Keyed FieldRules) (ids : List String) :
    unresolvedIn registry (fields ++ more) ids =
      unresolvedIn registry fields ids ++ unresolvedIn registry more ids :=
  List.flatMap_append

lemma unresolvedIn_cons_of_mem {id : String} {ids : List String} (there : id ∈ ids) (field : FieldRules)
    (rest : Keyed FieldRules) :
    unresolvedIn registry ((id, field) :: rest) ids =
      field.sanitizations.filter registry.lacks ++ unresolvedIn registry rest ids := by
  rw [unresolvedIn, List.flatMap_cons]
  exact congrArg (· ++ _) (if_pos there)

/-- The unresolved sanitizations of some fields. -/
lemma mem_unresolved_iff {ids : List String} {rule : Rule} :
    rule ∈ engine.unresolved ids ↔ ∃ id field, (id, field) ∈ engine.fields ∧ id ∈ ids ∧
      rule ∈ field.sanitizations ∧ engine.registry.lacks rule = true := by
  rw [unresolved, unresolvedIn, List.mem_flatMap]
  constructor
  · rintro ⟨⟨id, field⟩, configured, mem⟩
    dsimp only at mem
    split at mem
    · next present =>
      obtain ⟨own, lacks⟩ := List.mem_filter.mp mem
      exact ⟨id, field, configured, present, own, lacks⟩
    · cases mem
  · rintro ⟨id, field, configured, present, own, lacks⟩
    refine ⟨(id, field), configured, ?_⟩
    dsimp only
    rw [if_pos present]
    exact List.mem_filter.mpr ⟨own, lacks⟩

/-- A run that comes to its end has found all its rules. -/
lemma unresolvedIn_eq_nil {fields : Keyed FieldRules}
    (h : sanitizeFields registry fields record = .ok out) :
    unresolvedIn registry fields record.keys = [] := by
  refine List.flatMap_eq_nil_iff.mpr fun ⟨id, field⟩ mem => ?_
  obtain ⟨before, after, rfl⟩ := List.append_of_mem mem
  obtain ⟨reached, next, ran, step, -⟩ := foldlM_split h
  dsimp only
  split
  · next there =>
    rw [← keys_sanitizeFields ran, Keyed.mem_keys_iff] at there
    obtain ⟨value, present⟩ := there
    obtain ⟨final, applied, -⟩ := sanitizeField_of_present present step
    exact filter_lacks_eq_nil applied
  · rfl

/-- A run that comes to an unresolved rule has come to the first one. -/
lemma ComesTo.head?_unresolved {rule : Rule} {value : Json} (comes : engine.ComesTo record rule value)
    (missing : engine.registry.lacks rule = true) :
    (engine.unresolved record.keys).head? = some rule := by
  obtain ⟨fields, rules, ran, present, current⟩ := comes
  have there := Keyed.mem_keys_iff.mpr ⟨_, present⟩
  rw [keys_sanitizeFields ran] at there
  -- neither the fields before nor the rules before it left anything unresolved
  rw [unresolved, fields, unresolvedIn_append, unresolvedIn_eq_nil ran, List.nil_append,
    unresolvedIn_cons_of_mem there, rules, List.filter_append, filter_lacks_eq_nil current,
    List.nil_append, List.filter_cons_of_pos missing]
  rfl

/-! ### The result of a run -/

/-- A run fails with the first unresolved rule, or it breaks down. -/
lemma sanitize_eq_error_cases (h : engine.sanitize record = .error e) :
    (∃ rule, (engine.unresolved record.keys).head? = some rule ∧
        e = .unknownFilter (Text.lowerString rule.name)) ∨
      e = .insideCharacter := by
  obtain ⟨rule, value, comes, failed⟩ := sanitize_eq_error_iff.mp h
  rcases applyRule_eq_error_cases failed with ⟨missing, rfl⟩ | ⟨rfl, -⟩
  · exact .inl ⟨rule, comes.head?_unresolved missing, rfl⟩
  · exact .inr rfl

/-- The sanitizations of a field in order, if the field is there. -/
def sanitizationsOf (engine : Engine) (id : String) : Option (List Rule) :=
  (engine.field? id).map (·.sanitizations)

lemma Sanitized.get?_eq_none {fields : Keyed FieldRules} (h : Sanitized registry fields record out)
    {id : String} (absent : record.get? id = none) : out.get? id = none := by
  rw [Keyed.get?_eq_none_iff, h.keys, ← Keyed.get?_eq_none_iff]
  exact absent

/-- What a field holds after a run follows from its rules and its value before
the run. -/
lemma Sanitized.get?_eq {other : Engine} {record' out' : Record}
    (h : Sanitized engine.registry engine.fields record out)
    (h' : Sanitized other.registry other.fields record' out')
    (registry : other.registry = engine.registry) {id : String}
    (rules : other.sanitizationsOf id = engine.sanitizationsOf id)
    (value : record'.get? id = record.get? id) : out'.get? id = out.get? id := by
  rw [sanitizationsOf, sanitizationsOf] at rules
  cases configured : engine.field? id with
  | none =>
    rw [configured, Option.map_none, Option.map_eq_none_iff] at rules
    rw [h.other id (Keyed.get?_eq_none_iff.mp configured),
      h'.other id (Keyed.get?_eq_none_iff.mp rules), value]
  | some field =>
    rw [configured, Option.map_some, Option.map_eq_some_iff] at rules
    obtain ⟨field', configured', rules⟩ := rules
    cases present : record.get? id with
    | none => rw [h.get?_eq_none present, h'.get?_eq_none (value.trans present)]
    | some input =>
      obtain ⟨resolved, final, found, applied, holds⟩ :=
        h.own id field input (Keyed.mem_of_get? configured) present
      obtain ⟨resolved', final', found', applied', holds'⟩ :=
        h'.own id field' input (Keyed.mem_of_get? configured') (value.trans present)
      rw [registry, rules, found] at found'
      cases found'
      rw [applied] at applied'
      cases applied'
      rw [holds, holds']

/-- **Sanitizing a record.** In a run in which every rule that is called returns,
a record is sanitized field by field, whatever the order of the fields, unless a
rule of one of its fields is unresolved: then the first one is the fault. No
field comes twice in an engine, as `Reachable.nodup_fields` says. -/
theorem sanitize_spec (nodup : engine.fields.keys.Nodup)
    (returns : ∀ resolved leaf, engine.Invokes record resolved leaf →
      ∃ replaced, resolved.apply leaf = .ok replaced) :
    (∀ name, engine.sanitize record = .error (.unknownFilter name) ↔
        ∃ rule, (engine.unresolved record.keys).head? = some rule ∧
          name = Text.lowerString rule.name) ∧
      (engine.unresolved record.keys = [] →
        ∃ out, engine.sanitize record = .ok out ∧
          Sanitized engine.registry engine.fields record out ∧
          ∀ (other : Engine) (record' out' : Record), other.registry = engine.registry →
            other.fields.keys.Nodup → other.sanitize record' = .ok out' →
            ∀ id, other.sanitizationsOf id = engine.sanitizationsOf id →
              record'.get? id = record.get? id → out'.get? id = out.get? id) := by
  have unbroken := sanitize_ne_insideCharacter_iff.mpr returns
  cases run : engine.sanitize record with
  | ok out =>
    have none : engine.unresolved record.keys = [] := unresolvedIn_eq_nil run
    have sanitized := sanitized_of_sanitizeFields nodup run
    rw [none]
    refine ⟨fun name => ⟨nofun, fun ⟨_, first, _⟩ => nomatch first⟩, fun _ => ?_⟩
    refine ⟨out, rfl, sanitized, ?_⟩
    intro other record' out' registry nodup' run' id rules value
    exact sanitized.get?_eq (sanitized_of_sanitizeFields nodup' run') registry rules value
  | error e =>
    rcases sanitize_eq_error_cases run with ⟨rule, first, rfl⟩ | rfl
    · rw [first]
      refine ⟨fun name => ?_, fun none => ?_⟩
      · rw [Except.error.injEq, Fault.unknownFilter.injEq]
        constructor
        · rintro rfl
          exact ⟨rule, rfl, rfl⟩
        · rintro ⟨_, ⟨⟩, rfl⟩
          rfl
      · rw [none] at first
        cases first
    · exact absurd run unbroken

/-- Two records of one engine, with and without a field whose second rule is
unresolved. -/
theorem sanitize_spec_halve :
    let engine : Engine :=
      ⟨[("age", ⟨"Age", [⟨"integer", [], none⟩, ⟨"Halve", [], none⟩], []⟩),
          ("tags", ⟨"Tags", [⟨"Trim", [], none⟩, ⟨"pair", [], none⟩], []⟩)], [],
        { Registry.initial with sanitizers := [("pair", fun leaf _ => .array [leaf, leaf])] }⟩
    let record : Record := [("tags", .array [.string " a ", .null]), ("id", .string " b ")]
    engine.fields.keys.Nodup ∧
      (∀ resolved leaf, engine.Invokes (("age", .null) :: record) resolved leaf →
        ∃ replaced, resolved.apply leaf = .ok replaced) ∧
      engine.sanitize (("age", .null) :: record) = .error (.unknownFilter "halve") ∧
      (∀ resolved leaf, engine.Invokes record resolved leaf →
        ∃ replaced, resolved.apply leaf = .ok replaced) ∧
      ∃ out, engine.sanitize record = .ok out ∧ Sanitized engine.registry engine.fields record out := by
  intro engine record
  have nodup : engine.fields.keys.Nodup := by decide
  have stopped : engine.sanitize (("age", .null) :: record) ≠ .error .insideCharacter := by
    rw [show engine.sanitize (("age", .null) :: record) = .error (.unknownFilter "halve") by rfl]
    exact nofun
  have unbroken : engine.sanitize record ≠ .error .insideCharacter := by
    rw [show engine.sanitize record = .ok [("tags", .array [.array [.string "a", .string "a"],
      .array [.null, .null]]), ("id", .string " b ")] by rfl]
    exact nofun
  rw [sanitize_ne_insideCharacter_iff] at stopped unbroken
  have first : (engine.unresolved ["age", "tags", "id"]).head? = some ⟨"Halve", [], none⟩ := by
    decide +kernel
  have none : engine.unresolved ["tags", "id"] = [] := by decide +kernel
  obtain ⟨out, run, sanitized, -⟩ := (sanitize_spec nodup unbroken).2 none
  exact ⟨nodup, stopped,
    ((sanitize_spec nodup stopped).1 "halve").mpr ⟨_, first, by decide +kernel⟩,
    unbroken, out, run, sanitized⟩

end Engine

end RecordRules
