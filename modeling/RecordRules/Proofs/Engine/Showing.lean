/-
The value of a failure, in its message and in the failure itself.

* `Json.ShowsNothing`: the values of which nothing is shown
  (`Json.displayText_eq_empty_iff`);
* `Json.ToldApart`: the values that are blank but shown, or not blank and not shown;
* `Failure.filled_eq_recordedValue_iff`: the text that a message has for the value is
  the one that the failure has, but for these;
* `Engine.templateFor`, `Engine.Judges`: the template of a rule that fails, and the
  record that an engine judged;
* `Engine.value_shown_iff`: this is so for every failure that is recorded for a rule.
-/
import RecordRules.Proofs.Decimal.Digits
import RecordRules.Proofs.Engine.Running

namespace RecordRules

/-! ### Values of which nothing is shown -/

namespace JsonNumber

lemma decimalText_ne_nil (format : DoubleFormat) (d : DecimalNumber) : decimalText format d ≠ [] := by
  obtain ⟨first, rest, digits⟩ := List.exists_cons_of_ne_nil (digitsOf_ne_nil d.coefficient)
  rw [decimalText, digits]
  dsimp only
  split
  · split
    · simp
    · split <;> simp
  · simp

lemma text_ne_nil (n : JsonNumber) : n.text ≠ [] := by
  cases n with
  | integer n =>
    rw [text, integerText]
    split
    · simp
    · exact digitsOf_ne_nil _
  | double x =>
    rw [text, doubleText]
    refine List.append_ne_nil_of_right_ne_nil _ ?_
    split
    · simp
    · exact decimalText_ne_nil _ _

end JsonNumber

namespace Json

/-- The JSON text of a value is never empty. -/
lemma compact_ne_empty (value : Json) : value.compact ≠ "" := by
  have characters : value.compactChars ≠ [] := by
    cases value with
    | number n =>
      rw [compactChars]
      exact n.text_ne_nil
    | bool b => cases b <;> exact List.cons_ne_nil _ _
    | null | string | array | object =>
      rw [compactChars]
      exact List.cons_ne_nil _ _
  intro empty
  have nothing := congrArg String.toList empty
  rw [compact, String.toList_ofList] at nothing
  exact characters nothing

/-- Nothing is shown of null, of the empty text, of an array without items, and of an
array of one item of which nothing is shown. -/
inductive ShowsNothing : Json → Prop where
  | null : ShowsNothing null
  | emptyText : ShowsNothing (string "")
  | noItems : ShowsNothing (array [])
  | oneItem {item : Json} (nothing : ShowsNothing item) : ShowsNothing (array [item])

/-- There is a comma between two items. -/
lemma displayText_array_ne (first second : Json) (rest : List Json) :
    (array (first :: second :: rest)).displayText ≠ "" := by
  rw [displayText, displayTexts, displayTexts, String.intercalate_cons_cons]
  intro empty
  have characters := congrArg String.toList empty
  simp at characters

lemma displayText_array_singleton (item : Json) : (array [item]).displayText = item.displayText := by
  rw [displayText, displayTexts, displayTexts]
  simp

lemma displayText_eq_empty : ∀ {value : Json}, value.displayText = "" → ShowsNothing value
  | null, _ => .null
  | string s, h => by
    rw [displayText] at h
    exact h ▸ .emptyText
  | array [], _ => .noItems
  | array [item], h => by
    rw [displayText_array_singleton] at h
    exact .oneItem (displayText_eq_empty h)
  | array (first :: second :: rest), h => absurd h (displayText_array_ne first second rest)
  | bool b, h => absurd h (compact_ne_empty (bool b))
  | number n, h => absurd h (compact_ne_empty (number n))
  | object members, h => absurd h (compact_ne_empty (object members))

theorem displayText_eq_empty_iff {value : Json} : value.displayText = "" ↔ ShowsNothing value := by
  refine ⟨displayText_eq_empty, fun nothing => ?_⟩
  induction nothing with
  | null | emptyText | noItems => rfl
  | oneItem _ ih => rw [displayText_array_singleton, ih]

/-- The values that are blank but shown, or of which nothing is shown though they are
not blank. -/
inductive ToldApart : Json → Prop where
  | whiteSpace {s : String} (blank : Text.isAllBlank s.toList = true) (some_text : s ≠ "") : ToldApart (string s)
  | emptyObject : ToldApart (object [])
  | oneItem {item : Json} (nothing : ShowsNothing item) : ToldApart (array [item])

/-- These are all values for which the two do not go together. -/
theorem toldApart_iff {value : Json} : value.ToldApart ↔ ¬ (value.isBlank = true ↔ value.displayText = "") := by
  rw [displayText_eq_empty_iff]
  constructor
  · rintro (⟨blank, some_text⟩ | _ | nothing)
    · intro same
      cases same.mp blank
      exact some_text rfl
    · intro same
      cases same.mp rfl
    · intro same
      cases same.mpr (.oneItem nothing)
  · intro differ
    cases value with
    | null => exact absurd (iff_of_true rfl .null) differ
    | bool b => exact absurd (iff_of_false nofun nofun) differ
    | number n => exact absurd (iff_of_false nofun nofun) differ
    | string s =>
      by_cases empty : s = ""
      · subst empty
        exact absurd (iff_of_true rfl .emptyText) differ
      · by_cases blank : Text.isAllBlank s.toList = true
        · exact .whiteSpace blank empty
        · refine absurd (iff_of_false blank ?_) differ
          rintro ⟨⟩
          exact empty rfl
    -- an array is blank without items, but shows nothing also with one hollow item
    | array items =>
      match items with
      | [] => exact absurd (iff_of_true rfl .noItems) differ
      | [item] =>
        by_cases nothing : ShowsNothing item
        · exact .oneItem nothing
        · refine absurd (iff_of_false nofun ?_) differ
          rintro (_ | _ | _ | shown)
          exact nothing shown
      | first :: second :: rest => exact absurd (iff_of_false nofun nofun) differ
    | object members =>
      cases members with
      | nil => exact .emptyObject
      | cons => exact absurd (iff_of_false nofun nofun) differ

end Json

namespace Failure

/-! ### The value in a message -/

/-- The text of the placeholder for the value, in a message about a value. -/
def filledValue (value : Option Json) : String :=
  if shownValue value = "" then Template.emptyValue else shownValue value

lemma fill_value {context : Template.Context} {value : Option Json} (shown : context.value = shownValue value) :
    String.ofList (Template.fill context .value) = filledValue value := by
  rw [Template.fill, shown, filledValue]
  split <;> rw [String.ofList_toList]

/-- No blank value looks like the word for blank values. -/
lemma displayText_ne_emptyValue {value : Json} (blank : value.isBlank = true) :
    value.displayText ≠ Template.emptyValue := by
  cases value with
  | null => exact by decide
  | bool | number => cases blank
  | string s =>
    rintro word
    rw [Json.displayText] at word
    rw [word] at blank
    cases blank
  | array items =>
    cases items with
    | nil => exact by decide
    | cons => cases blank
  | object members =>
    cases members with
    | nil => exact by decide
    | cons => cases blank

/-- The two texts are the same but for values that are told apart. -/
lemma filledValue_eq_recordedValue_iff (value : Option Json) :
    filledValue value = recordedValue value ↔ ∀ v ∈ value, ¬ v.ToldApart := by
  cases value with
  | none => exact iff_of_true rfl nofun
  | some v =>
    -- one text asks whether the value is blank, the other whether it shows nothing
    have blank_eq : isBlank (some v) = v.isBlank := rfl
    have shown_eq : shownValue (some v) = v.displayText := rfl
    have same_iff : filledValue (some v) = recordedValue (some v) ↔ (v.isBlank = true ↔ v.displayText = "") := by
      rw [filledValue, recordedValue, blank_eq, shown_eq]
      by_cases empty : v.displayText = "" <;> by_cases blank : v.isBlank = true
      · simp [empty, blank]
      · simp [empty, blank, Template.emptyValue]
      · simp [empty, blank, displayText_ne_emptyValue blank]
      · simp [empty, blank]
    simp only [same_iff, Option.mem_def, Option.some.injEq, forall_eq', Json.toldApart_iff, not_not]

end Failure

namespace Engine

variable {surroundings : Surroundings} {engine next : Engine} {record : Record}

/-! ### Recorded failures -/

/-- The template of the message of a rule that fails. -/
def templateFor (engine : Engine) (rule : Rule) : String :=
  match engine.registry.validator? rule.name rule.arguments with
  | none => Catalog.unknownRule
  | some resolved =>
    ((rule.message <|> resolved.rule.message? <|> Catalog.lookup? rule.name).filter (· ≠ "")).getD
      Catalog.defaultLong

/-- An engine judged a record: it validated it, or it came to it when a run sanitized
another one. -/
inductive Judges (surroundings : Surroundings) (engine : Engine) (record : Record) (next : Engine) : Prop where
  | validate (done : validate surroundings engine record = .ok next)
  | run {input : Record} {checkUnknown : Bool} {result : Option Record}
      (sanitized : engine.sanitize input = .ok record)
      (done : run surroundings engine input checkUnknown = .ok (next, result))

/-- What is recorded, apart from mismatches, are the failures of the record. -/
lemma Judges.exists_failuresOf (judged : Judges surroundings engine record next) :
    ∃ failures, failuresOf surroundings engine record = .ok failures ∧
      ∀ failure ∈ next.failures, failure.kind ≠ .fieldMismatch → failure ∈ failures := by
  cases judged with
  | validate done =>
    obtain ⟨failures, validated, rfl⟩ := map_eq_ok_iff.mp done
    exact ⟨failures, validated, fun failure mem _ => mem⟩
  | @run input checkUnknown result sanitized done =>
    obtain ⟨out, failures, sanitized', validated, rfl, -⟩ := exists_of_run done
    cases sanitized.symm.trans sanitized'
    refine ⟨failures, validated, fun failure mem kind => ?_⟩
    cases checkUnknown with
    | false => exact mem
    | true => exact (List.mem_append.mp mem).resolve_right fun mem => kind (of_mem_mismatches mem).1

/-- A failure that is recorded is that of a rule of its field: its message comes from
the template of the rule. -/
lemma exists_rule_of_mem (nodup : engine.fields.keys.Nodup) {failures : List Failure}
    (validated : failuresOf surroundings engine record = .ok failures) {failure : Failure}
    (mem : failure ∈ failures) :
    ∃ rule ∈ (engine.fieldOf failure.field).validations,
      failure.arguments = rule.arguments ∧
      failure.value = Failure.recordedValue (record.get? failure.field) ∧
      failure.message = Template.render (engine.templateFor rule)
        ⟨engine.labelOf failure.field, Failure.shownValue (record.get? failure.field), failure.ruleName,
          failure.arguments⟩ := by
  obtain ⟨id, field, rule, configured, rule_mem, judged⟩ := exists_judge_of_mem validated mem
  have own := fieldOf_of_mem nodup configured
  have there : rule ∈ (engine.fieldOf id).validations := by
    rw [own]
    exact rule_mem
  have label : field.label = engine.labelOf id := by rw [← label_fieldOf, own]
  rcases judge_eq_some_iff.mp judged with ⟨unknown, rfl⟩ | ⟨resolved, found, -, -, rfl⟩
  · refine ⟨rule, there, rfl, rfl, ?_⟩
    rw [templateFor, unknown, label]
    rfl
  · refine ⟨rule, there, rfl, rfl, ?_⟩
    rw [templateFor, found, label]
    rfl

/-- **The value of a failure, and in its message.** Each failure that is recorded for
a rule has the word for blank values or the text that is shown of the value. Where
its template has the placeholder for the value, its message has the same, unless the
value is white space, an empty object, or an array of one item of which nothing is
shown; and then it has not. -/
theorem value_shown_iff (nodup : engine.fields.keys.Nodup) (judged : Judges surroundings engine record next) :
    ∀ failure ∈ next.failures, failure.kind ≠ .fieldMismatch →
      let value := record.get? failure.field
      let context : Template.Context :=
        ⟨engine.labelOf failure.field, Failure.shownValue value, failure.ruleName, failure.arguments⟩
      (∃ rule ∈ (engine.fieldOf failure.field).validations,
        failure.message = Template.render (engine.templateFor rule) context) ∧
      failure.value = (if Failure.isBlank value then Template.emptyValue else Failure.shownValue value) ∧
      (String.ofList (Template.fill context .value) = failure.value ↔ ∀ v ∈ value, ¬ v.ToldApart) := by
  intro failure mem kind value context
  obtain ⟨failures, validated, rules⟩ := judged.exists_failuresOf
  obtain ⟨rule, there, -, recorded, message⟩ := exists_rule_of_mem nodup validated (rules failure mem kind)
  refine ⟨⟨rule, there, message⟩, recorded, ?_⟩
  have filled : String.ofList (Template.fill context .value) = Failure.filledValue value := Failure.fill_value rfl
  rw [recorded, filled]
  exact Failure.filledValue_eq_recordedValue_iff value

/-- White space and null are both blank, but white space is shown. -/
theorem value_shown_iff_blank :
    let required : Rule := ⟨"required", [], some "got \x7bvalue\x7d"⟩
    let name : Failure := ⟨"name", "empty", "required", [], .ruleFailed, "got   "⟩
    let note : Failure := ⟨"note", "empty", "required", [], .ruleFailed, "got empty"⟩
    let engine : Engine :=
      ⟨[("name", ⟨"Name", [], [required]⟩), ("note", ⟨"Note", [], [required]⟩)], [], .initial⟩
    let next : Engine := { engine with failures := [name, note] }
    let record : Record := [("name", .string "  "), ("note", .null)]
    engine.fields.keys.Nodup ∧ Judges .newYear engine record next ∧
      String.ofList (Template.fill ⟨"Name", "  ", "required", []⟩ .value) ≠ name.value ∧
      String.ofList (Template.fill ⟨"Note", "", "required", []⟩ .value) = note.value := by
  intro required name note engine next record
  have nodup : engine.fields.keys.Nodup := by decide
  have failures : failuresOf .newYear engine record = .ok [name, note] := by decide +kernel
  have judged : Judges .newYear engine record next := by
    refine .validate ?_
    rw [validate, failures]
    rfl
  have shown := value_shown_iff nodup judged
  obtain ⟨-, -, name_iff⟩ := shown name (by simp [next]) (by decide)
  obtain ⟨-, -, note_iff⟩ := shown note (by simp [next]) (by decide)
  refine ⟨nodup, judged, fun same => ?_, note_iff.mpr ?_⟩
  · exact name_iff.mp same _ rfl (.whiteSpace (by decide) (by decide))
  · rintro _ ⟨⟩ ⟨⟩

/-- A message about white space does not say what the failure has for it. -/
theorem not_value_shown :
    ¬ ∀ (engine : Engine), engine.Reachable → ∀ (surroundings : Surroundings) (record : Record) (next : Engine),
      validate surroundings engine record = .ok next → ∀ failure ∈ next.failures, failure.kind ≠ .fieldMismatch →
        String.ofList (Template.fill ⟨engine.labelOf failure.field,
          Failure.shownValue (record.get? failure.field), failure.ruleName, failure.arguments⟩ .value) =
          failure.value := by
  intro shown
  let field : FieldRules := ⟨Label.humanize "name", [], [⟨"required", [], some "got \x7bvalue\x7d"⟩]⟩
  let engine : Engine := ⟨[("name", field)], [], .initial⟩
  let failure : Failure := ⟨"name", "empty", "required", [], .ruleFailed, "got   "⟩
  have read : readRules .validation [("name", "required;'got \x7bvalue\x7d'")] =
      .ok [("name", field.validations)] := by decide +kernel
  have added : (ofRegistry .initial).setValidations [("name", "required;'got \x7bvalue\x7d'")] = .ok engine :=
    bind_eq_ok_iff.mpr ⟨_, read, rfl⟩
  have failures : failuresOf .newYear engine [("name", .string "  ")] = .ok [failure] := by decide +kernel
  have validated : validate .newYear engine [("name", .string "  ")] =
      .ok { engine with failures := [failure] } := by
    rw [validate, failures]
    rfl
  have reached : engine.Reachable := (Reachable.ofRegistry _).setValidations added
  have same := shown engine reached .newYear _ _ validated failure (List.mem_singleton_self _) (by decide)
  exact absurd same (by decide +kernel)

end Engine

end RecordRules
