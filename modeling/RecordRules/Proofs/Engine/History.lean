/-
The fields of an engine, summed up from the operations on it.

* `Edit`, `FieldRules.edited`: what is done to one field, edit after edit;
* `labelAfter`, `rulesAfter`: the label and the rules of a new field after edits,
  read off the list of edits;
* `FieldRules.edited_ofId`: these are what the edits lead to;
* `Operation.mentions`, `Operation.edits`: what an operation says about fields;
* `Operation.fields_callAll`: the fields after any sequence of calls.
-/
import Mathlib.Data.List.DropRight
import RecordRules.Proofs.Engine.Calls
import RecordRules.Proofs.Engine.Fields

namespace RecordRules

/-! ### Edits of a field -/

/-- What is done to one field. -/
inductive Edit where
  | label (text : String)
  | add (kind : RuleKind) (placement : Placement) (batch : List Rule)
  | clear (kind : RuleKind)
  deriving DecidableEq

namespace Edit

/-- The field after an edit. -/
def apply (field : FieldRules) : Edit → FieldRules
  | label text => field.withLabel text
  | add .sanitization placement batch => field.addSanitizations placement batch
  | add .validation placement batch => field.addValidations placement batch
  | clear .sanitization => field.clearSanitizations
  | clear .validation => field.clearValidations

/-- The label that is set. -/
def label? : Edit → Option String
  | label text => some text
  | _ => none

/-- The rules of one kind that are added in one place. -/
def batch? (kind : RuleKind) (placement : Placement) : Edit → Option (List Rule)
  | add k p batch => if k = kind ∧ p = placement then some batch else none
  | _ => none

end Edit

/-- The label of a new field after edits: the last one that was set, or else the
one that is made from the id. -/
def labelAfter (id : String) (edits : List Edit) : String :=
  (edits.filterMap Edit.label?).getLast?.getD (Label.humanize id)

/-- The rules of one kind of a new field after edits. Only what came after the
last clearing counts: the batches that were put before the rules, latest first,
and then those that were put after them. -/
def rulesAfter (kind : RuleKind) (edits : List Edit) : List Rule :=
  let recent := edits.rtakeWhile (· ≠ .clear kind)
  (recent.filterMap (Edit.batch? kind .before)).reverse.flatten ++
    (recent.filterMap (Edit.batch? kind .after)).flatten

/-- The rules of one kind. -/
def FieldRules.rules (field : FieldRules) : RuleKind → List Rule
  | .sanitization => field.sanitizations
  | .validation => field.validations

/-- The field after edits, one after another. -/
def FieldRules.edited (field : FieldRules) (edits : List Edit) : FieldRules := edits.foldl Edit.apply field

lemma FieldRules.edited_append (field : FieldRules) (edits more : List Edit) :
    field.edited (edits ++ more) = (field.edited edits).edited more := List.foldl_append

/-! ### What edits lead to -/

section Summary

variable {kind : RuleKind} {edit : Edit}

lemma label_apply (field : FieldRules) (edit : Edit) :
    (edit.apply field).label = edit.label?.getD field.label := by
  cases edit with
  | label text => rfl
  | add kind placement batch => cases kind <;> rfl
  | clear kind => cases kind <;> rfl

lemma rules_apply_clear (field : FieldRules) (kind : RuleKind) :
    (Edit.apply field (.clear kind)).rules kind = [] := by
  cases kind <;> rfl

/-- An edit that does not clear the rules puts a batch around them, or leaves
them as they are. -/
lemma rules_apply (field : FieldRules) (other : edit ≠ .clear kind) :
    (edit.apply field).rules kind =
      (edit.batch? kind .before).getD [] ++ field.rules kind ++ (edit.batch? kind .after).getD [] := by
  cases edit with
  | label text => cases kind <;> simp [Edit.batch?, Edit.apply, FieldRules.rules, FieldRules.withLabel]
  | add k placement batch =>
    cases k <;> cases kind <;> cases placement <;>
      simp [Edit.batch?, Edit.apply, FieldRules.rules, FieldRules.addSanitizations, FieldRules.addValidations,
        Placement.add]
  | clear k =>
    have differ : k ≠ kind := fun same => other (same ▸ rfl)
    cases k <;> cases kind <;>
      simp [Edit.batch?, Edit.apply, FieldRules.rules, FieldRules.clearSanitizations,
        FieldRules.clearValidations] at differ ⊢

lemma labelAfter_concat (id : String) (edits : List Edit) (edit : Edit) :
    labelAfter id (edits ++ [edit]) = edit.label?.getD (labelAfter id edits) := by
  rw [labelAfter, labelAfter, List.filterMap_append]
  cases edit <;> simp [Edit.label?]

lemma rulesAfter_concat_clear (kind : RuleKind) (edits : List Edit) :
    rulesAfter kind (edits ++ [.clear kind]) = [] := by
  have nothing : (edits ++ [Edit.clear kind]).rtakeWhile (· ≠ .clear kind) = [] :=
    List.rtakeWhile_concat_neg _ _ _ (by simp)
  rw [rulesAfter, nothing]
  rfl

lemma rulesAfter_concat (edits : List Edit) (other : edit ≠ .clear kind) :
    rulesAfter kind (edits ++ [edit]) =
      (edit.batch? kind .before).getD [] ++ rulesAfter kind edits ++ (edit.batch? kind .after).getD [] := by
  have recent : (edits ++ [edit]).rtakeWhile (· ≠ .clear kind) =
      edits.rtakeWhile (· ≠ .clear kind) ++ [edit] :=
    List.rtakeWhile_concat_pos _ _ _ (by simpa using other)
  rw [rulesAfter, rulesAfter, recent]
  simp only [List.filterMap_append]
  cases before : edit.batch? kind .before <;> cases after : edit.batch? kind .after <;>
    simp [before, after]

lemma label_edited (id : String) (edits : List Edit) :
    ((FieldRules.ofId id).edited edits).label = labelAfter id edits := by
  induction edits using List.reverseRecOn with
  | nil => rfl
  | append_singleton edits edit ih =>
    rw [FieldRules.edited_append, labelAfter_concat, ← ih]
    exact label_apply _ edit

/-- The last edit acts on the rules that the edits before it lead to. -/
lemma rules_edited (id : String) (kind : RuleKind) (edits : List Edit) :
    ((FieldRules.ofId id).edited edits).rules kind = rulesAfter kind edits := by
  induction edits using List.reverseRecOn with
  | nil => cases kind <;> rfl
  | append_singleton edits edit ih =>
    rw [FieldRules.edited_append]
    by_cases clears : edit = .clear kind
    · rw [clears, rulesAfter_concat_clear]
      exact rules_apply_clear _ kind
    · rw [rulesAfter_concat edits clears, ← ih]
      exact rules_apply _ clears

/-- A new field after edits. -/
theorem edited_ofId (id : String) (edits : List Edit) :
    (FieldRules.ofId id).edited edits =
      ⟨labelAfter id edits, rulesAfter .sanitization edits, rulesAfter .validation edits⟩ := by
  rw [← label_edited, ← rules_edited, ← rules_edited]
  rfl

end Summary

/-! ### What operations say about fields -/

/-- The rules of a text; a missing or blank text has none. -/
def Rule.batch (kind : RuleKind) (text : Option String) : List Rule :=
  (Rule.ofOptional kind text).toOption.getD []

lemma Rule.batch_of_ok {kind : RuleKind} {text : Option String} {rules : List Rule}
    (read : Rule.ofOptional kind text = .ok rules) : Rule.batch kind text = rules := by
  rw [batch, read]
  rfl

lemma Rule.ofOptional_of_blank {text : String} (blank : Text.isAllBlank text.toList = true) (kind : RuleKind) :
    Rule.ofOptional kind (some text) = .ok [] := if_pos blank

/-- What a field spec says about its field. -/
def FieldSpec.edits (spec : FieldSpec) : List Edit :=
  spec.label.toList.map .label ++
    [.add .sanitization .after (Rule.batch .sanitization spec.sanitizations),
      .add .validation .after (Rule.batch .validation spec.validations)]

namespace Operation

variable {engine next : Engine} {operation : Operation} {mentioned : List String}

/-- The fields that an operation mentions, in order. Fields are not mentioned by
clearing them. -/
def mentions : Operation → List String
  | configure configuration => configuration.fields.keys
  | setLabels labels => Keyed.keys labels
  | setSanitizations _ texts => Keyed.keys texts
  | setValidations texts => Keyed.keys texts
  | clearSanitizations _ => []
  | clearValidations _ => []

/-- What an operation says about one field, in order. -/
def edits (id : String) : Operation → List Edit
  | configure configuration => (configuration.fields.all id).flatMap FieldSpec.edits
  | setLabels labels => (Keyed.all labels id).map .label
  | setSanitizations placement texts =>
    (Keyed.all texts id).map fun text => .add .sanitization placement (Rule.batch .sanitization (some text))
  | setValidations texts =>
    (Keyed.all texts id).map fun text => .add .validation .after (Rule.batch .validation (some text))
  | clearSanitizations ids => if ids.all (id ∈ ·) then [.clear .sanitization] else []
  | clearValidations ids => if ids.all (id ∈ ·) then [.clear .validation] else []

/-! ### One operation -/

section Entries

variable {α β : Type} {entries : List (String × α)} {read : α → Except RuleTextError β}
  {change : β → FieldRules → FieldRules}

lemma changeByEntries_eq_ok (done : changeByEntries engine entries read change = .ok next) :
    ∃ added : Keyed β, Keyed.Alike (fun a b => read a = .ok b) entries added ∧
      next = added.foldl (fun engine (id, b) => engine.changeField id (change b)) engine := by
  obtain ⟨added, given, done⟩ := bind_eq_ok_iff.mp done
  refine ⟨added, (mapM_eq_ok_iff.mp given).imp ?_, (Except.ok.inj done).symm⟩
  intro entry read_entry one
  obtain ⟨b, value, rfl⟩ := map_eq_ok_iff.mp one
  exact ⟨rfl, value⟩

lemma keys_changeByEntries (h : engine.fields.keys = mentioned.eraseDups)
    (done : changeByEntries engine entries read change = .ok next) :
    next.fields.keys = (mentioned ++ Keyed.keys entries).eraseDups := by
  obtain ⟨added, alike, rfl⟩ := changeByEntries_eq_ok done
  rw [← alike.keys_eq]
  exact Engine.keys_foldl_changeField change added h

/-- If what is read from an entry changes a field like some edits, all entries of
a field change it like their edits. -/
lemma fieldOf_changeByEntries {edits : α → List Edit}
    (each : ∀ a b field, read a = .ok b → change b field = field.edited (edits a))
    (done : changeByEntries engine entries read change = .ok next) (id : String) :
    next.fieldOf id = (engine.fieldOf id).edited ((Keyed.all entries id).flatMap edits) := by
  have changes : ∀ (values : List α) (out : List β), List.Forall₂ (fun a b => read a = .ok b) values out →
      ∀ field : FieldRules, out.foldl (fun field b => change b field) field = field.edited (values.flatMap edits) := by
    intro values out related
    induction related with
    | nil => exact fun field => rfl
    | cons first _ ih =>
      intro field
      rw [List.foldl_cons, List.flatMap_cons, FieldRules.edited_append, ih, each _ _ field first]
  obtain ⟨added, alike, rfl⟩ := changeByEntries_eq_ok done
  rw [Engine.fieldOf_foldl_changeField]
  exact changes _ _ (alike.all id) (engine.fieldOf id)

end Entries

/-- A field spec that is read changes a field like its edits. -/
lemma addTo_eq_edited {spec : FieldSpec} {addition : Engine.Addition}
    (read : Engine.Addition.ofSpec spec = .ok addition) (field : FieldRules) :
    addition.addTo field = field.edited spec.edits := by
  obtain ⟨sanitizations, first, read⟩ := bind_eq_ok_iff.mp read
  obtain ⟨validations, second, read⟩ := bind_eq_ok_iff.mp read
  cases read
  rw [FieldSpec.edits, Rule.batch_of_ok first, Rule.batch_of_ok second]
  cases spec.label <;> rfl

/-- The engine after rule texts of one kind are read and added in one place. -/
def addTexts (engine : Engine) (kind : RuleKind) (placement : Placement) (texts : List (String × String)) :
    Except RuleTextError Engine :=
  changeByEntries engine texts (fun text => Rule.ofOptional kind (some text)) fun rules field =>
    Edit.apply field (.add kind placement rules)

lemma fieldOf_addTexts {kind : RuleKind} {placement : Placement} {texts : List (String × String)}
    (done : addTexts engine kind placement texts = .ok next) (id : String) :
    next.fieldOf id = (engine.fieldOf id).edited
      ((Keyed.all texts id).map fun text => .add kind placement (Rule.batch kind (some text))) := by
  rw [List.map_eq_flatMap]
  refine fieldOf_changeByEntries (fun text rules field read => ?_) done id
  rw [Rule.batch_of_ok read]
  rfl

lemma perform_configure (engine : Engine) (configuration : Configuration) :
    perform engine (configure configuration) =
      changeByEntries engine configuration.fields Engine.Addition.ofSpec Engine.Addition.addTo := rfl

lemma perform_setSanitizations (engine : Engine) (placement : Placement) (texts : List (String × String)) :
    perform engine (setSanitizations placement texts) = addTexts engine .sanitization placement texts := rfl

lemma perform_setValidations (engine : Engine) (texts : List (String × String)) :
    perform engine (setValidations texts) = addTexts engine .validation .after texts := rfl

lemma keys_perform (h : engine.fields.keys = mentioned.eraseDups) (done : operation.perform engine = .ok next) :
    next.fields.keys = (mentioned ++ operation.mentions).eraseDups := by
  cases operation with
  | configure configuration =>
    rw [perform_configure] at done
    exact keys_changeByEntries h done
  | setLabels labels =>
    cases done
    exact Engine.keys_foldl_changeField (fun label field => field.withLabel label) labels h
  | setSanitizations placement texts =>
    rw [perform_setSanitizations] at done
    exact keys_changeByEntries h done
  | setValidations texts =>
    rw [perform_setValidations] at done
    exact keys_changeByEntries h done
  | clearSanitizations ids =>
    cases done
    rw [mentions, List.append_nil, ← h]
    exact Engine.keys_changeFields engine ids FieldRules.clearSanitizations
  | clearValidations ids =>
    cases done
    rw [mentions, List.append_nil, ← h]
    exact Engine.keys_changeFields engine ids FieldRules.clearValidations

/-- An operation does to a field what it says about it. -/
lemma fieldOf_perform (done : operation.perform engine = .ok next) (id : String) :
    next.fieldOf id = (engine.fieldOf id).edited (operation.edits id) := by
  cases operation with
  | configure configuration =>
    rw [perform_configure] at done
    exact fieldOf_changeByEntries (fun spec addition field read => addTo_eq_edited read field) done id
  | setLabels labels =>
    cases done
    rw [edits, FieldRules.edited, List.foldl_map]
    exact Engine.fieldOf_foldl_changeField (fun label field => field.withLabel label) labels engine id
  | setSanitizations placement texts =>
    rw [perform_setSanitizations] at done
    exact fieldOf_addTexts done id
  | setValidations texts =>
    rw [perform_setValidations] at done
    exact fieldOf_addTexts done id
  | clearSanitizations ids =>
    cases done
    have cleared := Engine.fieldOf_changeFields (f := FieldRules.clearSanitizations) (fun _ => rfl)
      (fun _ => rfl) engine ids id
    rw [Engine.clearSanitizations, cleared, edits]
    split <;> rfl
  | clearValidations ids =>
    cases done
    have cleared := Engine.fieldOf_changeFields (f := FieldRules.clearValidations) (fun _ => rfl)
      (fun _ => rfl) engine ids id
    rw [Engine.clearValidations, cleared, edits]
    split <;> rfl

/-! ### All operations -/

/-- The fields of an engine are what operations say about them. -/
structure SumsUp (succeeded : List Operation) (engine : Engine) : Prop where
  keys : engine.fields.keys = (succeeded.flatMap mentions).eraseDups
  fieldOf : ∀ id, engine.fieldOf id = (FieldRules.ofId id).edited (succeeded.flatMap (edits id))

namespace SumsUp

variable {succeeded : List Operation}

lemma ofRegistry (registry : Registry) : SumsUp [] (Engine.ofRegistry registry) := ⟨rfl, fun _ => rfl⟩

/-- One more operation. -/
lemma perform (h : SumsUp succeeded engine) (done : operation.perform engine = .ok next) :
    SumsUp (succeeded ++ [operation]) next where
  keys := by
    rw [keys_perform h.keys done, List.flatMap_append, List.flatMap_singleton]
  fieldOf id := by
    rw [fieldOf_perform done id, h.fieldOf id, List.flatMap_append, List.flatMap_singleton,
      FieldRules.edited_append]

/-- Any number of operations, of which those that fail do not count. -/
lemma callAll (h : SumsUp succeeded engine) (operations : List Operation) :
    SumsUp (succeeded ++ ((callAll operations).run engine).1) ((callAll operations).run engine).2 := by
  induction operations generalizing succeeded engine with
  | nil =>
    have none : (Operation.callAll []).run engine = ([], engine) := rfl
    rw [none, List.append_nil]
    exact h
  | cons operation rest ih =>
    rw [run_callAll_cons]
    cases done : operation.perform engine with
    | ok next =>
      have after := ih (h.perform done)
      rw [List.append_assoc] at after
      exact after
    | error e => exact ih h

/-- The fields as a list. -/
lemma fields_eq (h : SumsUp succeeded engine) :
    engine.fields = (succeeded.flatMap mentions).eraseDups.map fun id =>
      (id, (FieldRules.ofId id).edited (succeeded.flatMap (edits id))) := by
  have nodup : engine.fields.keys.Nodup := by
    rw [h.keys]
    exact nodup_eraseDups _
  rw [Engine.fields_eq_map nodup, h.keys]
  exact List.map_congr_left fun id _ => by rw [h.fieldOf]

end SumsUp

/-- A call that fails changes nothing. -/
lemma eq_of_call_error {after : Engine} {e : RuleTextError} (failed : operation.call.on engine = (.error e, after)) :
    after = engine := by
  rw [on_call] at failed
  cases done : operation.perform engine with
  | ok next =>
    rw [done] at failed
    cases failed
  | error e' =>
    rw [done] at failed
    exact (Prod.mk.inj failed).2.symm

/-- **The fields after any sequence of calls.** A call does what the operation on the engine
does, and one that fails changes nothing. After calls on a new engine, its fields are those
that the calls that succeeded mention, in the order of first mention. Each has the last label that was set for
it, or else the one made from its id; and its rules are the batches since they were
last cleared, those put before the others, latest first, and then those put after
them. A blank text is an empty batch. -/
theorem fields_callAll (registry : Registry) (operations : List Operation) :
    (∀ (operation : Operation) (engine : Engine), operation.call.on engine =
      match operation.perform engine with
      | .ok next => (.ok (), next)
      | .error e => (.error e, engine)) ∧
    (∀ (operation : Operation) (engine after : Engine) (e : RuleTextError),
      operation.call.on engine = (.error e, after) → after = engine) ∧
    (∀ (kind : RuleKind) (text : String), Text.isAllBlank text.toList = true →
      Rule.ofOptional kind (some text) = .ok [] ∧ Rule.batch kind (some text) = []) ∧
    ∃ succeeded engine, (callAll operations).run (Engine.ofRegistry registry) = (succeeded, engine) ∧
      engine.fields = (succeeded.flatMap mentions).eraseDups.map fun id =>
        let said := succeeded.flatMap (edits id)
        (id, ⟨labelAfter id said, rulesAfter .sanitization said, rulesAfter .validation said⟩) := by
  refine ⟨on_call, fun operation engine after e failed => eq_of_call_error failed, fun kind text blank => ?_, ?_⟩
  · have nothing := Rule.ofOptional_of_blank blank kind
    exact ⟨nothing, Rule.batch_of_ok nothing⟩
  · have sums := (SumsUp.ofRegistry registry).callAll operations
    rcases ran : (callAll operations).run (Engine.ofRegistry registry) with ⟨succeeded, engine⟩
    rw [ran, List.nil_append] at sums
    refine ⟨succeeded, engine, rfl, ?_⟩
    rw [sums.fields_eq]
    simp only [edited_ofId]

/-- A batch with a text that cannot be read, behind one that can; then a label,
rules before and after others in the same batch twice, and a field that is
cleared. -/
theorem fields_callAll_mixed :
    let broken : Operation := .setValidations [("age", "required"), ("name", "|:oops")]
    let others : List Operation :=
      [.configure ⟨[("name", ⟨some "Full name", some "trim", none⟩)]⟩,
        .setSanitizations .after [("city", "lower"), ("name", "upper|digits")],
        .setSanitizations .before [("name", "slug"), ("name", "alpha"), ("zip_code", " ")],
        .clearSanitizations (some ["city", "gone"]), .setValidations [("city", "required")]]
    (∃ e, broken.call.on (Engine.ofRegistry .initial) = (.error e, Engine.ofRegistry .initial)) ∧
      ∃ engine, (callAll (broken :: others)).run (Engine.ofRegistry .initial) = (others, engine) ∧
        engine.fields =
          [("name", ⟨"Full name", [⟨"alpha", [], none⟩, ⟨"slug", [], none⟩, ⟨"trim", [], none⟩,
              ⟨"upper", [], none⟩, ⟨"digits", [], none⟩], []⟩),
            ("city", ⟨"City", [], [⟨"required", [], none⟩]⟩), ("zip_code", ⟨"Zip Code", [], []⟩)] := by
  intro broken others
  obtain ⟨-, kept, -, succeeded, engine, ran, fields⟩ := fields_callAll .initial (broken :: others)
  have refused : (broken.call.on (Engine.ofRegistry .initial)).1.isOk = false := by decide +kernel
  have all_others : ((callAll (broken :: others)).run (Engine.ofRegistry .initial)).1 = others := by
    decide +kernel
  have same : succeeded = others := by rw [← all_others, ran]
  subst same
  refine ⟨?_, engine, ran, fields.trans (by decide +kernel)⟩
  rcases called : broken.call.on (Engine.ofRegistry .initial) with ⟨answer, after⟩
  rw [called] at refused
  cases answer with
  | ok done => cases refused
  | error e => exact ⟨e, by rw [kept _ _ _ _ called]⟩

end Operation

end RecordRules
