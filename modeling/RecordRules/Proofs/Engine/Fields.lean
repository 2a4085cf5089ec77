/-
The fields of engines.

* `Engine.fieldOf`: the label and the rules of a field, also of one that is not
  there; one with rules is (`Engine.mem_fields_of_fieldOf_ne`);
* `Engine.fieldOf_foldl_changeField`, `Engine.keys_foldl_changeField`,
  `Engine.fieldOf_changeFields`: the fields after the changes of one operation;
* `Engine.Reachable`: the engines that come about from an engine without fields
  by the operations on engines;
* `Engine.Reachable.nodup_fields`: no field of theirs comes twice.
-/
import RecordRules.Engine.Basic
import RecordRules.Proofs.Folds
import RecordRules.Proofs.Keyed

namespace RecordRules.Engine

variable {engine next : Engine} {id : String}

/-! ### Looking at fields -/

/-- The label and the rules of a field. A field that is not there has those of a
new one. -/
def fieldOf (engine : Engine) (id : String) : FieldRules := (engine.field? id).getD (FieldRules.ofId id)

lemma label_fieldOf (engine : Engine) (id : String) : (engine.fieldOf id).label = engine.labelOf id := by
  rw [fieldOf, labelOf]
  cases engine.field? id <;> rfl

lemma fieldOf_of_mem (nodup : engine.fields.keys.Nodup) {field : FieldRules}
    (mem : (id, field) ∈ engine.fields) : engine.fieldOf id = field := by
  rw [fieldOf, field?, Keyed.get?_of_mem nodup mem]
  rfl

lemma fieldOf_eq_ofId (absent : id ∉ engine.fields.keys) : engine.fieldOf id = FieldRules.ofId id := by
  rw [fieldOf, field?, Keyed.get?_eq_none_iff.mpr absent]
  rfl

lemma mem_fields_of_mem_keys (there : id ∈ engine.fields.keys) : (id, engine.fieldOf id) ∈ engine.fields := by
  obtain ⟨field, found⟩ := Keyed.mem_keys_iff.mp there
  have same : engine.fieldOf id = field := by
    rw [fieldOf, field?, found]
    rfl
  rw [same]
  exact Keyed.mem_of_get? found

/-- A field that is not like a new one is there. -/
lemma mem_fields_of_fieldOf_ne (differ : engine.fieldOf id ≠ FieldRules.ofId id) :
    (id, engine.fieldOf id) ∈ engine.fields := by
  refine mem_fields_of_mem_keys ?_
  by_contra absent
  exact differ (fieldOf_eq_ofId absent)

lemma fields_eq_map (nodup : engine.fields.keys.Nodup) :
    engine.fields = engine.fields.keys.map fun id => (id, engine.fieldOf id) := by
  have itself : ∀ m ∈ engine.fields, (m.1, engine.fieldOf m.1) = m := fun m mem => by
    rw [fieldOf_of_mem nodup mem]
  calc engine.fields
      = engine.fields.map id := (List.map_id _).symm
    _ = engine.fields.map fun m => (m.1, engine.fieldOf m.1) :=
        List.map_congr_left fun m mem => (itself m mem).symm
    _ = engine.fields.keys.map fun id => (id, engine.fieldOf id) := by rw [Keyed.keys, List.map_map]; rfl

/-! ### Changing fields -/

lemma fields_foldl_changeField {α : Type} (f : α → FieldRules → FieldRules) (added : Keyed α)
    (engine : Engine) :
    (added.foldl (fun engine (key, a) => engine.changeField key (f a)) engine).fields =
      added.foldl (fun list (key, a) => list.changeOrAdd (FieldRules.ofId key) key (f a)) engine.fields := by
  induction added generalizing engine with
  | nil => rfl
  | cons m rest ih => exact ih (engine.changeField m.1 (f m.2))

lemma fieldOf_foldl_changeField {α : Type} (f : α → FieldRules → FieldRules) (added : Keyed α)
    (engine : Engine) (id : String) :
    (added.foldl (fun engine (key, a) => engine.changeField key (f a)) engine).fieldOf id =
      (added.all id).foldl (fun field a => f a field) (engine.fieldOf id) := by
  rw [fieldOf, field?, fields_foldl_changeField]
  exact Keyed.getD_foldl_changeOrAdd FieldRules.ofId f added engine.fields id

lemma keys_foldl_changeField {α : Type} {mentioned : List String} (f : α → FieldRules → FieldRules)
    (added : Keyed α) (h : engine.fields.keys = mentioned.eraseDups) :
    (added.foldl (fun engine (key, a) => engine.changeField key (f a)) engine).fields.keys =
      (mentioned ++ added.keys).eraseDups := by
  rw [fields_foldl_changeField]
  exact Keyed.keys_foldl_changeOrAdd FieldRules.ofId f added h

lemma registry_foldl_changeField {α : Type} (f : α → FieldRules → FieldRules) (added : Keyed α)
    (engine : Engine) :
    (added.foldl (fun engine (key, a) => engine.changeField key (f a)) engine).registry = engine.registry := by
  induction added generalizing engine with
  | nil => rfl
  | cons m rest ih => exact ih (engine.changeField m.1 (f m.2))

lemma keys_changeFields (engine : Engine) (ids : Option (List String)) (f : FieldRules → FieldRules) :
    (engine.changeFields ids f).fields.keys = engine.fields.keys := by
  cases ids with
  | none => exact List.map_map
  | some ids => exact Keyed.keys_foldl_change ids f engine.fields

/-- A change of given fields, or of all. It does nothing to new fields, so that
it does not matter which fields are there. -/
lemma fieldOf_changeFields {f : FieldRules → FieldRules} (new : ∀ id, f (FieldRules.ofId id) = FieldRules.ofId id)
    (twice : ∀ field, f (f field) = f field) (engine : Engine) (ids : Option (List String)) (id : String) :
    (engine.changeFields ids f).fieldOf id =
      if ids.all (id ∈ ·) then f (engine.fieldOf id) else engine.fieldOf id := by
  have found : (engine.changeFields ids f).field? id =
      if ids.all (id ∈ ·) then (engine.field? id).map f else engine.field? id := by
    cases ids with
    | none => exact Keyed.get?_map engine.fields f id
    | some ids =>
      simp only [Option.all_some, decide_eq_true_eq]
      exact Keyed.get?_foldl_change twice ids engine.fields id
  rw [fieldOf, found, fieldOf]
  split
  · cases engine.field? id with
    | none => exact (new id).symm
    | some field => rfl
  · rfl

/-! ### One operation -/

lemma nodup_changeField (h : engine.fields.keys.Nodup) (id : String) (f : FieldRules → FieldRules) :
    (engine.changeField id f).fields.keys.Nodup :=
  Keyed.nodup_keys_changeOrAdd _ h id f

lemma nodup_changeField_foldl {α : Type} (h : engine.fields.keys.Nodup) (added : List (String × α))
    (f : α → FieldRules → FieldRules) :
    (added.foldl (fun engine (id, a) => engine.changeField id (f a)) engine).fields.keys.Nodup := by
  induction added generalizing engine with
  | nil => exact h
  | cons m rest ih => exact ih (nodup_changeField h m.1 (f m.2))

lemma nodup_changeFields (h : engine.fields.keys.Nodup) (ids : Option (List String))
    (f : FieldRules → FieldRules) : (engine.changeFields ids f).fields.keys.Nodup := by
  rw [keys_changeFields]
  exact h

lemma nodup_configure {configuration : Configuration} (h : engine.fields.keys.Nodup)
    (done : engine.configure configuration = .ok next) : next.fields.keys.Nodup := by
  obtain ⟨additions, -, done⟩ := bind_eq_ok_iff.mp done
  cases done
  exact nodup_changeField_foldl h additions Addition.addTo

lemma nodup_setSanitizations {placement : Placement} {texts : List (String × String)}
    (h : engine.fields.keys.Nodup) (done : engine.setSanitizations placement texts = .ok next) :
    next.fields.keys.Nodup := by
  obtain ⟨added, -, done⟩ := bind_eq_ok_iff.mp done
  cases done
  exact nodup_changeField_foldl h added fun rules => (·.addSanitizations placement rules)

lemma nodup_setValidations {texts : List (String × String)} (h : engine.fields.keys.Nodup)
    (done : engine.setValidations texts = .ok next) : next.fields.keys.Nodup := by
  obtain ⟨added, -, done⟩ := bind_eq_ok_iff.mp done
  cases done
  exact nodup_changeField_foldl h added fun rules => (·.addValidations .after rules)

/-- Judging a record leaves the fields as they are. -/
lemma fields_validate {surroundings : Surroundings} {record : Record}
    (done : validate surroundings engine record = .ok next) : next.fields = engine.fields := by
  obtain ⟨failures, -, rfl⟩ := map_eq_ok_iff.mp done
  rfl

/-- Running the rules leaves the fields as they are. -/
lemma fields_run {surroundings : Surroundings} {record : Record} {checkUnknown : Bool}
    {result : Option Record} (done : run surroundings engine record checkUnknown = .ok (next, result)) :
    next.fields = engine.fields := by
  obtain ⟨sanitized, -, done⟩ := bind_eq_ok_iff.mp done
  obtain ⟨failures, -, done⟩ := bind_eq_ok_iff.mp done
  cases done
  rfl

/-! ### All operations -/

/-- The engines that come about by the operations on engines. Rules may be added
to the registry at any time. -/
inductive Reachable : Engine → Prop where
  | ofRegistry (registry : Registry) : Reachable (ofRegistry registry)
  | withRegistry {engine : Engine} (reached : Reachable engine) (registry : Registry) :
      Reachable { engine with registry := registry }
  | configure {engine next : Engine} {configuration : Configuration} (reached : Reachable engine)
      (done : engine.configure configuration = .ok next) : Reachable next
  | setLabels {engine : Engine} (reached : Reachable engine) (labels : List (String × String)) :
      Reachable (engine.setLabels labels)
  | setSanitizations {engine next : Engine} {placement : Placement} {texts : List (String × String)}
      (reached : Reachable engine) (done : engine.setSanitizations placement texts = .ok next) :
      Reachable next
  | setValidations {engine next : Engine} {texts : List (String × String)}
      (reached : Reachable engine) (done : engine.setValidations texts = .ok next) : Reachable next
  | clearSanitizations {engine : Engine} (reached : Reachable engine) (ids : Option (List String)) :
      Reachable (engine.clearSanitizations ids)
  | clearValidations {engine : Engine} (reached : Reachable engine) (ids : Option (List String)) :
      Reachable (engine.clearValidations ids)
  | validate {surroundings : Surroundings} {engine next : Engine} {record : Record}
      (reached : Reachable engine) (done : validate surroundings engine record = .ok next) :
      Reachable next
  | run {surroundings : Surroundings} {engine next : Engine} {record : Record} {checkUnknown : Bool}
      {result : Option Record} (reached : Reachable engine)
      (done : run surroundings engine record checkUnknown = .ok (next, result)) : Reachable next

/-- **No field comes twice.** -/
theorem Reachable.nodup_fields (h : Reachable engine) : engine.fields.keys.Nodup := by
  induction h with
  | ofRegistry => exact List.nodup_nil
  | withRegistry _ _ ih => exact ih
  | configure _ done ih => exact nodup_configure ih done
  | setLabels _ labels ih => exact nodup_changeField_foldl ih labels fun label => (·.withLabel label)
  | setSanitizations _ done ih => exact nodup_setSanitizations ih done
  | setValidations _ done ih => exact nodup_setValidations ih done
  | clearSanitizations _ ids ih => exact nodup_changeFields ih ids _
  | clearValidations _ ids ih => exact nodup_changeFields ih ids _
  | validate _ done ih => rw [fields_validate done]; exact ih
  | run _ done ih => rw [fields_run done]; exact ih

end RecordRules.Engine
