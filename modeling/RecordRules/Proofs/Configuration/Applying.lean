/-
A configuration that passed the check can be applied.

* `FieldSpec.Readable`: the rule texts of a field can be read;
* `FieldSpec.faults_eq_nil_iff`, `FieldSpec.exists_addition_iff`: the check of a
  field and its reading both come down to this;
* `FieldSpec.Readable.overlay`: a spec on top of another one brings no new texts;
* `Configuration.defects_eq_nil_iff`, `Engine.exists_configure_iff`: the check of a
  configuration, and its use by an engine;
* `Configuration.exists_ofFiles_iff`: files make an engine iff each of them holds a
  configuration;
* `Configuration.applies_of_checked`: configurations that passed the check make an
  engine, however many there are on top of one another.

The check collects all faults and the engine stops at the first one; both leave
blank rule texts alone.
-/
import RecordRules.Proofs.Configuration.Loading

namespace RecordRules

/-! ### One field -/

namespace FieldSpec

variable {spec lower upper : FieldSpec}

/-- The rule texts of a field can be read. -/
structure Readable (spec : FieldSpec) : Prop where
  sanitizations : ∃ rules, Rule.ofOptional .sanitization spec.sanitizations = .ok rules
  validations : ∃ rules, Rule.ofOptional .validation spec.validations = .ok rules

lemma faults_eq_nil_iff : spec.faults = [] ↔ spec.Readable := by
  rw [faults]
  cases first : Rule.ofOptional .sanitization spec.sanitizations with
  | error e => exact ⟨nofun, fun ⟨⟨_, read⟩, _⟩ => nomatch first.symm.trans read⟩
  | ok sanitizations =>
    cases second : Rule.ofOptional .validation spec.validations with
    | error e => exact ⟨nofun, fun ⟨_, ⟨_, read⟩⟩ => nomatch second.symm.trans read⟩
    | ok validations => exact ⟨fun _ => ⟨⟨_, first⟩, ⟨_, second⟩⟩, fun _ => rfl⟩

lemma exists_addition_iff : (∃ addition, Engine.Addition.ofSpec spec = .ok addition) ↔ spec.Readable := by
  constructor
  · rintro ⟨addition, read⟩
    obtain ⟨sanitizations, first, read⟩ := bind_eq_ok_iff.mp read
    obtain ⟨validations, second, -⟩ := bind_eq_ok_iff.mp read
    exact ⟨⟨sanitizations, first⟩, ⟨validations, second⟩⟩
  · rintro ⟨⟨sanitizations, first⟩, ⟨validations, second⟩⟩
    refine ⟨⟨spec.label, sanitizations, validations⟩, ?_⟩
    rw [Engine.Addition.ofSpec, first, second]
    rfl

lemma readable_empty : empty.Readable := ⟨⟨[], rfl⟩, ⟨[], rfl⟩⟩

/-- Every rule text of a spec on top of another one is a text of one of them. -/
lemma Readable.overlay (below : lower.Readable) (above : upper.Readable) : (lower.overlay upper).Readable := by
  have either {kind : RuleKind} {a b : Option String} (first : ∃ rules, Rule.ofOptional kind a = .ok rules)
      (second : ∃ rules, Rule.ofOptional kind b = .ok rules) :
      ∃ rules, Rule.ofOptional kind (a <|> b) = .ok rules := by
    cases a with
    | none => exact second
    | some text => exact first
  exact ⟨either above.sanitizations below.sanitizations, either above.validations below.validations⟩

end FieldSpec

/-! ### All fields -/

namespace Engine

/-- Whether a configuration can be applied does not depend on the engine. -/
lemma exists_configure_iff {engine : Engine} {configuration : Configuration} :
    (∃ next, engine.configure configuration = .ok next) ↔ ∀ m ∈ configuration.fields, m.2.Readable := by
  have reading : (∃ next, engine.configure configuration = .ok next) ↔
      ∃ additions, (configuration.fields.mapM fun m =>
        (Addition.ofSpec m.2).map fun addition => (m.1, addition)) = .ok additions := by
    constructor
    · rintro ⟨next, done⟩
      obtain ⟨additions, read, -⟩ := bind_eq_ok_iff.mp done
      exact ⟨additions, read⟩
    · rintro ⟨additions, read⟩
      exact ⟨_, bind_eq_ok_iff.mpr ⟨additions, read, rfl⟩⟩
  rw [reading, exists_mapM_eq_ok_iff]
  refine forall₂_congr fun m _ => ?_
  rw [← FieldSpec.exists_addition_iff]
  constructor
  · rintro ⟨_, read⟩
    obtain ⟨addition, read, -⟩ := map_eq_ok_iff.mp read
    exact ⟨addition, read⟩
  · rintro ⟨addition, read⟩
    exact ⟨_, map_eq_ok_iff.mpr ⟨addition, read, rfl⟩⟩

end Engine

namespace Configuration

variable {configuration lower upper : Configuration} {layers : List Configuration}

lemma fieldDefects_eq_nil_iff {id : String} {spec : FieldSpec} :
    fieldDefects id spec = [] ↔ Text.isAllBlank id.toList = false ∧ spec.Readable := by
  rw [fieldDefects]
  split
  · next blank =>
    rw [blank]
    exact ⟨nofun, nofun⟩
  · next filled =>
    rw [List.map_eq_nil_iff, FieldSpec.faults_eq_nil_iff]
    exact (and_iff_right (Bool.eq_false_iff.mpr filled)).symm

lemma defects_eq_nil_iff :
    configuration.defects = [] ↔
      ∀ m ∈ configuration.fields, Text.isAllBlank m.1.toList = false ∧ m.2.Readable := by
  rw [defects, List.flatMap_eq_nil_iff]
  exact forall₂_congr fun m _ => fieldDefects_eq_nil_iff

/-- What has no defects has none on top of what has none. -/
lemma defects_overlay (below : lower.defects = []) (above : upper.defects = []) :
    (lower.overlay upper).defects = [] := by
  rw [defects_eq_nil_iff] at below above ⊢
  obtain ⟨fields⟩ := lower
  obtain ⟨added⟩ := upper
  rw [overlay]
  induction added generalizing fields with
  | nil => exact below
  | cons m rest ih =>
    obtain ⟨first, above⟩ := List.forall_mem_cons.mp above
    refine ih _ (Keyed.forall_mem_changeOrAdd below ?_ fun spec field => ?_) above
    · exact ⟨first.1, FieldSpec.readable_empty.overlay first.2⟩
    · exact ⟨field.1, field.2.overlay first.2⟩

lemma defects_foldl_overlay (sound : ∀ layer ∈ layers, layer.defects = []) :
    (layers.foldl overlay empty).defects = [] := by
  induction layers using List.reverseRecOn with
  | nil => rfl
  | append_singleton layers layer ih =>
    obtain ⟨below, top⟩ := List.forall_mem_append.mp sound
    rw [List.foldl_concat]
    exact defects_overlay (ih below) (top layer (List.mem_singleton.mpr rfl))

/-- A configuration without defects can be applied to every engine. -/
lemma exists_configure_of_defects (sound : configuration.defects = []) (engine : Engine) :
    ∃ next, engine.configure configuration = .ok next :=
  Engine.exists_configure_iff.mpr fun m mem => (defects_eq_nil_iff.mp sound m mem).2

/-- If no id is blank, a configuration has no defects iff it can be applied. -/
lemma defects_eq_nil_iff_configure (filled : ∀ id ∈ configuration.fields.keys, Text.isAllBlank id.toList = false)
    (engine : Engine) :
    configuration.defects = [] ↔ ∃ next, engine.configure configuration = .ok next := by
  refine ⟨fun sound => exists_configure_of_defects sound engine, fun applied => ?_⟩
  rw [defects_eq_nil_iff]
  exact fun m mem => ⟨filled m.1 (Keyed.mem_keys_of_mem mem), Engine.exists_configure_iff.mp applied m mem⟩

/-- Files whose configurations are read passed the check. -/
lemma defects_of_ofFiles {files : Files} {paths : List String} (read : ofFiles files paths = .ok configuration) :
    configuration.defects = [] := by
  obtain ⟨layers, each, rfl⟩ := map_eq_ok_iff.mp read
  refine defects_foldl_overlay fun layer mem => ?_
  obtain ⟨path, -, from_file⟩ := exists_of_mem_mapM each mem
  exact checked_eq_self_iff.mp (loaded_ofFile from_file).checked

lemma ofFile_ne_inapplicable (files : Files) (path : String) (error : RuleTextError) :
    ofFile files path ≠ .error (.inapplicable error) := by
  rw [ofFile]
  intro failed
  split at failed
  · cases failed
  · obtain ⟨_, -, other⟩ := mapError_eq_error_iff.mp failed
    cases other

/-- No files make a configuration that cannot be applied. -/
lemma ofFiles_ne_inapplicable (registry : Registry) (files : Files) (paths : List String) (error : RuleTextError) :
    Engine.ofFiles registry files paths ≠ .error (.inapplicable error) := by
  intro failed
  rcases bind_eq_error_iff.mp failed with unread | ⟨configuration, read, unapplied⟩
  · obtain ⟨path, -, unread⟩ := exists_mem_of_mapM_error (map_eq_error_iff.mp unread)
    exact ofFile_ne_inapplicable files path error unread
  · obtain ⟨fault, refused, -⟩ := mapError_eq_error_iff.mp unapplied
    obtain ⟨engine, applied⟩ := exists_configure_of_defects (defects_of_ofFiles read) (Engine.ofRegistry registry)
    rw [Engine.ofConfiguration, applied] at refused
    cases refused

/-- Configuration files make an engine iff each of them holds a configuration. -/
lemma exists_ofFiles_iff {registry : Registry} {files : Files} {paths : List String} :
    (∃ engine, Engine.ofFiles registry files paths = .ok engine) ↔
      ∀ path ∈ paths, ∃ configuration, ofFile files path = .ok configuration := by
  rw [← exists_mapM_eq_ok_iff]
  constructor
  · rintro ⟨engine, loaded⟩
    obtain ⟨configuration, read, -⟩ := bind_eq_ok_iff.mp loaded
    obtain ⟨layers, each, -⟩ := map_eq_ok_iff.mp read
    exact ⟨layers, each⟩
  · rintro ⟨layers, each⟩
    have read : ofFiles files paths = .ok (layers.foldl overlay empty) := map_eq_ok_iff.mpr ⟨layers, each, rfl⟩
    obtain ⟨engine, applied⟩ := exists_configure_of_defects (defects_of_ofFiles read) (Engine.ofRegistry registry)
    exact ⟨engine, bind_eq_ok_iff.mpr ⟨_, read, mapError_eq_ok_iff.mpr applied⟩⟩

/-- A fault of loading is that of a file. -/
lemma exists_path_of_ofFiles {registry : Registry} {files : Files} {paths : List String}
    {fault : LoadFault} (failed : Engine.ofFiles registry files paths = .error fault) :
    ∃ path ∈ paths, ofFile files path = .error fault := by
  rcases bind_eq_error_iff.mp failed with unread | ⟨configuration, -, unapplied⟩
  · exact exists_mem_of_mapM_error (map_eq_error_iff.mp unread)
  · obtain ⟨error, -, rfl⟩ := mapError_eq_error_iff.mp unapplied
    exact absurd failed (ofFiles_ne_inapplicable registry files paths error)

/-- **A configuration that passed the check can be applied.** All configurations
that are read passed it. Layers of such configurations make an engine, so loading
files never fails at that point. Without blank ids, a configuration passes the check
iff it can be applied to every engine. -/
theorem applies_of_checked :
    (∀ text configuration, ofJson text = .ok configuration ∨ ofYaml text = .ok configuration →
      configuration.checked = .ok configuration) ∧
    (∀ files path configuration, ofFile files path = .ok configuration →
      configuration.checked = .ok configuration) ∧
    (∀ (registry : Registry) (layers : List Configuration), (∀ layer ∈ layers, layer.checked = .ok layer) →
      ∃ engine, Engine.ofConfiguration registry (layers.foldl overlay empty) = .ok engine) ∧
    (∀ registry files paths error, Engine.ofFiles registry files paths ≠ .error (.inapplicable error)) ∧
    ∀ configuration : Configuration,
      (∀ id ∈ configuration.fields.keys, Text.isAllBlank id.toList = false) →
      (configuration.checked = .ok configuration ↔
        ∀ engine : Engine, ∃ next, engine.configure configuration = .ok next) := by
  refine ⟨?_, fun files path configuration read => (loaded_ofFile read).checked, ?_, ofFiles_ne_inapplicable, ?_⟩
  · rintro text configuration (read | read)
    · exact (loaded_ofJson read).checked
    · exact (loaded_ofYaml read).checked
  · intro registry layers checked
    have sound := defects_foldl_overlay fun layer mem => checked_eq_self_iff.mp (checked layer mem)
    exact exists_configure_of_defects sound (Engine.ofRegistry registry)
  · intro configuration filled
    rw [checked_eq_self_iff]
    refine ⟨exists_configure_of_defects, fun applied => ?_⟩
    exact (defects_eq_nil_iff_configure filled (Engine.ofRegistry Registry.initial)).mpr (applied _)

/-- A layer that replaces one of two rule texts of a field and has a blank one for
another field; and a configuration that fails the check, and so cannot be
applied. -/
theorem applies_of_checked_layers :
    let base : Configuration := ⟨[("name", ⟨none, some "trim|upper", some "required"⟩)]⟩
    let user : Configuration :=
      ⟨[("age", ⟨some "Age", some " ", none⟩), ("name", ⟨none, none, some "minlen:2;'few'"⟩)]⟩
    let broken : Configuration := ⟨[("name", ⟨none, some "trim", some "required|:5"⟩)]⟩
    (∀ layer ∈ [base, user], layer.checked = .ok layer) ∧
      (∃ engine, Engine.ofConfiguration Registry.initial ([base, user].foldl overlay empty) = .ok engine) ∧
      (∀ id ∈ broken.fields.keys, Text.isAllBlank id.toList = false) ∧
      broken.checked ≠ .ok broken ∧ ¬ ∀ engine : Engine, ∃ next, engine.configure broken = .ok next := by
  intro base user broken
  have checked : ∀ layer ∈ [base, user], layer.checked = .ok layer := by decide +kernel
  have filled : ∀ id ∈ broken.fields.keys, Text.isAllBlank id.toList = false := by decide +kernel
  have refused : broken.checked ≠ .ok broken := by decide +kernel
  obtain ⟨-, -, layered, -, applied⟩ := applies_of_checked
  refine ⟨checked, layered Registry.initial _ checked, filled, refused, fun everywhere => ?_⟩
  exact refused ((applied broken filled).mpr everywhere)

end Configuration

end RecordRules
