/-
What the configurations of texts and files are like.

* `Configuration.checked_eq_ok_iff`: what passes the check is handed on as it is;
* `Configuration.Loaded`: a configuration that passed the check and in which no
  field comes twice;
* `Configuration.loaded_ofJson`, `Configuration.loaded_ofYaml`,
  `Configuration.loaded_ofFile`: every configuration that is read is such a one.

A second spec of a field replaces the first one in its place, in both formats, so
that the fields of a text never come twice.
-/
import RecordRules.Engine.Load
import RecordRules.Proofs.Folds
import RecordRules.Proofs.Keyed

namespace RecordRules.Configuration

variable {configuration : Configuration} {fields out : Keyed FieldSpec}

/-! ### The check -/

/-- What passes the check has no defects and is handed on as it is. -/
lemma checked_eq_ok_iff {given : Configuration} :
    given.checked = .ok configuration ↔ configuration = given ∧ given.defects = [] := by
  rw [checked]
  split
  · next sound =>
    rw [Except.ok.injEq]
    exact ⟨fun same => ⟨same.symm, List.isEmpty_iff.mp sound⟩, fun h => h.1.symm⟩
  · next faulty =>
    refine ⟨nofun, ?_⟩
    rintro ⟨-, none⟩
    exact absurd (List.isEmpty_iff.mpr none) faulty

lemma checked_eq_self_iff : configuration.checked = .ok configuration ↔ configuration.defects = [] := by
  rw [checked_eq_ok_iff]
  exact and_iff_right rfl

/-- A configuration that passed the check, and in which no field comes twice. -/
structure Loaded (configuration : Configuration) : Prop where
  checked : configuration.checked = .ok configuration
  nodup : configuration.fields.keys.Nodup

lemma loaded_of_checked (nodup : fields.keys.Nodup) (h : checked ⟨fields⟩ = .ok configuration) :
    configuration.Loaded := by
  obtain ⟨rfl, none⟩ := checked_eq_ok_iff.mp h
  exact ⟨checked_eq_self_iff.mpr none, nodup⟩

lemma nodup_getD {result : Option (Keyed FieldSpec)} (h : ∀ fields ∈ result, fields.keys.Nodup) :
    (result.getD []).keys.Nodup := by
  cases result with
  | none => exact List.nodup_nil
  | some fields => exact h fields rfl

/-! ### JSON -/

lemma nodup_fieldsOfMembers {members : List (Option String × Json.Outline)} (nodup : fields.keys.Nodup)
    (read : fieldsOfMembers fields members = .ok out) : out.keys.Nodup := by
  induction members generalizing fields with
  | nil =>
    cases read
    exact nodup
  | cons member rest ih =>
    obtain ⟨_ | id, item⟩ := member
    · cases read
    · obtain ⟨spec, -, read⟩ := bind_eq_ok_iff.mp read
      exact ih (Keyed.nodup_keys_put nodup id spec) read

lemma nodup_fieldsOfJson {outline : Json.Outline} (read : fieldsOfJson outline = .ok out) : out.keys.Nodup := by
  cases outline with
  | object members =>
    refine nodup_fieldsOfMembers ?_ read
    exact List.nodup_nil
  | _ => cases read

lemma nodup_fieldsOfTop {found result : Option (Keyed FieldSpec)} {members : List (Option String × Json.Outline)}
    (nodup : ∀ fields ∈ found, fields.keys.Nodup) (read : fieldsOfTop found members = .ok result) :
    ∀ fields ∈ result, fields.keys.Nodup := by
  induction members generalizing found with
  | nil =>
    cases read
    exact nodup
  | cons member rest ih =>
    obtain ⟨_ | name, item⟩ := member
    · cases read
    · rw [fieldsOfTop] at read
      split at read
      · split at read
        · cases read
        · obtain ⟨fields, inner, read⟩ := bind_eq_ok_iff.mp read
          refine ih ?_ read
          rintro _ ⟨⟩
          exact nodup_fieldsOfJson inner
      · split at read
        · exact ih nodup read
        · cases read

lemma nodup_fieldsOfOutline {outline : Json.Outline} (read : fieldsOfOutline outline = .ok out) :
    out.keys.Nodup := by
  cases outline with
  | object members =>
    obtain ⟨result, inner, rfl⟩ := map_eq_ok_iff.mp read
    refine nodup_getD (nodup_fieldsOfTop ?_ inner)
    exact fun _ => nofun
  | array items =>
    cases items with
    | nil =>
      cases read
      exact List.nodup_nil
    | cons item rest =>
      obtain ⟨fields, inner, read⟩ := bind_eq_ok_iff.mp read
      split at read
      · cases read
        exact nodup_fieldsOfJson inner
      · cases read
  | _ => cases read

/-- **Every configuration in JSON** passed the check, and no field of it comes
twice. -/
theorem loaded_ofJson {text : String} (read : ofJson text = .ok configuration) : configuration.Loaded := by
  obtain ⟨fields, text_read, read⟩ := bind_eq_ok_iff.mp read
  obtain ⟨fields', inner, complete⟩ := bind_eq_ok_iff.mp text_read
  split at complete
  · cases complete
    exact loaded_of_checked (nodup_fieldsOfOutline inner) read
  · cases complete

/-! ### YAML -/

lemma nodup_fieldsOfEntries {place : List String} {entries : List (Yaml.Node × Yaml.Node)}
    (nodup : fields.keys.Nodup) (read : fieldsOfEntries place fields entries = .ok out) : out.keys.Nodup := by
  induction entries generalizing fields with
  | nil =>
    cases read
    exact nodup
  | cons entry rest ih =>
    obtain ⟨id, -, read⟩ := bind_eq_ok_iff.mp read
    obtain ⟨spec, -, read⟩ := bind_eq_ok_iff.mp read
    exact ih (Keyed.nodup_keys_put nodup id spec) read

lemma nodup_fieldsOfTopEntries {found result : Option (Keyed FieldSpec)}
    {entries : List (Yaml.Node × Yaml.Node)} (nodup : ∀ fields ∈ found, fields.keys.Nodup)
    (read : fieldsOfTopEntries found entries = .ok result) : ∀ fields ∈ result, fields.keys.Nodup := by
  induction entries generalizing found with
  | nil =>
    cases read
    exact nodup
  | cons entry rest ih =>
    obtain ⟨name, -, read⟩ := bind_eq_ok_iff.mp read
    split at read
    · split at read
      · cases read
      · obtain ⟨inner, -, read⟩ := bind_eq_ok_iff.mp read
        obtain ⟨fields, inside, read⟩ := bind_eq_ok_iff.mp read
        refine ih ?_ read
        rintro _ ⟨⟩
        refine nodup_fieldsOfEntries ?_ inside
        exact List.nodup_nil
    · exact ih nodup read

lemma nodup_fieldsOfDocument {document : Option Yaml.Node} (read : fieldsOfDocument document = .ok out) :
    out.keys.Nodup := by
  cases document with
  | none =>
    cases read
    exact List.nodup_nil
  | some node =>
    obtain ⟨entries, -, read⟩ := bind_eq_ok_iff.mp read
    obtain ⟨result, inner, rfl⟩ := map_eq_ok_iff.mp read
    refine nodup_getD (nodup_fieldsOfTopEntries ?_ inner)
    exact fun _ => nofun

/-- **Every configuration in YAML** passed the check, and no field of it comes
twice. -/
theorem loaded_ofYaml {text : String} (read : ofYaml text = .ok configuration) : configuration.Loaded := by
  obtain ⟨fields, text_read, read⟩ := bind_eq_ok_iff.mp read
  rw [fieldsOfYamlText] at text_read
  split at text_read
  · exact loaded_of_checked (nodup_fieldsOfDocument text_read) read
  · cases text_read

/-! ### Files -/

/-- **Every configuration in a file** passed the check, and no field of it comes
twice. -/
theorem loaded_ofFile {files : Files} {path : String} (read : ofFile files path = .ok configuration) :
    configuration.Loaded := by
  rw [ofFile] at read
  split at read
  · cases read
  · have inner := mapError_eq_ok_iff.mp read
    split at inner
    · exact loaded_ofJson inner
    · exact loaded_ofYaml inner

end RecordRules.Configuration
