/-
Defaults for fields that are required.

* `Json.isBlank_of_mapLeaves`: where no leaf is made blank, no value is but the
  containers that have nothing in them;
* `Synonym.isAllBlank_resolve`: an argument that is not blank stands for one that is not;
* `Engine.applyRules_default`: what a default makes of a value;
* `Engine.default_then_required`: after a default, a field fails as required iff it is an
  empty container.
-/
import RecordRules.Proofs.Engine.Arguments
import RecordRules.Proofs.Engine.Presence
import RecordRules.Proofs.Engine.Settling

namespace RecordRules

/-! ### Values that are not blank -/

namespace Json

variable {f : Json → Except Fault Json} {value out : Json}

/-- Containers are blank iff they have nothing in them, and rules on leaves do not add or
remove items. -/
lemma isBlank_of_mapLeaves (fills : ∀ leaf, leaf.IsLeaf → ∀ made, f leaf = .ok made → made.isBlank = false)
    (ran : value.mapLeaves f = .ok out) : out.isBlank = true ↔ value = .array [] ∨ value = .object [] := by
  cases value with
  | array items =>
    obtain ⟨made, changed, rfl⟩ := map_eq_ok_iff.mp ran
    rw [mapItems_eq_mapM] at changed
    rw [isBlank, isEmpty_of_mapM changed]
    simp
  | object members =>
    obtain ⟨made, changed, rfl⟩ := map_eq_ok_iff.mp ran
    rw [mapMembers_eq_mapM] at changed
    rw [isBlank, isEmpty_of_mapM changed]
    simp
  | null | bool | number | string =>
    have full : out.isBlank = false := fills _ (by trivial) out ran
    simp [full]

end Json

/-- No entry of the table stands for a blank, and other arguments stand for themselves. -/
lemma Synonym.isAllBlank_resolve {token : String} (full : Text.isAllBlank token.toList = false) :
    Text.isAllBlank (resolve token).toList = false := by
  have table : ∀ entry ∈ entries, ∀ other ∈ lookup? entry, Text.isAllBlank other.toList = false := by
    decide +kernel
  rw [resolve]
  cases found : lookup? (Text.lowerString token) with
  | none => exact full
  | some other =>
    have entry : Text.lowerString token ∈ entries := by
      by_contra absent
      rw [lookup?_eq_none_iff.mpr absent] at found
      cases found
    exact table _ entry other found

lemma Sanitizer.isLeaf_applyDefault {arguments : List String} {leaf : Json} (isLeaf : leaf.IsLeaf) :
    (applyDefault leaf arguments).IsLeaf := by
  cases arguments with
  | nil => exact isLeaf
  | cons fallback rest =>
    rw [applyDefault]
    split
    · trivial
    · exact isLeaf

/-- A leaf that is left alone is not blank for the engine, as it is not for the default. -/
lemma Sanitizer.isBlank_applyDefault {fallback : String} {rest : List String} {leaf : Json} (isLeaf : leaf.IsLeaf)
    (full : Text.isAllBlank fallback.toList = false) : (applyDefault leaf (fallback :: rest)).isBlank = false := by
  rw [applyDefault]
  split
  · exact full
  · next kept =>
    cases leaf with
    | array | object => exact isLeaf.elim
    | null => exact absurd rfl kept
    | string s => exact Bool.eq_false_iff.mpr kept
    | bool | number => rfl

/-! ### Fields -/

namespace Engine

variable {surroundings : Surroundings} {engine : Engine} {registry : Registry} {record out : Record} {rule : Rule}
  {id : String} {value : Json}

/-- A default runs on every value. No leaf is blank afterwards, however deep it is, but an
empty container has no leaf and stays. -/
lemma applyRules_default (named : Text.lowerString rule.name = Sanitizer.default.name) {x : String}
    (first : rule.arguments.head? = some x) (full : Text.isAllBlank x.toList = false) (registry : Registry)
    (value : Json) :
    ∃ final, applyRules registry [rule] value = .ok final ∧ (∀ leaf ∈ final.leaves, leaf.isBlank = false) ∧
      (final.isBlank = true ↔ value = .array [] ∨ value = .object []) := by
  obtain ⟨rest, arguments⟩ := List.head?_eq_some_iff.mp first
  have fills : ∀ leaf : Json, leaf.IsLeaf → ∀ made,
      Sanitizer.default.apply leaf (Synonym.resolveAll rule.arguments) = .ok made → made.isBlank = false := by
    intro leaf isLeaf made applied
    rw [arguments] at applied
    cases applied
    exact Sanitizer.isBlank_applyDefault isLeaf (Synonym.isAllBlank_resolve full)
  obtain ⟨final, ran⟩ := Json.exists_mapLeaves
    (f := fun leaf => Sanitizer.default.apply leaf (Synonym.resolveAll rule.arguments))
    (fun leaf _ => ⟨_, rfl⟩) value
  refine ⟨final, ?_, ?_, Json.isBlank_of_mapLeaves fills ran⟩
  · rw [applyRules, List.foldlM_cons, applyRule_of_named named, ran]
    rfl
  · intro leaf mem
    obtain ⟨before, there, made, applied, mem⟩ := Json.exists_made_of_mem_leaves ran mem
    have before_leaf := Json.isLeaf_of_mem_leaves there
    have made_leaf : made.IsLeaf := by
      cases applied
      exact Sanitizer.isLeaf_applyDefault before_leaf
    rw [made_leaf.leaves_eq, List.mem_singleton] at mem
    rw [mem]
    exact fills before before_leaf made applied

/-- A record that cannot be sanitized fails by the rules of one of its fields, on the value
that the record has there. -/
lemma exists_field_of_sanitize_error {e : Fault} (nodup : engine.fields.keys.Nodup)
    (failed : engine.sanitize record = .error e) :
    ∃ id field value, (id, field) ∈ engine.fields ∧ record.get? id = some value ∧
      applyRules engine.registry field.sanitizations value = .error e := by
  obtain ⟨before, ⟨id, field⟩, after, reached, fields, ran, failed⟩ := foldlM_eq_error_iff.mp failed
  obtain ⟨value, present, failed⟩ := sanitizeField_eq_error_iff.mp failed
  rw [fields, Keyed.keys, List.map_append, List.map_cons] at nodup
  -- no field before it has its id
  have fresh : id ∉ Keyed.keys before := fun mem =>
    (List.nodup_append.mp nodup).2.2 id mem id List.mem_cons_self rfl
  have sanitized := sanitized_of_sanitizeFields (List.nodup_append.mp nodup).1 ran
  refine ⟨id, field, value, ?_, ?_, failed⟩
  · rw [fields]
    exact List.mem_append_right _ List.mem_cons_self
  · rw [← sanitized.other id fresh]
    exact present

/-- A rule that requires a value records nothing iff the value is not blank. -/
lemma judge_required_iff {asked : Rule} (named : Text.lowerString asked.name = Validator.required.name)
    (label : String) :
    judge surroundings registry record id label asked = .ok none ↔ Failure.isBlank (record.get? id) = false := by
  have called : Failure.isBlank (record.get? id) = true → Validator.required.checksPresence = true := fun _ => rfl
  rw [judge_of_named named, verdictOf, if_pos called, Validator.check_required]
  cases Failure.isBlank (record.get? id) <;> simp [Except.map]

/-- **After a default, a field is required.** Where a default is the only sanitization of a
field, and what it puts in is not blank, the field is sanitized whatever its value is, so a
record that cannot be sanitized fails by another field. No leaf of the new value is blank,
and a rule that requires the field passes, unless the value is an empty array or an empty
object: it has no leaf that the default could replace. -/
theorem default_then_required (nodup : engine.fields.keys.Nodup)
    (only : (engine.fieldOf id).sanitizations = [rule])
    (named : Text.lowerString rule.name = Sanitizer.default.name) {x : String}
    (first : rule.arguments.head? = some x) (full : Text.isAllBlank x.toList = false)
    (present : record.get? id = some value) :
    (∀ e, engine.sanitize record = .error e → ∃ other field value, (other, field) ∈ engine.fields ∧ other ≠ id ∧
      record.get? other = some value ∧ applyRules engine.registry field.sanitizations value = .error e) ∧
    ∃ final, applyRules engine.registry (engine.fieldOf id).sanitizations value = .ok final ∧
      (∀ leaf ∈ final.leaves, leaf.isBlank = false) ∧
      (final.isBlank = true ↔ value = .array [] ∨ value = .object []) ∧
      ∀ out, engine.sanitize record = .ok out → out.get? id = some final ∧
        ∀ (asked : Rule) surroundings label, Text.lowerString asked.name = Validator.required.name →
          (judge surroundings engine.registry out id label asked = .ok none ↔
            ¬ (value = .array [] ∨ value = .object [])) := by
  obtain ⟨final, applied, filled, blank_iff⟩ := applyRules_default named first full engine.registry value
  have there : (id, engine.fieldOf id) ∈ engine.fields := by
    refine mem_fields_of_fieldOf_ne fun bare => ?_
    rw [bare] at only
    cases only
  rw [only]
  refine ⟨fun e failed => ?_, final, applied, filled, blank_iff, fun out ran => ?_⟩
  · obtain ⟨other, field, input, configured, given, failed⟩ := exists_field_of_sanitize_error nodup failed
    refine ⟨other, field, input, configured, ?_, given, failed⟩
    rintro rfl
    rw [← fieldOf_of_mem nodup configured, only] at failed
    cases given.symm.trans present
    rw [applied] at failed
    cases failed
  · obtain ⟨resolved, made, found, own, holds⟩ :=
      (sanitized_of_sanitizeFields nodup ran).own id (engine.fieldOf id) value there present
    rw [only] at found
    have same := applied.symm.trans (applyRules_eq_ok_iff.mpr ⟨resolved, found, own⟩)
    cases same
    refine ⟨holds, fun asked surroundings label asks => ?_⟩
    rw [judge_required_iff asks, holds, ← blank_iff, Bool.not_eq_true]
    rfl

/-- A default for the nothings deep inside an object; and for an array of nothing, which it
does not fill. -/
theorem default_then_required_tags :
    let required : Rule := ⟨"required", [], none⟩
    let engine : Engine := ⟨[("tags", ⟨"Tags", [⟨"Default", ["n/a"], none⟩], [required]⟩)], [], .initial⟩
    let value : Json := .object [("a", .null), ("b", .array [.string " ", .bool false, .array []])]
    let final : Json := .object [("a", .string "n/a"), ("b", .array [.string "n/a", .bool false, .array []])]
    engine.fields.keys.Nodup ∧ engine.sanitize [("tags", value)] = .ok [("tags", final)] ∧
      (∀ leaf ∈ final.leaves, leaf.isBlank = false) ∧
      judge .newYear engine.registry [("tags", final)] "tags" "Tags" required = .ok none ∧
      engine.sanitize [("tags", .array [])] = .ok [("tags", .array [])] ∧
      judge .newYear engine.registry [("tags", .array [])] "tags" "Tags" required ≠ .ok none := by
  intro required engine value final
  have nodup : engine.fields.keys.Nodup := by decide
  have only : (engine.fieldOf "tags").sanitizations = [⟨"Default", ["n/a"], none⟩] := rfl
  have filled : engine.sanitize [("tags", value)] = .ok [("tags", final)] := rfl
  have kept : engine.sanitize [("tags", .array [])] = .ok [("tags", .array [])] := rfl
  have present : Keyed.get? [("tags", value)] "tags" = some value := rfl
  have present' : Keyed.get? [("tags", Json.array [])] "tags" = some (.array []) := rfl
  obtain ⟨-, made, -, leaves, -, passes⟩ :=
    default_then_required nodup only (by decide) rfl (by decide) present
  obtain ⟨-, made', -, -, -, fails⟩ :=
    default_then_required nodup only (by decide) rfl (by decide) present'
  obtain ⟨holds, passed⟩ := passes _ filled
  cases holds
  obtain ⟨-, failed⟩ := fails _ kept
  refine ⟨nodup, filled, leaves, (passed required .newYear "Tags" (by decide)).mpr ?_, kept,
    fun recorded => ?_⟩
  · simp [value]
  · exact (failed required .newYear "Tags" (by decide)).mp recorded (.inl rfl)

/-- An empty array stays as it is under a default. -/
theorem not_default_then_required :
    ¬ ∀ (engine : Engine), engine.Reachable → ∀ (id : String) (rule : Rule) (x : String),
      (engine.fieldOf id).sanitizations = [rule] → rule.name = Sanitizer.default.name → rule.arguments = [x] →
      Text.isAllBlank x.toList = false → ∀ (record : Record) (value : Json), record.get? id = some value →
      ∀ out, engine.sanitize record = .ok out →
        Failure.isBlank (out.get? id) = false ∧
          ∀ surroundings, Validator.required.check surroundings id out [] = .ok true := by
  intro filled
  let engine : Engine := ⟨[("a", ⟨Label.humanize "a", [⟨"default", ["x"], none⟩], []⟩)], [], .initial⟩
  have read : readRules .sanitization [("a", "default:x")] = .ok [("a", [⟨"default", ["x"], none⟩])] := by
    decide +kernel
  have added : (ofRegistry .initial).setSanitizations .after [("a", "default:x")] = .ok engine :=
    bind_eq_ok_iff.mpr ⟨_, read, rfl⟩
  have reached : engine.Reachable := (Reachable.ofRegistry _).setSanitizations added
  have kept : engine.sanitize [("a", .array [])] = .ok [("a", .array [])] := rfl
  have full := (filled engine reached "a" _ "x" rfl rfl rfl (by decide) [("a", .array [])] _ rfl _ kept).1
  cases full

end Engine

end RecordRules
