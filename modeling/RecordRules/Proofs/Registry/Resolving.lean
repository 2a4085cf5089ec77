/-
What names stand for in a registry.

* `Registry.findSanitizer?_of_builtin`, `Registry.findSanitizer?_of_custom`,
  `Registry.findSanitizer?_of_not_covers` and those for validators: which of the rules
  of a name comes first;
* `Registry.sanitizer_of_named`, `Registry.validator?_of_named`: a rule that is
  always there, with its arguments resolved; `Registry.sanitizer_initial`: a text
  function that is there from the start;
* `Registry.of_findSanitizer?`, `Registry.of_findValidator?`: the name under which a
  rule is found, and the table that has it;
* `Registry.isSome_findSanitizer?_iff`, `Registry.isSome_findValidator?_iff`: the
  names that stand for a rule at all;
* `Registry.findSanitizer?_congr`, `Registry.findValidator?_congr`: the entries that
  this depends on;
* `Registry.Extends`: a registry with more rules; names that stood for a rule still
  do (`Registry.Extends.isSome_findSanitizer?`,
  `Registry.Extends.isSome_findValidator?`).
-/
import Mathlib.Tactic.Lemma
import RecordRules.Proofs.Keyed
import RecordRules.Proofs.Text.LowerCase
import RecordRules.Registry

namespace RecordRules

/-! ### The rules that are always there -/

lemma Sanitizer.named?_name (sanitizer : Sanitizer) : named? sanitizer.name = some sanitizer := by
  cases sanitizer <;> decide +kernel

lemma Validator.named?_name (validator : Validator) : named? validator.name = some validator := by
  cases validator <;> decide +kernel

/-- The names are in lower case. -/
lemma Sanitizer.lowerString_name (sanitizer : Sanitizer) : Text.lowerString sanitizer.name = sanitizer.name := by
  cases sanitizer <;> decide +kernel

lemma Validator.lowerString_name (validator : Validator) : Text.lowerString validator.name = validator.name := by
  cases validator <;> decide +kernel

lemma Sanitizer.isSome_named?_iff {name : String} : (named? name).isSome ↔ name ∈ all.map Sanitizer.name := by
  simp [named?, List.find?_isSome]

lemma Validator.isSome_named?_iff {name : String} : (named? name).isSome ↔ name ∈ all.map Validator.name := by
  simp [named?, List.find?_isSome]

/-- The names of text functions are in lower case, none comes twice, and none is a synonym
or the name of a sanitizer. -/
lemma TextFunction.of_mem_defaults : ∀ entry ∈ defaults,
    Text.lowerString entry.1 = entry.1 ∧ Synonym.resolve entry.1 = entry.1 ∧
      Sanitizer.named? entry.1 = none ∧ defaults.lookup entry.1 = some entry.2 := by
  decide +kernel

namespace Registry

variable {registry before after : Registry} {name : String}

/-! ### Which rule comes first -/

lemma findSanitizer?_of_builtin {sanitizer : Sanitizer} (h : Sanitizer.named? name = some sanitizer) :
    registry.findSanitizer? name = some (name, .builtin sanitizer) := by
  simp [findSanitizer?, h]

lemma findSanitizer?_of_custom {rule : CustomSanitizer} (free : Sanitizer.named? name = none)
    (h : registry.sanitizers.get? name = some rule) : registry.findSanitizer? name = some (name, .custom rule) := by
  simp [findSanitizer?, free, h]

/-- For a name there is a rule that comes before every text function. -/
def Covers (registry : Registry) (name : String) : Prop :=
  (Sanitizer.named? name).isSome ∨ (registry.sanitizers.get? name).isSome ∨
    (Sanitizer.named? (Synonym.resolve name)).isSome

lemma findSanitizer?_of_not_covers (uncovered : ¬ registry.Covers name) :
    registry.findSanitizer? name =
      ((registry.textFunctions.get? name).map fun f => (name, .text f)).or
        ((registry.textFunctions.get? (Synonym.resolve name)).map fun f => (Synonym.resolve name, .text f)) := by
  simp only [Covers, not_or, Option.not_isSome_iff_eq_none] at uncovered
  obtain ⟨builtin, custom, synonym⟩ := uncovered
  simp [findSanitizer?, builtin, custom, synonym]

/-- A text function that is found by a synonym of its name. -/
lemma findSanitizer?_of_synonym {other : String} {function : String → String} (uncovered : ¬ registry.Covers name)
    (free : registry.textFunctions.get? name = none) (synonym : Synonym.resolve name = other)
    (h : registry.textFunctions.get? other = some function) :
    registry.findSanitizer? name = some (other, .text function) := by
  rw [findSanitizer?_of_not_covers uncovered, free, synonym, h]
  rfl

lemma findValidator?_of_builtin {validator : Validator} (h : Validator.named? name = some validator) :
    registry.findValidator? name = some (name, .builtin validator) := by
  simp [findValidator?, h]

lemma findValidator?_of_custom {rule : CustomValidator} (free : Validator.named? name = none)
    (h : registry.validators.get? name = some rule) : registry.findValidator? name = some (name, .custom rule) := by
  simp [findValidator?, free, h]

/-! ### Under which name a rule is found -/

section Found

variable {canonical : String}

/-- A name stands for a rule under its own name or under its synonym, and the table of the
rule has it there. Text functions are found only if no other rule comes first. -/
lemma of_findSanitizer? {rule : SanitizerRule} (found : registry.findSanitizer? name = some (canonical, rule)) :
    (canonical = name ∨ canonical = Synonym.resolve name) ∧
      ((∃ sanitizer, rule = .builtin sanitizer ∧ Sanitizer.named? canonical = some sanitizer) ∨
        (∃ custom, rule = .custom custom ∧ Sanitizer.named? canonical = none ∧
          registry.sanitizers.get? canonical = some custom) ∨
        ∃ f, rule = .text f ∧ ¬ registry.Covers name ∧ registry.textFunctions.get? canonical = some f) := by
  by_cases covered : registry.Covers name
  · cases named : Sanitizer.named? name with
    | some sanitizer =>
      rw [findSanitizer?_of_builtin named] at found
      cases found
      exact ⟨.inl rfl, .inl ⟨sanitizer, rfl, named⟩⟩
    | none =>
      cases own : registry.sanitizers.get? name with
      | some custom =>
        rw [findSanitizer?_of_custom named own] at found
        cases found
        exact ⟨.inl rfl, .inr (.inl ⟨custom, rfl, named, own⟩)⟩
      | none =>
        have synonym : (Sanitizer.named? (Synonym.resolve name)).isSome := by
          simpa [Covers, named, own] using covered
        obtain ⟨sanitizer, named'⟩ := Option.isSome_iff_exists.mp synonym
        have pair : (Synonym.resolve name, SanitizerRule.builtin sanitizer) = (canonical, rule) := by
          simpa [findSanitizer?, named, own, named'] using found
        cases pair
        exact ⟨.inr rfl, .inl ⟨sanitizer, rfl, named'⟩⟩
  · rw [findSanitizer?_of_not_covers covered, Option.or_eq_some_iff] at found
    rcases found with own | ⟨-, synonym⟩
    · obtain ⟨f, kept, pair⟩ := Option.map_eq_some_iff.mp own
      cases pair
      exact ⟨.inl rfl, .inr (.inr ⟨f, rfl, covered, kept⟩)⟩
    · obtain ⟨f, kept, pair⟩ := Option.map_eq_some_iff.mp synonym
      cases pair
      exact ⟨.inr rfl, .inr (.inr ⟨f, rfl, covered, kept⟩)⟩

/-- A name stands for a rule that is always there, under its own name or under its synonym,
or for the custom rule of its own name. -/
lemma of_findValidator? {rule : ValidatorRule} (found : registry.findValidator? name = some (canonical, rule)) :
    (canonical = name ∨ canonical = Synonym.resolve name) ∧
      ((∃ validator, rule = .builtin validator ∧ Validator.named? canonical = some validator) ∨
        ∃ custom, rule = .custom custom ∧ Validator.named? canonical = none ∧
          registry.validators.get? canonical = some custom) := by
  cases named : Validator.named? name with
  | some validator =>
    rw [findValidator?_of_builtin named] at found
    cases found
    exact ⟨.inl rfl, .inl ⟨validator, rfl, named⟩⟩
  | none =>
    cases own : registry.validators.get? name with
    | some custom =>
      rw [findValidator?_of_custom named own] at found
      cases found
      exact ⟨.inl rfl, .inr ⟨custom, rfl, named, own⟩⟩
    | none =>
      have synonym : (Validator.named? (Synonym.resolve name)).map
          (fun validator => (Synonym.resolve name, ValidatorRule.builtin validator)) = some (canonical, rule) := by
        simpa [findValidator?, named, own] using found
      obtain ⟨validator, named', pair⟩ := Option.map_eq_some_iff.mp synonym
      cases pair
      exact ⟨.inr rfl, .inl ⟨validator, rfl, named'⟩⟩

end Found

/-! ### Which names stand for a rule -/

lemma isSome_findSanitizer?_iff :
    (registry.findSanitizer? name).isSome ↔
      (Sanitizer.named? name).isSome ∨ (registry.sanitizers.get? name).isSome ∨
        (Sanitizer.named? (Synonym.resolve name)).isSome ∨ (registry.textFunctions.get? name).isSome ∨
        (registry.textFunctions.get? (Synonym.resolve name)).isSome := by
  simp [findSanitizer?, Option.isSome_or]

lemma isSome_findValidator?_iff :
    (registry.findValidator? name).isSome ↔
      (Validator.named? name).isSome ∨ (registry.validators.get? name).isSome ∨
        (Validator.named? (Synonym.resolve name)).isSome := by
  simp [findValidator?, Option.isSome_or]

/-! ### What the rule of a name depends on -/

lemma findSanitizer?_congr (custom : after.sanitizers.get? name = before.sanitizers.get? name)
    (text : after.textFunctions.get? name = before.textFunctions.get? name)
    (synonym : after.textFunctions.get? (Synonym.resolve name) = before.textFunctions.get? (Synonym.resolve name)) :
    after.findSanitizer? name = before.findSanitizer? name := by
  simp only [findSanitizer?, custom, text, synonym]

lemma findValidator?_congr (custom : after.validators.get? name = before.validators.get? name) :
    after.findValidator? name = before.findValidator? name := by
  simp only [findValidator?, custom]

/-! ### Written names -/

section Written

variable {written : String} {arguments : List String}

lemma sanitizer_of_find {canonical : String} {rule : SanitizerRule}
    (found : registry.findSanitizer? (Text.lowerString written) = some (canonical, rule)) :
    registry.sanitizer written arguments = .ok ⟨canonical, Synonym.resolveAll arguments, rule⟩ := by
  rw [sanitizer, found]

lemma validator?_of_find {canonical : String} {rule : ValidatorRule}
    (found : registry.findValidator? (Text.lowerString written) = some (canonical, rule)) :
    registry.validator? written arguments = some ⟨canonical, Synonym.resolveAll arguments, rule⟩ := by
  rw [validator?, found]
  rfl

lemma found_of_sanitizer {resolved : Resolved SanitizerRule}
    (h : registry.sanitizer written arguments = .ok resolved) :
    registry.findSanitizer? (Text.lowerString written) = some (resolved.name, resolved.rule) := by
  rw [sanitizer] at h
  cases found : registry.findSanitizer? (Text.lowerString written) with
  | none =>
    rw [found] at h
    cases h
  | some entry =>
    rw [found] at h
    cases h
    rfl

lemma found_of_validator? {resolved : Resolved ValidatorRule}
    (h : registry.validator? written arguments = some resolved) :
    registry.findValidator? (Text.lowerString written) = some (resolved.name, resolved.rule) := by
  obtain ⟨entry, found, rfl⟩ := Option.map_eq_some_iff.mp h
  exact found

/-- A rule that is always there comes first, whatever the registry. -/
lemma sanitizer_of_named {sanitizer : Sanitizer} (named : Text.lowerString written = sanitizer.name) :
    registry.sanitizer written arguments =
      .ok ⟨sanitizer.name, Synonym.resolveAll arguments, .builtin sanitizer⟩ := by
  refine sanitizer_of_find ?_
  rw [named]
  exact findSanitizer?_of_builtin sanitizer.named?_name

lemma validator?_of_named {validator : Validator} (named : Text.lowerString written = validator.name) :
    registry.validator? written arguments =
      some ⟨validator.name, Synonym.resolveAll arguments, .builtin validator⟩ := by
  refine validator?_of_find ?_
  rw [named]
  exact findValidator?_of_builtin validator.named?_name

/-- In a new registry the name of a text function stands for it. -/
lemma sanitizer_initial {function : TextFunction} (default : (name, function) ∈ TextFunction.defaults) :
    initial.sanitizer name arguments =
      .ok ⟨name, Synonym.resolveAll arguments, .text fun s => String.ofList (function.apply s.toList)⟩ := by
  obtain ⟨lower, itself, free, found⟩ := TextFunction.of_mem_defaults _ default
  dsimp only at lower itself free found
  have uncovered : ¬ initial.Covers name := by
    rw [Covers, itself, free]
    simp [initial, Keyed.get?]
  have kept : initial.textFunctions.get? name = some fun s => String.ofList (function.apply s.toList) := by
    refine (Keyed.get?_map TextFunction.defaults (fun f s => String.ofList (f.apply (String.toList s))) name).trans ?_
    rw [Keyed.get?, found]
    rfl
  refine sanitizer_of_find ?_
  rw [lower, findSanitizer?_of_not_covers uncovered, kept]
  rfl

lemma exists_sanitizer_iff :
    (∃ resolved, registry.sanitizer written arguments = .ok resolved) ↔
      (registry.findSanitizer? (Text.lowerString written)).isSome := by
  rw [sanitizer]
  cases registry.findSanitizer? (Text.lowerString written) with
  | none => exact ⟨nofun, nofun⟩
  | some found => exact ⟨fun _ => rfl, fun _ => ⟨_, rfl⟩⟩

lemma isSome_validator?_iff :
    (registry.validator? written arguments).isSome ↔
      (registry.findValidator? (Text.lowerString written)).isSome := by
  rw [validator?, Option.isSome_map]

lemma sanitizer_congr
    (same : after.findSanitizer? (Text.lowerString written) = before.findSanitizer? (Text.lowerString written)) :
    after.sanitizer written arguments = before.sanitizer written arguments := by
  rw [sanitizer, sanitizer, same]

lemma validator?_congr
    (same : after.findValidator? (Text.lowerString written) = before.findValidator? (Text.lowerString written)) :
    after.validator? written arguments = before.validator? written arguments := by
  rw [validator?, validator?, same]

end Written

/-! ### More rules -/

/-- Every entry of a registry is also one of another one. -/
structure Extends (before after : Registry) : Prop where
  sanitizers : ∀ {name rule}, before.sanitizers.get? name = some rule → after.sanitizers.get? name = some rule
  validators : ∀ {name rule}, before.validators.get? name = some rule → after.validators.get? name = some rule
  textFunctions : ∀ {name function}, before.textFunctions.get? name = some function →
    after.textFunctions.get? name = some function

namespace Extends

lemma refl (registry : Registry) : Extends registry registry := ⟨id, id, id⟩

lemma trans {between : Registry} (first : Extends before between) (second : Extends between after) :
    Extends before after where
  sanitizers found := second.sanitizers (first.sanitizers found)
  validators found := second.validators (first.validators found)
  textFunctions found := second.textFunctions (first.textFunctions found)

/-- A name that stands for a sanitization still stands for one, though maybe for
another one. -/
lemma isSome_findSanitizer? (h : Extends before after) (found : (before.findSanitizer? name).isSome) :
    (after.findSanitizer? name).isSome := by
  rw [isSome_findSanitizer?_iff] at found ⊢
  simp only [Option.isSome_iff_exists] at found ⊢
  rcases found with builtin | ⟨_, custom⟩ | synonym | ⟨_, text⟩ | ⟨_, text⟩
  · exact .inl builtin
  · exact .inr (.inl ⟨_, h.sanitizers custom⟩)
  · exact .inr (.inr (.inl synonym))
  · exact .inr (.inr (.inr (.inl ⟨_, h.textFunctions text⟩)))
  · exact .inr (.inr (.inr (.inr ⟨_, h.textFunctions text⟩)))

lemma isSome_findValidator? (h : Extends before after) (found : (before.findValidator? name).isSome) :
    (after.findValidator? name).isSome := by
  rw [isSome_findValidator?_iff] at found ⊢
  simp only [Option.isSome_iff_exists] at found ⊢
  rcases found with builtin | ⟨_, custom⟩ | synonym
  · exact .inl builtin
  · exact .inr (.inl ⟨_, h.validators custom⟩)
  · exact .inr (.inr synonym)

end Extends

end Registry

end RecordRules
