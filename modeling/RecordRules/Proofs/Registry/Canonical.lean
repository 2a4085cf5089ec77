/-
Resolved names, resolved again.

* `Synonym.resolve_resolve`, `Synonym.lowerString_resolve`: what a name stands for stands for
  itself, and it is in lower case if the name is;
* `Registry.findValidator?_again`: the name under which a validator is found stands for it;
* `Registry.findSanitizer?_again`: so does the name under which a sanitizer is found, unless
  it is the synonym of a text function and a custom sanitizer has the same name;
* `Registration.sanitizers_callAll`: the custom sanitizers of a registry come from the calls
  that succeeded;
* `Registration.resolved_again`: resolved names after any registrations.
-/
import RecordRules.Proofs.Engine.Arguments
import RecordRules.Proofs.Registry.Registration

namespace RecordRules

namespace Synonym

/-! ### Tokens for which others stand -/

/-- A token stands for itself or, as an entry, for a token in lower case that is none. -/
lemma resolve_cases (token : String) :
    resolve token = token ∧ ¬ IsEntry token ∨
      Text.lowerString (resolve token) = resolve token ∧ ¬ IsEntry (resolve token) := by
  cases found : lookup? (Text.lowerString token) with
  | none =>
    have absent : ¬ IsEntry token := lookup?_eq_none_iff.mp found
    exact .inl ⟨(resolve_eq_self_iff token).mpr absent, absent⟩
  | some other =>
    have entry : Text.lowerString token ∈ entries := by
      by_contra absent
      rw [lookup?_eq_none_iff.mpr absent] at found
      cases found
    have same : resolve token = other := by rw [resolve, found, Option.getD_some]
    rw [same]
    exact .inr (lookup?_settled _ entry other found)

lemma resolve_resolve (token : String) : resolve (resolve token) = resolve token := by
  rcases resolve_cases token with ⟨same, -⟩ | ⟨-, absent⟩
  · rw [same, same]
  · exact (resolve_eq_self_iff _).mpr absent

lemma lowerString_resolve {token : String} (lower : Text.lowerString token = token) :
    Text.lowerString (resolve token) = resolve token := by
  rcases resolve_cases token with ⟨same, -⟩ | ⟨settled, -⟩
  · rw [same, lower]
  · exact settled

end Synonym

namespace Registry

variable {registry : Registry} {name canonical : String}

/-! ### Names under which rules are found -/

lemma lowerString_of_found (lower : Text.lowerString name = name)
    (found : canonical = name ∨ canonical = Synonym.resolve name) : Text.lowerString canonical = canonical := by
  rcases found with rfl | rfl
  · exact lower
  · exact Synonym.lowerString_resolve lower

/-- The name under which a validator is found stands for it. -/
lemma findValidator?_again {rule : ValidatorRule} (found : registry.findValidator? name = some (canonical, rule)) :
    registry.findValidator? canonical = some (canonical, rule) := by
  obtain ⟨-, ⟨validator, rfl, named⟩ | ⟨custom, rfl, free, kept⟩⟩ := of_findValidator? found
  · exact findValidator?_of_builtin named
  · exact findValidator?_of_custom free kept

/-- The name under which a sanitizer is found stands for it, but for one case: the name of a
text function that was found by a synonym stands for the custom sanitizer of that name. -/
lemma findSanitizer?_again {rule : SanitizerRule} (found : registry.findSanitizer? name = some (canonical, rule)) :
    registry.findSanitizer? canonical = some (canonical, rule) ∨
      ∃ f custom, rule = .text f ∧ name ≠ canonical ∧ registry.sanitizers.get? canonical = some custom ∧
        registry.findSanitizer? canonical = some (canonical, .custom custom) := by
  by_cases own : canonical = name
  · exact .inl (own ▸ found)
  obtain ⟨under, ⟨sanitizer, rfl, named⟩ | ⟨custom, rfl, free, kept⟩ | ⟨f, rfl, uncovered, kept⟩⟩ :=
    of_findSanitizer? found
  · exact .inl (findSanitizer?_of_builtin named)
  · exact .inl (findSanitizer?_of_custom free kept)
  · -- Found by its synonym: no rule that is always there has that name, a custom one may.
    have synonym : canonical = Synonym.resolve name := under.resolve_left own
    have itself : Synonym.resolve canonical = canonical := by rw [synonym, Synonym.resolve_resolve]
    have free : Sanitizer.named? canonical = none := by
      simp only [Covers, not_or, Option.not_isSome_iff_eq_none] at uncovered
      rw [synonym]
      exact uncovered.2.2
    cases hidden : registry.sanitizers.get? canonical with
    | some custom => exact .inr ⟨f, custom, rfl, Ne.symm own, rfl, findSanitizer?_of_custom free hidden⟩
    | none =>
      have open' : ¬ registry.Covers canonical := by
        rw [Covers, itself, free, hidden]
        simp
      rw [findSanitizer?_of_not_covers open', kept]
      exact .inl rfl

end Registry

namespace Registration

variable {registration : Registration} {registry : Registry} {key : String} {rule : CustomSanitizer}

/-! ### Where custom sanitizers come from -/

lemma sanitizers_insert (found : (registration.insert registry).sanitizers.get? key = some rule) :
    registry.sanitizers.get? key = some rule ∨
      ∃ name, registration = .sanitizer name rule ∧ Text.lowerString name = key := by
  cases registration with
  | sanitizer name added =>
    by_cases same : key = Text.lowerString name
    · rw [insert, Keyed.get?_concat, if_pos same, Option.or_eq_some_iff] at found
      rcases found with kept | ⟨-, new⟩
      · exact .inl kept
      · cases new
        exact .inr ⟨name, rfl, same.symm⟩
    · rw [insert, Keyed.get?_concat_of_ne same] at found
      exact .inl found
  | validator name accepts message => exact .inl found
  | textFunction name function => exact .inl found

/-- After any number of calls, a custom sanitizer was there before or comes from a call that
succeeded. -/
lemma sanitizers_callAll {registrations succeeded : List Registration} {before after : Registry}
    (ran : (callAll registrations).run before = (succeeded, after))
    (found : after.sanitizers.get? key = some rule) :
    before.sanitizers.get? key = some rule ∨
      ∃ name, .sanitizer name rule ∈ succeeded ∧ Text.lowerString name = key := by
  induction registrations generalizing before succeeded with
  | nil =>
    cases ran
    exact .inl found
  | cons registration rest ih =>
    rw [run_callAll_cons] at ran
    split at ran
    · exact ih ran
    · rcases rest_ran : (callAll rest).run (registration.insert before) with ⟨later, last⟩
      rw [rest_ran] at ran
      cases ran
      rcases ih rest_ran with kept | ⟨name, mem, same⟩
      · rcases sanitizers_insert kept with there | ⟨name, rfl, same⟩
        · exact .inl there
        · exact .inr ⟨name, List.mem_cons_self, same⟩
      · exact .inr ⟨name, List.mem_cons_of_mem _ mem, same⟩

/-- **Resolved names, resolved again.** After any sequence of calls on a new registry, the
resolved name of a validation stands for the same validator, under the same name. The
resolved name of a sanitization is its own resolved name, too, and stands for the same
sanitizer, but for one case: the rule is a text function that was found by a synonym of its
name, and a call that succeeded has added a custom sanitizer under that name. Then the
resolved name stands for the custom sanitizer. -/
theorem resolved_again (registrations : List Registration) :
    ∃ succeeded registry, (callAll registrations).run Registry.initial = (succeeded, registry) ∧
      (∀ written arguments resolved, registry.validator? written arguments = some resolved →
        ∀ others, registry.validator? resolved.name others =
          some ⟨resolved.name, Synonym.resolveAll others, resolved.rule⟩) ∧
      ∀ written arguments resolved, registry.sanitizer written arguments = .ok resolved →
        (∀ others, registry.sanitizer resolved.name others =
          .ok ⟨resolved.name, Synonym.resolveAll others, resolved.rule⟩) ∨
        ∃ f name custom, resolved.rule = .text f ∧ Text.lowerString written ≠ resolved.name ∧
          .sanitizer name custom ∈ succeeded ∧ Text.lowerString name = resolved.name ∧
          ∀ others, registry.sanitizer resolved.name others =
            .ok ⟨resolved.name, Synonym.resolveAll others, .custom custom⟩ := by
  rcases ran : (callAll registrations).run Registry.initial with ⟨succeeded, registry⟩
  refine ⟨succeeded, registry, rfl, fun written arguments resolved found others => ?_,
    fun written arguments resolved found => ?_⟩
  · have entry := Registry.found_of_validator? found
    have lower := Registry.lowerString_of_found (Text.lowerString_lowerString written)
      (Registry.of_findValidator? entry).1
    refine Registry.validator?_of_find ?_
    rw [lower]
    exact Registry.findValidator?_again entry
  · have entry := Registry.found_of_sanitizer found
    have lower := Registry.lowerString_of_found (Text.lowerString_lowerString written)
      (Registry.of_findSanitizer? entry).1
    rcases Registry.findSanitizer?_again entry with again | ⟨f, custom, text, differ, kept, again⟩
    · refine .inl fun others => Registry.sanitizer_of_find ?_
      rw [lower]
      exact again
    · obtain ⟨name, called, same⟩ := (sanitizers_callAll ran kept).resolve_left nofun
      refine .inr ⟨f, name, custom, text, differ, called, same, fun others => Registry.sanitizer_of_find ?_⟩
      rw [lower]
      exact again

/-- A text function under another case of its name, found by a synonym and then by its
name. -/
theorem resolved_again_num :
    let double : Registration := .textFunction "Numeric" fun s => s ++ s
    let registry := ((callAll [double]).run Registry.initial).2
    registry.sanitizer "NUM" [] = .ok ⟨"numeric", [], .text fun s => s ++ s⟩ ∧
      registry.sanitizer "numeric" ["int"] = .ok ⟨"numeric", ["integer"], .text fun s => s ++ s⟩ ∧
      registry.validator? "NUM" [] = some ⟨"numeric", [], .builtin .numeric⟩ ∧
      registry.validator? "numeric" ["int"] = some ⟨"numeric", ["integer"], .builtin .numeric⟩ := by
  intro double
  have free : ¬ double.Taken Registry.initial := by decide +kernel
  have ran : (callAll [double]).run Registry.initial = ([double], double.insert Registry.initial) := by
    rw [run_callAll_cons, if_neg free]
    rfl
  obtain ⟨succeeded, registry, ran', validators, sanitizers⟩ := resolved_again [double]
  obtain ⟨rfl, rfl⟩ := Prod.mk.inj (ran.symm.trans ran')
  have found : (double.insert Registry.initial).sanitizer "NUM" [] =
      .ok ⟨"numeric", [], .text fun s => s ++ s⟩ := by
    refine Registry.sanitizer_of_find (Registry.findSanitizer?_of_synonym ?_ ?_ ?_ (stored_insert free))
    · rw [Registry.Covers]
      decide +kernel
    · exact Keyed.get?_eq_none_iff.mpr (by decide +kernel)
    · decide +kernel
  have named : (double.insert Registry.initial).validator? "NUM" [] =
      some ⟨"numeric", [], .builtin .numeric⟩ := by
    have lower : Text.lowerString "NUM" = "num" := by decide +kernel
    have synonym : Synonym.resolve "num" = "numeric" := by decide +kernel
    have unnamed : Validator.named? "num" = none := by decide +kernel
    have target : Validator.named? "numeric" = some .numeric := Validator.numeric.named?_name
    refine Registry.validator?_of_find ?_
    simp only [lower, Registry.findValidator?, synonym, unnamed, target]
    rfl
  rw [ran]
  refine ⟨found, ?_, named, validators _ _ _ named ["int"]⟩
  rcases sanitizers _ _ _ found with again | ⟨_, _, _, _, _, called, _⟩
  · exact again ["int"]
  · simp [double] at called

/-- A custom sanitizer with the name of a text function: by a synonym of this name the text
function is found, and by the name itself the custom sanitizer. -/
theorem not_resolved_again :
    let keep : Registration := .sanitizer "numeric" fun leaf _ => leaf
    let double : Registration := .textFunction "numeric" fun s => s ++ s
    let registry := ((callAll [keep, double]).run Registry.initial).2
    (registry.sanitizer "num" [] = .ok ⟨"numeric", [], .text fun s => s ++ s⟩ ∧
        registry.sanitizer "numeric" [] = .ok ⟨"numeric", [], .custom fun leaf _ => leaf⟩) ∧
      ¬ ∀ registrations written arguments resolved,
        ((callAll registrations).run Registry.initial).2.sanitizer written arguments = .ok resolved →
          ∃ again, ((callAll registrations).run Registry.initial).2.sanitizer resolved.name arguments = .ok again ∧
            again.name = resolved.name ∧ again.rule = resolved.rule := by
  intro keep double registry
  have first : ¬ keep.Taken Registry.initial := by decide +kernel
  have second : ¬ double.Taken (keep.insert Registry.initial) := by decide +kernel
  have after : registry = double.insert (keep.insert Registry.initial) := by
    rw [show registry = ((callAll [keep, double]).run Registry.initial).2 from rfl, run_callAll_cons, if_neg first,
      run_callAll_cons, if_neg second]
    rfl
  have found : registry.sanitizer "num" [] = .ok ⟨"numeric", [], .text fun s => s ++ s⟩ := by
    rw [after]
    refine Registry.sanitizer_of_find (Registry.findSanitizer?_of_synonym ?_ ?_ ?_ (stored_insert second))
    · rw [Registry.Covers]
      decide +kernel
    · exact Keyed.get?_eq_none_iff.mpr (by decide +kernel)
    · decide +kernel
  have custom : registry.sanitizer "numeric" [] = .ok ⟨"numeric", [], .custom fun leaf _ => leaf⟩ := by
    rw [after]
    exact ((stored_insert first).mono (double.extends_insert _)).inEffect (by decide +kernel) "numeric" [] rfl
  refine ⟨⟨found, custom⟩, fun stable => ?_⟩
  obtain ⟨again, called, -, same⟩ := stable [keep, double] "num" [] _ found
  cases custom.symm.trans called
  cases same

end Registration

end RecordRules
