/-
Registrations of rules, one after another.

* `Registration`, `Registration.perform`: the registrations, each from a registry
  to the next one;
* `Registration.call`: the same step by step, on a registry that keeps what is done
  to it, also by a call that fails afterwards;
* `Registration.on_call`: a call adds its rule at the end of its table, or it fails
  because the name is taken and leaves the registry as it was;
* `Registration.Reaches`: the names whose rule a registration may change, with
  `Registration.Effect`: no other name changes, and none is lost;
* `Registration.InEffect`: the names of a registration stand for its rule;
* `Registration.SumsUp`: the names that are taken, summed up from the registrations
  that succeeded;
* `Registration.registry_callAll`: all this after any sequence of calls.
-/
import RecordRules.Proofs.Registry.Resolving

namespace RecordRules

/-- The tables of a registry. -/
inductive RuleTable where
  | sanitizers
  | validators
  | textFunctions
  deriving DecidableEq

namespace RuleTable

/-- The names of the rules that are always there. Text functions have no such
rules. -/
def builtins : RuleTable → List String
  | sanitizers => Sanitizer.all.map Sanitizer.name
  | validators => Validator.all.map Validator.name
  | textFunctions => []

/-- The names that are in a table from the start. -/
def defaults : RuleTable → List String
  | textFunctions => TextFunction.defaults.map (·.1)
  | _ => []

/-- The kind of rule that the names of a table stand for. -/
def kind : RuleTable → RuleKind
  | validators => .validation
  | _ => .sanitization

end RuleTable

namespace Registry

/-- The names in a table, in order. -/
def names (registry : Registry) : RuleTable → List String
  | .sanitizers => registry.sanitizers.keys
  | .validators => registry.validators.keys
  | .textFunctions => registry.textFunctions.keys

lemma names_initial (table : RuleTable) : initial.names table = table.defaults := by
  cases table <;> rfl

end Registry

/-- A registration of a rule under a name. -/
inductive Registration where
  | sanitizer (name : String) (rule : CustomSanitizer)
  | validator (name : String) (accepts : String → Record → List String → Bool) (message : Option String)
  | textFunction (name : String) (function : String → String)

namespace Registration

/-- The name as it is given. -/
def name : Registration → String
  | sanitizer name _ => name
  | validator name _ _ => name
  | textFunction name _ => name

/-- The name under which the rule is kept. -/
def key (registration : Registration) : String := Text.lowerString registration.name

/-- The table that the rule is for. -/
def table : Registration → RuleTable
  | sanitizer _ _ => .sanitizers
  | validator _ _ _ => .validators
  | textFunction _ _ => .textFunctions

/-- A custom validator with its message: one that is empty or not given is the
default template. -/
def validatorWith (accepts : String → Record → List String → Bool) (message : Option String) : CustomValidator :=
  ⟨accepts, (message.filter (· ≠ "")).getD Catalog.defaultLong⟩

/-- The registry with the rule at the end of its table. -/
def insert (registry : Registry) : Registration → Registry
  | sanitizer name rule => { registry with sanitizers := registry.sanitizers ++ [(Text.lowerString name, rule)] }
  | validator name accepts message =>
    { registry with
      validators := registry.validators ++ [(Text.lowerString name, validatorWith accepts message)] }
  | textFunction name function =>
    { registry with textFunctions := registry.textFunctions ++ [(Text.lowerString name, function)] }

/-- The registry after a registration. -/
def perform (registry : Registry) : Registration → Except Fault Registry
  | sanitizer name rule => registry.addSanitizer name rule
  | validator name accepts message => registry.addValidator name accepts message
  | textFunction name function => registry.addTextFunction name function

/-! ### Calls -/

/-- Why the name of a registration is refused. -/
def duplicate (registration : Registration) : Fault := .duplicateRule registration.table.kind registration.key

/-- A registration as a call, step by step. What it has done to the registry stays
done if it fails. -/
def call (registration : Registration) : ExceptT Fault (StateM Registry) Unit := do
  if registration.key ∈ registration.table.builtins then throw registration.duplicate
  let registry ← get
  if registration.key ∈ registry.names registration.table then throw registration.duplicate
  set (registration.insert registry)

/-- The answer of a call, and the registry after it. -/
def on (registration : Registration) (registry : Registry) : Except Fault Unit × Registry :=
  registration.call.run.run registry

/-- Calls one after another, also after one that fails. The answer is the list of
the registrations that succeed. -/
def callAll : List Registration → StateM Registry (List Registration)
  | [] => return []
  | registration :: rest => do
    let answer ← registration.call.run
    let succeeded ← callAll rest
    return if answer.isOk then registration :: succeeded else succeeded

/-- The name of a registration is taken in a registry. -/
def Taken (registration : Registration) (registry : Registry) : Prop :=
  registration.key ∈ registration.table.builtins ∨ registration.key ∈ registry.names registration.table

instance (registration : Registration) (registry : Registry) : Decidable (registration.Taken registry) :=
  inferInstanceAs (Decidable (_ ∨ _))

variable {registration : Registration} {registry before after : Registry}

/-- A registration adds its rule unless its name is taken. -/
lemma perform_eq (registration : Registration) (registry : Registry) :
    registration.perform registry =
      if registration.Taken registry then .error registration.duplicate
      else .ok (registration.insert registry) := by
  cases registration with
  | sanitizer name rule =>
    exact if_congr (or_congr Sanitizer.isSome_named?_iff Keyed.isSome_get?_iff) rfl rfl
  | validator name accepts message =>
    exact if_congr (or_congr Validator.isSome_named?_iff Keyed.isSome_get?_iff) rfl rfl
  | textFunction name function =>
    have no_builtins : (textFunction name function).key ∉ RuleTable.textFunctions.builtins := List.not_mem_nil
    exact if_congr (Keyed.isSome_get?_iff.trans (or_iff_right no_builtins).symm) rfl rfl

/-- A call does what the registration says, and one that fails leaves the registry
as it was. -/
theorem on_call (registration : Registration) (registry : Registry) :
    registration.on registry =
      match registration.perform registry with
      | .ok next => (.ok (), next)
      | .error e => (.error e, registry) := by
  rw [perform_eq]
  by_cases builtin : registration.key ∈ registration.table.builtins
  · have taken : registration.Taken registry := .inl builtin
    rw [if_pos taken, on, call, if_pos builtin]
    rfl
  · have tabled : registration.on registry =
        (if registration.key ∈ registry.names registration.table then throw registration.duplicate
          else set (registration.insert registry) : ExceptT Fault (StateM Registry) Unit).run.run registry := by
      rw [on, call, if_neg builtin]
      rfl
    by_cases kept : registration.key ∈ registry.names registration.table
    · have taken : registration.Taken registry := .inr kept
      rw [if_pos taken, tabled, if_pos kept]
      rfl
    · have free : ¬ registration.Taken registry := not_or.mpr ⟨builtin, kept⟩
      rw [if_neg free, tabled, if_neg kept]
      rfl

lemma on_of_taken (taken : registration.Taken registry) :
    registration.on registry = (.error registration.duplicate, registry) := by
  rw [on_call, perform_eq, if_pos taken]

lemma on_of_free (free : ¬ registration.Taken registry) :
    registration.on registry = (.ok (), registration.insert registry) := by
  rw [on_call, perform_eq, if_neg free]

/-- Calls one after another: the first one, and those after it. -/
lemma run_callAll_cons (registration : Registration) (rest : List Registration) (registry : Registry) :
    (callAll (registration :: rest)).run registry =
      if registration.Taken registry then (callAll rest).run registry
      else ((callAll rest).run (registration.insert registry)).map (registration :: ·) id := by
  have step : (callAll (registration :: rest)).run registry =
      ((callAll rest).run (registration.on registry).2).map
        (fun succeeded => if (registration.on registry).1.isOk then registration :: succeeded else succeeded) id := rfl
  rw [step]
  by_cases taken : registration.Taken registry
  · rw [if_pos taken, on_of_taken taken]
    rfl
  · rw [if_neg taken, on_of_free taken]
    rfl

/-! ### What one registration changes -/

lemma names_insert (registration : Registration) (registry : Registry) (table : RuleTable) :
    (registration.insert registry).names table =
      registry.names table ++ if registration.table = table then [registration.key] else [] := by
  cases registration <;> cases table <;>
    first
      | exact Keyed.keys_concat _ _ _
      | exact (List.append_nil _).symm

/-- The entries that are there stay. -/
lemma extends_insert (registration : Registration) (registry : Registry) :
    registry.Extends (registration.insert registry) := by
  cases registration with
  | sanitizer name rule => exact ⟨Keyed.get?_concat_of_eq_some, id, id⟩
  | validator name accepts message => exact ⟨id, Keyed.get?_concat_of_eq_some, id⟩
  | textFunction name function => exact ⟨id, id, Keyed.get?_concat_of_eq_some⟩

/-- The names whose rule a registration may change: those of its own kind that are
its name in lower case and, for a text function, the synonyms of its name. -/
def Reaches (registration : Registration) (kind : RuleKind) (written : String) : Prop :=
  registration.table.kind = kind ∧
    (Text.lowerString written = registration.key ∨
      registration.table = .textFunctions ∧ Synonym.resolve (Text.lowerString written) = registration.key)

lemma findSanitizer?_insert {written : String} (other : ¬ registration.Reaches .sanitization written) :
    (registration.insert registry).findSanitizer? (Text.lowerString written) =
      registry.findSanitizer? (Text.lowerString written) := by
  cases registration with
  | sanitizer name rule =>
    exact Registry.findSanitizer?_congr (Keyed.get?_concat_of_ne fun same => other ⟨rfl, .inl same⟩) rfl rfl
  | validator name accepts message => rfl
  | textFunction name function =>
    exact Registry.findSanitizer?_congr rfl (Keyed.get?_concat_of_ne fun same => other ⟨rfl, .inl same⟩)
      (Keyed.get?_concat_of_ne fun same => other ⟨rfl, .inr ⟨rfl, same⟩⟩)

lemma findValidator?_insert {written : String} (other : ¬ registration.Reaches .validation written) :
    (registration.insert registry).findValidator? (Text.lowerString written) =
      registry.findValidator? (Text.lowerString written) := by
  cases registration with
  | sanitizer name rule => rfl
  | validator name accepts message =>
    exact Registry.findValidator?_congr (Keyed.get?_concat_of_ne fun same => other ⟨rfl, .inl same⟩)
  | textFunction name function => rfl

/-- What a registration does to the names of a registry: it changes only those that
it reaches, and those that stand for a rule go on to do so. -/
structure Effect (registration : Registration) (before after : Registry) : Prop where
  sanitizations_stay : ∀ written arguments, (∃ resolved, before.sanitizer written arguments = .ok resolved) →
    ∃ resolved, after.sanitizer written arguments = .ok resolved
  validations_stay : ∀ written arguments, (before.validator? written arguments).isSome →
    (after.validator? written arguments).isSome
  other_sanitizations : ∀ written arguments, ¬ registration.Reaches .sanitization written →
    after.sanitizer written arguments = before.sanitizer written arguments
  other_validations : ∀ written arguments, ¬ registration.Reaches .validation written →
    after.validator? written arguments = before.validator? written arguments

lemma Effect.refl (registration : Registration) (registry : Registry) : registration.Effect registry registry :=
  ⟨fun _ _ => id, fun _ _ => id, fun _ _ _ => rfl, fun _ _ _ => rfl⟩

lemma effect_insert (registration : Registration) (registry : Registry) :
    registration.Effect registry (registration.insert registry) where
  sanitizations_stay written arguments found := by
    rw [Registry.exists_sanitizer_iff] at found ⊢
    exact (registration.extends_insert registry).isSome_findSanitizer? found
  validations_stay written arguments found := by
    rw [Registry.isSome_validator?_iff] at found ⊢
    exact (registration.extends_insert registry).isSome_findValidator? found
  other_sanitizations _ _ other := Registry.sanitizer_congr (findSanitizer?_insert other)
  other_validations _ _ other := Registry.validator?_congr (findValidator?_insert other)

/-! ### What stays in effect -/

/-- The rule of a registration is the one that is kept under its name. -/
def Stored (registry : Registry) : Registration → Prop
  | sanitizer name rule => registry.sanitizers.get? (Text.lowerString name) = some rule
  | validator name accepts message =>
    registry.validators.get? (Text.lowerString name) = some (validatorWith accepts message)
  | textFunction name function => registry.textFunctions.get? (Text.lowerString name) = some function

lemma stored_insert (free : ¬ registration.Taken registry) :
    registration.Stored (registration.insert registry) := by
  have fresh := (not_or.mp free).2
  cases registration <;> exact Keyed.get?_concat_self fresh

lemma Stored.mono (h : registration.Stored before) (more : before.Extends after) : registration.Stored after := by
  cases registration with
  | sanitizer name rule => exact more.sanitizers h
  | validator name accepts message => exact more.validators h
  | textFunction name function => exact more.textFunctions h

/-- The rule of a registration is in effect: a custom rule is what its name stands
for, in whatever case. A text function is kept under its name, and its name and the
synonyms of it stand for it unless another rule comes first. -/
def InEffect (registry : Registry) : Registration → Prop
  | sanitizer name rule => ∀ written arguments, Text.lowerString written = Text.lowerString name →
    registry.sanitizer written arguments =
      .ok ⟨Text.lowerString name, Synonym.resolveAll arguments, .custom rule⟩
  | validator name accepts message => ∀ written arguments, Text.lowerString written = Text.lowerString name →
    registry.validator? written arguments =
      some ⟨Text.lowerString name, Synonym.resolveAll arguments, .custom (validatorWith accepts message)⟩
  | textFunction name function =>
    registry.textFunctions.get? (Text.lowerString name) = some function ∧
      ∀ written arguments, ¬ registry.Covers (Text.lowerString written) →
        (Text.lowerString written = Text.lowerString name ∨
          Synonym.resolve (Text.lowerString written) = Text.lowerString name ∧
            registry.textFunctions.get? (Text.lowerString written) = none) →
        registry.sanitizer written arguments =
          .ok ⟨Text.lowerString name, Synonym.resolveAll arguments, .text function⟩

lemma Stored.inEffect (h : registration.Stored registry)
    (free : registration.key ∉ registration.table.builtins) : registration.InEffect registry := by
  cases registration with
  | sanitizer name rule =>
    intro written arguments same
    have no_builtin : Sanitizer.named? (Text.lowerString name) = none :=
      Option.not_isSome_iff_eq_none.mp (mt Sanitizer.isSome_named?_iff.mp free)
    refine Registry.sanitizer_of_find ?_
    rw [same]
    exact Registry.findSanitizer?_of_custom no_builtin h
  | validator name accepts message =>
    intro written arguments same
    have no_builtin : Validator.named? (Text.lowerString name) = none :=
      Option.not_isSome_iff_eq_none.mp (mt Validator.isSome_named?_iff.mp free)
    refine Registry.validator?_of_find ?_
    rw [same]
    exact Registry.findValidator?_of_custom no_builtin h
  | textFunction name function =>
    refine ⟨h, fun written arguments uncovered reached => Registry.sanitizer_of_find ?_⟩
    rw [Registry.findSanitizer?_of_not_covers uncovered]
    rcases reached with same | ⟨synonym, absent⟩
    · rw [same, h]
      rfl
    · rw [absent, synonym, h]
      rfl

lemma extends_callAll (registrations : List Registration) (registry : Registry) :
    registry.Extends ((callAll registrations).run registry).2 := by
  induction registrations generalizing registry with
  | nil => exact .refl registry
  | cons registration rest ih =>
    rw [run_callAll_cons]
    split
    · exact ih registry
    · exact (registration.extends_insert registry).trans (ih _)

/-! ### Which names are taken -/

/-- The names in the tables of a registry are those from the start and then those
of registrations. -/
def SumsUp (succeeded : List Registration) (registry : Registry) : Prop :=
  ∀ table, registry.names table = table.defaults ++ (succeeded.filter (·.table = table)).map key

namespace SumsUp

variable {succeeded : List Registration}

lemma initial : SumsUp [] Registry.initial := fun table => by
  rw [Registry.names_initial]
  exact (List.append_nil _).symm

/-- One more registration. -/
lemma insert (h : SumsUp succeeded registry) (registration : Registration) :
    SumsUp (succeeded ++ [registration]) (registration.insert registry) := fun table => by
  rw [names_insert, h table, List.filter_append, List.map_append, List.append_assoc]
  by_cases same : registration.table = table <;> simp [same]

/-- Any number of registrations, of which those that fail do not count. -/
lemma callAll (h : SumsUp succeeded registry) (registrations : List Registration) :
    SumsUp (succeeded ++ ((callAll registrations).run registry).1) ((callAll registrations).run registry).2 := by
  induction registrations generalizing succeeded registry with
  | nil =>
    have none : (Registration.callAll []).run registry = ([], registry) := rfl
    rw [none, List.append_nil]
    exact h
  | cons registration rest ih =>
    rw [run_callAll_cons]
    split
    · exact ih h
    · have after := ih (h.insert registration)
      rw [List.append_assoc] at after
      exact after

/-- A name is taken by a rule that is always there, by one from the start or by a
registration that succeeded. -/
lemma taken_iff (h : SumsUp succeeded registry) (registration : Registration) :
    registration.Taken registry ↔
      registration.key ∈ registration.table.builtins ∨ registration.key ∈ registration.table.defaults ∨
        ∃ earlier ∈ succeeded, earlier.table = registration.table ∧ earlier.key = registration.key := by
  rw [Taken, h registration.table, List.mem_append]
  simp [and_assoc]

end SumsUp

/-- **Registrations, one after another.** A call does what adding the rule to the registry
does, and leaves the registry as it is if that fails. After any sequence of calls on a new
registry, the names of the rules that are always there stand for them, in whatever
case. One more call succeeds iff its name is none of those, not from the start in
its table and not that of an earlier call for the same table that succeeded; and
else the registry stays as it is. The rule of a call that succeeds is in effect
after any further calls. A call changes only the names that it reaches, and names
that stood for a rule still do. -/
theorem registry_callAll (registrations : List Registration) :
    (∀ (registration : Registration) (registry : Registry), registration.on registry =
      match registration.perform registry with
      | .ok next => (.ok (), next)
      | .error e => (.error e, registry)) ∧
    ∃ succeeded registry, (callAll registrations).run Registry.initial = (succeeded, registry) ∧
      (∀ (sanitizer : Sanitizer) written arguments, Text.lowerString written = Text.lowerString sanitizer.name →
        registry.sanitizer written arguments =
          .ok ⟨sanitizer.name, Synonym.resolveAll arguments, .builtin sanitizer⟩) ∧
      (∀ (validator : Validator) written arguments, Text.lowerString written = Text.lowerString validator.name →
        registry.validator? written arguments =
          some ⟨validator.name, Synonym.resolveAll arguments, .builtin validator⟩) ∧
      ∀ (registration : Registration) answer after, registration.on registry = (answer, after) →
        (answer = .ok () ↔
          registration.key ∉ registration.table.builtins ∧ registration.key ∉ registration.table.defaults ∧
            ∀ earlier ∈ succeeded, earlier.table = registration.table → earlier.key ≠ registration.key) ∧
        (∀ fault, answer = .error fault → fault = registration.duplicate ∧ after = registry) ∧
        (answer = .ok () → ∀ later, registration.InEffect ((callAll later).run after).2) ∧
        registration.Effect registry after := by
  rcases ran : (callAll registrations).run Registry.initial with ⟨succeeded, registry⟩
  have sums := SumsUp.initial.callAll registrations
  rw [ran, List.nil_append] at sums
  refine ⟨on_call, succeeded, registry, rfl, fun sanitizer written arguments same => ?_,
    fun validator written arguments same => ?_, fun registration answer after called => ?_⟩
  · refine Registry.sanitizer_of_find ?_
    rw [same, sanitizer.lowerString_name]
    exact Registry.findSanitizer?_of_builtin sanitizer.named?_name
  · refine Registry.validator?_of_find ?_
    rw [same, validator.lowerString_name]
    exact Registry.findValidator?_of_builtin validator.named?_name
  · have free_iff := not_congr (sums.taken_iff registration)
    simp only [not_or, not_exists, not_and] at free_iff
    rw [← free_iff]
    by_cases taken : registration.Taken registry
    · rw [on_of_taken taken] at called
      cases called
      refine ⟨⟨nofun, fun free => absurd taken free⟩, fun fault same => ?_, nofun, .refl registration registry⟩
      exact ⟨(Except.error.inj same).symm, rfl⟩
    · rw [on_of_free taken] at called
      cases called
      refine ⟨⟨fun _ => taken, fun _ => rfl⟩, nofun, fun _ later => ?_, registration.effect_insert registry⟩
      exact ((stored_insert taken).mono (extends_callAll later _)).inEffect (not_or.mp taken).1

/-- A validator, then another one under the same name in other letters, and one
under a name that is always there. -/
theorem registry_callAll_again :
    let even : Registration := .validator "even" (fun _ _ arguments => arguments.length % 2 == 0) (some "not even")
    let again : Registration := .validator "EVEN" (fun _ _ _ => true) none
    let email : Registration := .validator "Email" (fun _ _ _ => true) none
    ∃ after, even.on Registry.initial = (.ok (), after) ∧
      again.on after = (.error (.duplicateRule .validation "even"), after) ∧
      email.on after = (.error (.duplicateRule .validation "email"), after) ∧
      ((callAll [again, email]).run after).2.validator? "eVEN" ["int"] =
        some ⟨"even", ["integer"], .custom ⟨fun _ _ arguments => arguments.length % 2 == 0, "not even"⟩⟩ := by
  intro even again email
  obtain ⟨-, succeeded, registry, ran, -, -, next⟩ := registry_callAll []
  cases ran
  have free : ¬ even.Taken Registry.initial := by decide +kernel
  obtain ⟨-, -, stays, -⟩ := next even _ _ (on_of_free free)
  refine ⟨_, on_of_free free, ?_, ?_, ?_⟩
  · have named : again.duplicate = .duplicateRule .validation "even" := by decide +kernel
    rw [← named]
    exact on_of_taken (by decide +kernel)
  · have named : email.duplicate = .duplicateRule .validation "email" := by decide +kernel
    rw [← named]
    exact on_of_taken (by decide +kernel)
  · exact stays rfl [again, email] "eVEN" ["int"] (by decide +kernel)

end Registration

end RecordRules
